import IrcServer.Main
import IrcServer.Proofs.Act
import IrcServer.Proofs.Keyed
import IrcServer.Proofs.Run
import IrcServer.Proofs.Registry
import IrcServer.Proofs.UserDirectory
import IrcServer.Proofs.Consistent
import IrcServer.Proofs.ChannelDirectory
import IrcServer.Proofs.Words
import IrcServer.Proofs.Heard
import IrcServer.Proofs.News
import IrcServer.Proofs.Relay
import IrcServer.Proofs.Sent
import IrcServer.Proofs.View
import IrcServer.Proofs.Tidy
import IrcServer.Proofs.Rooms
import IrcServer.Proofs.Tracks
import IrcServer.Proofs.Observe
import IrcServer.Proofs.Perform
import IrcServer.Proofs.Replay
import IrcServer.Proofs.ChannelReplay
import IrcServer.Proofs.Deeds
import IrcServer.Proofs.Flags
import IrcServer.Proofs.Powers
import IrcServer.Proofs.Provenance
import IrcServer.Proofs.Talk
import IrcServer.Proofs.Departure
import IrcServer.Proofs.Renaming
import IrcServer.Proofs.Progress
import IrcServer.Proofs.Welcome
import IrcServer.Proofs.Refusal
import IrcServer.Proofs.Reading
import IrcServer.Proofs.RoundTrip
import IrcServer.Proofs.Addressed
import IrcServer.Proofs.Isolation
import IrcServer.Proofs.Changes
import IrcServer.Proofs.Others
import IrcServer.Proofs.Frame
import IrcServer.Proofs.Grammar
import IrcServer.Proofs.Segments
import IrcServer.Proofs.Encoding
import IrcServer.Proofs.Lacks
import IrcServer.Proofs.Holdings
import IrcServer.Proofs.Written
import IrcServer.Proofs.Framing
import IrcServer.Proofs.Shortened
import IrcServer.Proofs.Utterance
import IrcServer.Proofs.NameLists
import IrcServer.Proofs.Whois
import IrcServer.Proofs.Relayed
import IrcServer.Proofs.Grounded
import IrcServer.Proofs.Numerics
import IrcServer.Proofs.Labels
import IrcServer.Proofs.Commute
import IrcServer.Proofs.Chronicle
import IrcServer.Proofs.Follows
import IrcServer.Proofs.Announced
import IrcServer.Proofs.Incarnations
import IrcServer.Proofs.Cuts
import IrcServer.Proofs.Sequences
import IrcServer.Proofs.ModeChanges
import IrcServer.Proofs.Orders
import IrcServer.Proofs.ModeLetters
import IrcServer.Proofs.MemberMap
import IrcServer.Proofs.ChannelOperations
import IrcServer.Proofs.Configuration
import IrcServer.Proofs.Encoders
