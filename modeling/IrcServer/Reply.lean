import IrcServer.Command
import IrcServer.Line
import IrcServer.Mode
import IrcServer.Program

namespace IrcServer

/-! Numbered replies: what the server has to say to one client about what it asked for.

A reply carries what varies; its code, its parameters and its text are functions of it. -/

inductive Reply where
  | welcome (fullName : Text)
  | yourHost (domain : Text)
  | created (time : Text)
  | myInfo (domain : Text)
  | userCount (registered : Nat)
  | operatorCount (granted : Nat)
  | unknownCount (unknown : Nat)
  | channelCount (channels : Nat)
  | clientCount (clients : Nat)
  | away (nick message : Text)
  | unaway
  | nowAway
  | whoisUser (nick user host real : Text)
  | whoisServer (nick domain : Text)
  | whoisOperator (nick : Text)
  | endOfWhois (nick : Text)
  | whoisChannels (nick channels : Text)
  | listItem (channel : Text) (members : Nat) (title : Text)
  | endOfList
  | noTopic (channel : Text)
  | topic (channel title : Text)
  | names (channel shown : Text)
  | endOfNames (channel : Text)
  | motdStart (domain : Text)
  | motdLine (line : Text)
  | endOfMotd
  | youAreOperator
  | noSuchNick (target : Text)
  | noSuchChannel (target : Text)
  | cannotSend (target : Text)
  | noRecipient (command : Command)
  | noText
  | unknownCommand (word : Text)
  | noMotd
  | noNickname
  | erroneousNickname (nick : Text)
  | nicknameInUse (nick : Text)
  | userNotInChannel (nick channel : Text)
  | notOnChannel (channel : Text)
  | notRegistered
  | needMoreParams (command : Command)
  | alreadyRegistered
  | passwordMismatch
  | unknownMode (letter : Char) (channel : Text)
  | notChannelOperator (channel : Text)
deriving DecidableEq, Repr

namespace Reply

def code : Reply → Text
  | welcome _ => "001"
  | yourHost _ => "002"
  | created _ => "003"
  | myInfo _ => "004"
  | userCount _ => "251"
  | operatorCount _ => "252"
  | unknownCount _ => "253"
  | channelCount _ => "254"
  | clientCount _ => "255"
  | away _ _ => "301"
  | unaway => "305"
  | nowAway => "306"
  | whoisUser .. => "311"
  | whoisServer _ _ => "312"
  | whoisOperator _ => "313"
  | endOfWhois _ => "318"
  | whoisChannels _ _ => "319"
  | listItem .. => "322"
  | endOfList => "323"
  | noTopic _ => "331"
  | topic _ _ => "332"
  | names _ _ => "353"
  | endOfNames _ => "366"
  | motdLine _ => "372"
  | motdStart _ => "375"
  | endOfMotd => "376"
  | youAreOperator => "381"
  | noSuchNick _ => "401"
  | noSuchChannel _ => "403"
  | cannotSend _ => "404"
  | noRecipient _ => "411"
  | noText => "412"
  | unknownCommand _ => "421"
  | noMotd => "422"
  | noNickname => "431"
  | erroneousNickname _ => "432"
  | nicknameInUse _ => "433"
  | userNotInChannel _ _ => "441"
  | notOnChannel _ => "442"
  | notRegistered => "451"
  | needMoreParams _ => "461"
  | alreadyRegistered => "462"
  | passwordMismatch => "464"
  | unknownMode _ _ => "472"
  | notChannelOperator _ => "482"

/-- The parameters between the addressee and the text. -/
def params : Reply → List Param
  | myInfo domain =>
      [.word domain, .word Program.release, .word Mode.userModes, .word Mode.channelModes]
  | operatorCount n | unknownCount n | channelCount n => [.exact (Text.ofNat n)]
  | away nick _ | whoisOperator nick | endOfWhois nick | whoisChannels nick _ => [.word nick]
  | whoisUser nick user host _ => [.word nick, .word user, .word host, .word "*"]
  | whoisServer nick domain => [.word nick, .word domain]
  | listItem channel members _ => [.word channel, .exact (Text.ofNat members)]
  | noTopic channel | topic channel _ | endOfNames channel | notOnChannel channel
  | notChannelOperator channel => [.word channel]
  | names channel _ => [.word "=", .word channel]
  | noSuchNick target | noSuchChannel target | cannotSend target => [.word target]
  | unknownCommand word => [.word word]
  | erroneousNickname nick | nicknameInUse nick => [.word nick]
  | userNotInChannel nick channel => [.word nick, .word channel]
  | needMoreParams command => [.word command.name]
  | unknownMode letter _ => [.word [letter]]
  | _ => []

def text : Reply → Option Text
  | welcome fullName => some ("Welcome to the Internet Relay Network " ++ fullName)
  | yourHost domain =>
      some ("Your host is " ++ domain ++ ", running version " ++ Program.release)
  | created time => some ("This server was created " ++ time)
  | myInfo _ => none
  | userCount n => some ("There are " ++ Text.ofNat n ++ " users and 0 services on 1 servers")
  | operatorCount _ => some "operator(s) online"
  | unknownCount _ => some "unknown connection(s)"
  | channelCount _ => some "channels formed"
  | clientCount n => some ("I have " ++ Text.ofNat n ++ " clients and 1 servers")
  | away _ message => some message
  | unaway => some "You are no longer marked as being away"
  | nowAway => some "You have been marked as being away"
  | whoisUser _ _ _ real => some real
  | whoisServer _ _ => some (Program.name ++ " IRC server")
  | whoisOperator _ => some "is an IRC operator"
  | endOfWhois _ => some "End of WHOIS list"
  | whoisChannels _ channels => some channels
  | listItem _ _ title => some title
  | endOfList => some "End of LIST"
  | noTopic _ => some "No topic is set"
  | topic _ title => some title
  | names _ shown => some shown
  | endOfNames _ => some "End of NAMES list"
  | motdStart domain => some ("- " ++ domain ++ " Message of the day - ")
  | motdLine line => some ("- " ++ line)
  | endOfMotd => some "End of MOTD command"
  | youAreOperator => some "You are now an IRC operator"
  | noSuchNick _ => some "No such nick/channel"
  | noSuchChannel _ => some "No such channel"
  | cannotSend _ => some "Cannot send to channel"
  | noRecipient command => some ("No recipient given (" ++ command.name ++ ")")
  | noText => some "No text to send"
  | unknownCommand _ => some "Unknown command"
  | noMotd => some "MOTD File is missing"
  | noNickname => some "No nickname given"
  | erroneousNickname _ => some "Erroneous nickname"
  | nicknameInUse _ => some "Nickname is already in use"
  | userNotInChannel _ _ => some "They aren't on that channel"
  | notOnChannel _ => some "You're not on that channel"
  | notRegistered => some "You have not registered"
  | needMoreParams _ => some "Not enough parameters"
  | alreadyRegistered => some "Unauthorized command (already registered)"
  | passwordMismatch => some "Password incorrect"
  | unknownMode _ channel => some ("is unknown mode char to me for " ++ channel)
  | notChannelOperator _ => some "You're not channel operator"

end Reply

end IrcServer
