import IrcServer.LineReader
import IrcServer.Message.Parser
import IrcServer.Network

namespace IrcServer

/-! Clients behind byte streams: the bytes of a connection are read as lines, every line that is a
message is handled, and the end of the stream is the departure of its client. -/

/-- A network with the unfinished line of every connection, by client number. -/
structure Wire where
  network : Network
  unfinished : List PartialLine

namespace Wire

def new (profile : Profile) : Wire :=
  { network := .new profile, unfinished := [] }

def connect (wire : Wire) (host : Text) : Wire :=
  { network := wire.network.connect host
    unfinished := wire.unfinished ++ [.empty] }

/-- Lines of a client, in order.  Those that are no messages are passed over, and the rest are
dropped once the connection is closed. -/
def handleLines (network : Network) (number : Nat) : List Text → Network.Outcome
  | [] => network.idle
  | line :: rest =>
      match Message.parse? line with
      | none => handleLines network number rest
      | some message =>
          let outcome := network.step (.said number message)
          if outcome.closed then outcome
          else
            let later := handleLines outcome.network number rest
            { later with received := outcome.received ++ later.received }

/-- Bytes arrive from a client. -/
def receive (wire : Wire) (number : Nat) (bytes : List UInt8) : Wire × Network.Outcome :=
  let line := wire.unfinished.getD number .empty
  let (lines, left) := line.feed maxLineBytes bytes
  let outcome := handleLines wire.network number (lines.map ReadLine.text)
  ({ network := outcome.network, unfinished := wire.unfinished.set number left }, outcome)

/-- The stream of a client ends.  A line without an ending is its last line. -/
def finish (wire : Wire) (number : Nat) : Wire × Network.Outcome :=
  let line := wire.unfinished.getD number .empty
  let last := if line.taken = 0 then [] else [line.text maxLineBytes]
  let said := handleLines wire.network number last
  let left := said.network.step (.left number none)
  let outcome := { left with received := said.received ++ left.received, closed := true }
  ({ wire with network := outcome.network }, outcome)

end Wire

end IrcServer
