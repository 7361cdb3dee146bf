import IrcServer.Server.Dispatch

namespace IrcServer

/-! The server among its clients.

Clients are numbered in the order in which they came, and a client's number is the number of its
queue.  A client is live until it has gone; what it knows of itself is its own record.  A queue
whose other end is lost takes no more lines, and the loss is found out when the client is answered
the next time. -/

structure Client where
  user : User
  live : Bool
  /-- The other end of the client's queue is still there. -/
  listening : Bool
deriving DecidableEq, Repr

structure Network where
  server : Server
  clients : List Client

namespace Network

def new (profile : Profile) : Network :=
  { server := .new profile, clients := [] }

def client? (network : Network) (number : Nat) : Option Client :=
  network.clients[number]?

def isLive (network : Network) (number : Nat) : Bool :=
  (network.client? number).any Client.live

def isListening (network : Network) (number : QueueId) : Bool :=
  (network.client? number).any Client.listening

def setClient (network : Network) (number : Nat) (client : Client) : Network :=
  { network with clients := network.clients.set number client }

/-- What of `deliveries` is received. -/
def received (network : Network) (deliveries : List Delivery) : List Delivery :=
  deliveries.filter fun delivery => network.isListening delivery.queue

/-- What a step comes to: the network after it, the lines that clients receive, and whether the
client's connection was closed. -/
structure Outcome where
  network : Network
  received : List Delivery
  closed : Bool

/-- The text that a client receives. -/
def Outcome.textFor (outcome : Outcome) (number : QueueId) : Text :=
  (outcome.received.filter fun delivery => delivery.queue = number).flatMap
    fun delivery => delivery.line.wire

/-- A new client. -/
def connect (network : Network) (host : Text) : Network :=
  let (id, server) := network.server.connect host
  { server
    clients := network.clients ++
      [{ user := .new id host network.clients.length, live := true, listening := true }] }

/-- A client is gone, as `user`. -/
def depart (network : Network) (number : Nat) (client : Client) (error : Option Text) : Outcome :=
  let (server, deliveries) := network.server.depart client.user error
  { network := { network with server }.setClient number { client with live := false }
    received := network.received deliveries
    closed := true }

/-- A message of a client.  The connection is closed when the client cannot be answered, or when it
has quit and the message was handled. -/
def handle (network : Network) (number : Nat) (client : Client) (message : Message) : Outcome :=
  let reaction := Handler.handle message network.server client.user
  let client := { client with user := reaction.user }
  let reacted := { network with server := reaction.server }.setClient number client
  let received := reacted.received reaction.deliveries
  let failed := reaction.replies ≠ [] && !client.listening
  let quits := reaction.verdict ≠ .rejected && reaction.user.quitReason.isSome
  if failed || quits then
    let departed := reacted.depart number client none
    { departed with received := received ++ departed.received }
  else { network := reacted, received, closed := false }

/-- The other end of a client's queue is lost. -/
def loseQueue (network : Network) (number : Nat) (client : Client) : Network :=
  network.setClient number { client with listening := false }

end Network

/-- What can happen next on a network. -/
inductive Event where
  | connected (host : Text)
  | said (client : Nat) (message : Message)
  | left (client : Nat) (error : Option Text)
  | lostQueue (client : Nat)
deriving DecidableEq, Repr

namespace Network

/-- Nothing happens. -/
def idle (network : Network) : Outcome :=
  { network, received := [], closed := false }

/-- One event.  Events of clients that have gone, or never came, do nothing. -/
def step (network : Network) : Event → Outcome
  | .connected host => (network.connect host).idle
  | .said number message =>
      match network.client? number with
      | some client => if client.live then network.handle number client message else network.idle
      | none => network.idle
  | .left number error =>
      match network.client? number with
      | some client => if client.live then network.depart number client error else network.idle
      | none => network.idle
  | .lostQueue number =>
      match network.client? number with
      | some client => if client.live then (network.loseQueue number client).idle else network.idle
      | none => network.idle

end Network

end IrcServer
