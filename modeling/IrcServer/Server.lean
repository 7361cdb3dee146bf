import IrcServer.Addressee
import IrcServer.Channel
import IrcServer.Connection
import IrcServer.Directory
import IrcServer.Slab
import IrcServer.User

namespace IrcServer

/-! The state of the server: who is connected, who is registered, and which channels there are.

A registered client is known twice, by its own record and by its entry in the user directory, and
a channel knows its members by nickname.  What is sent to others is found through the user
directory. -/

/-- What a server is told when it starts. -/
structure Profile where
  domain : Text
  /-- The password of the OPER command. -/
  password : Text
  /-- The time of the start, as clients are shown it. -/
  createdAt : Text
  /-- The message of the day. -/
  motd : Option Text
  nickLimit : Nat
  channelLimit : Nat
  /-- How connections are numbered. -/
  numbering : Numbering := .lastFreed

structure Server where
  profile : Profile
  /-- The registered users, by nickname. -/
  users : Directory User
  connections : Slab Connection
  channels : Directory Channel
  /-- How often the operator status has been given. -/
  operators : Nat

/-- A line for the queue of a client. -/
structure Delivery where
  queue : QueueId
  line : Line
deriving DecidableEq, Repr

/-- A line on behalf of a user. -/
def User.line (user : User) (command : Command) (params : List Param) (text : Option Text) : Line :=
  { origin := user.fullName, command := command.name, params, text }

/-- The names of a list, each under its first spelling, without those that are `seen`. -/
def distinctNames : List Text → List Text → List Text
  | _, [] => []
  | seen, name :: rest =>
      if name.fold ∈ seen then distinctNames seen rest
      else name :: distinctNames (name.fold :: seen) rest

/-- The members of some channels, each once and without `nick`. -/
def peersIn (channels : List Channel) (nick : Text) : List Text :=
  distinctNames [nick.fold] (channels.flatMap Channel.nicks)

/-- The members of a channel without `nick`. -/
def Channel.others (channel : Channel) (nick : Text) : List Text :=
  channel.nicks.filter fun other => other.fold ≠ nick.fold

namespace Server

def new (profile : Profile) : Server :=
  { profile, users := .empty, connections := .empty, channels := .empty, operators := 0 }

/-- A client without a nickname of its own is addressed as `*`. -/
def addressee (server : Server) (user : User) : Addressee :=
  ⟨server.profile.domain, if user.registered then user.nick else User.unnamed⟩

def reply (server : Server) (user : User) (reply : Reply) : Line :=
  (server.addressee user).reply reply

/-- A line for each of `nicks` that is registered. -/
def relay (server : Server) (nicks : List Text) (line : Line) : List Delivery :=
  nicks.filterMap fun nick => (server.users.find? nick).map fun user => ⟨user.queue, line⟩

/-- Every channel, by name. -/
def sortedChannels (server : Server) : List Channel :=
  server.channels.values.mergeSort fun left right => left.name.le right.name

/-- The channels that `nick` is in, by name. -/
def channelsOf (server : Server) (nick : Text) : List Channel :=
  server.sortedChannels.filter fun channel => channel.isMember nick

/-- Opens a connection.  Returns its slot. -/
def connect (server : Server) (host : Text) : Nat × Server :=
  let (id, connections) := server.connections.insert server.profile.numbering (.new host)
  (id, { server with connections })

def disconnect (server : Server) (id : Nat) : Server :=
  { server with connections := server.connections.erase id }

def advance (server : Server) (id : Nat) (state : ConnectionState) : Server :=
  { server with connections := server.connections.modify id fun c => c.advance state }

def setChannel (server : Server) (name : Text) (channel : Channel) : Server :=
  { server with channels := server.channels.insert name channel }

/-- Makes the directory's entry of a registered user that user's present record. -/
def refresh (server : Server) (user : User) : Server :=
  match server.users.find? user.nick with
  | some entry =>
      if user.registered ∧ entry.id = user.id then
        { server with users := server.users.modify user.nick fun _ => user }
      else server
  | none => server

end Server

end IrcServer
