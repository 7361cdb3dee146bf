import IrcServer.Text

namespace IrcServer

/-! What the server knows of a client. -/

/-- The number of a client's queue of outgoing lines. -/
abbrev QueueId := Nat

structure User where
  /-- The slot of the client's connection. -/
  id : Nat
  queue : QueueId
  host : Text
  nick? : Option Text
  username? : Option Text
  realname : Text
  registered : Bool
  operator : Bool
  away : Option Text
  /-- Why the client leaves, once it has said so. -/
  quitReason : Option Text
deriving DecidableEq, Repr

namespace User

def new (id : Nat) (host : Text) (queue : QueueId) : User :=
  { id, queue, host, nick? := none, username? := none, realname := [], registered := false,
    operator := false, away := none, quitReason := none }

/-- What stands for a name that has not been given. -/
def unnamed : Text := "*"

def nick (user : User) : Text :=
  user.nick?.getD unnamed

def username (user : User) : Text :=
  user.username?.getD unnamed

/-- `nick!user@host`, the origin of the lines written on behalf of the client.  It is made of the
present names wherever it is shown.  A copy that is kept beside them, and made again by `setNick`,
`clearNick` and `setUsername`, is the same at any time, since nothing else changes a name. -/
def fullName (user : User) : Text :=
  user.nick ++ '!' :: user.username ++ '@' :: user.host

def setNick (user : User) (nick : Text) : User :=
  { user with nick? := some nick }

def clearNick (user : User) : User :=
  { user with nick? := none }

def setUsername (user : User) (username realname : Text) : User :=
  { user with username? := some username, realname }

end User

end IrcServer
