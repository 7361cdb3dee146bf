import IrcServer.Text

namespace IrcServer

/-! A channel: its members in the order in which they joined, and its topic.

Nicknames are compared by their folded form.  A channel that was closed while empty stays closed:
nobody can join it any more. -/

structure Member where
  nick : Text
  operator : Bool
deriving DecidableEq, Repr

/-- The member as lists of names show it. -/
def Member.shown (member : Member) : Text :=
  if member.operator then '@' :: member.nick else member.nick

def Member.isNamed (nick : Text) (member : Member) : Bool :=
  member.nick.fold = nick.fold

structure Channel where
  /-- The name as its creator spelled it. -/
  name : Text
  members : List Member
  topic : Option Text
  closed : Bool
deriving DecidableEq, Repr

inductive JoinOutcome where
  | joined
  | alreadyMember
  | closed
deriving DecidableEq, Repr

inductive LeaveOutcome where
  | left
  | notMember
  | emptyAfter
deriving DecidableEq, Repr

/-- `change` made to the first element that is `wanted`. -/
def changeFirst (wanted : α → Bool) (change : α → α) : List α → List α
  | [] => []
  | first :: rest =>
      if wanted first then change first :: rest else first :: changeFirst wanted change rest

namespace Channel

def new (name : Text) : Channel :=
  { name, members := [], topic := none, closed := false }

def member? (channel : Channel) (nick : Text) : Option Member :=
  channel.members.find? (Member.isNamed nick)

def isMember (channel : Channel) (nick : Text) : Bool :=
  channel.members.any (Member.isNamed nick)

def isOperator (channel : Channel) (nick : Text) : Bool :=
  (channel.member? nick).any Member.operator

def nicks (channel : Channel) : List Text :=
  channel.members.map Member.nick

def memberCount (channel : Channel) : Nat :=
  channel.members.length

/-- Adds a member at the end. -/
def join (channel : Channel) (nick : Text) (operator : Bool) : JoinOutcome × Channel :=
  if channel.closed then (.closed, channel)
  else if channel.isMember nick then (.alreadyMember, channel)
  else (.joined, { channel with members := channel.members ++ [⟨nick, operator⟩] })

def leave (channel : Channel) (nick : Text) : LeaveOutcome × Channel :=
  if channel.isMember nick then
    let members := channel.members.eraseP (Member.isNamed nick)
    (if members = [] then .emptyAfter else .left, { channel with members })
  else (.notMember, channel)

/-- Changes the nickname of a member, which keeps its place and its flag.  Tells whether there was
such a member. -/
def rename (channel : Channel) (old new : Text) : Bool × Channel :=
  (channel.isMember old,
    { channel with
      members := changeFirst (Member.isNamed old) (fun member => { member with nick := new })
        channel.members })

/-- Sets the flag of a member.  Tells whether there was such a member. -/
def setOperator (channel : Channel) (nick : Text) (operator : Bool) : Bool × Channel :=
  (channel.isMember nick,
    { channel with
      members := changeFirst (Member.isNamed nick) (fun member => { member with operator })
        channel.members })

/-- Sets the topic.  An empty text takes it away. -/
def setTopic (channel : Channel) (topic : Text) : Channel :=
  { channel with topic := if topic = [] then none else some topic }

/-- Closes the channel if nobody is in it.  Tells whether the channel is closed. -/
def closeIfEmpty (channel : Channel) : Bool × Channel :=
  let closed := channel.closed || channel.members = []
  (closed, { channel with closed })

end Channel

end IrcServer
