import IrcServer.Text

namespace IrcServer

/-! The commands that the server knows, with their names on the wire. -/

inductive Command where
  | away | join | list | lusers | mode | motd | names | nick | notice | oper
  | part | ping | pong | privmsg | quit | topic | user | whois
deriving DecidableEq, Repr

namespace Command

def all : List Command :=
  [away, join, list, lusers, mode, motd, names, nick, notice, oper,
    part, ping, pong, privmsg, quit, topic, user, whois]

def name : Command → Text
  | away => "AWAY"
  | join => "JOIN"
  | list => "LIST"
  | lusers => "LUSERS"
  | mode => "MODE"
  | motd => "MOTD"
  | names => "NAMES"
  | nick => "NICK"
  | notice => "NOTICE"
  | oper => "OPER"
  | part => "PART"
  | ping => "PING"
  | pong => "PONG"
  | privmsg => "PRIVMSG"
  | quit => "QUIT"
  | topic => "TOPIC"
  | user => "USER"
  | whois => "WHOIS"

/-- The command that a word names.  Letters may be of either case. -/
def ofName? (word : Text) : Option Command :=
  all.find? fun command => command.name = word.toUpper

theorem find_name (command : Command) :
    (all.find? fun other => other.name = command.name) = some command := by
  cases command <;> decide

theorem ofName?_eq_some_iff {word : Text} {command : Command} :
    ofName? word = some command ↔ word.toUpper = command.name := by
  constructor
  · intro found
    unfold ofName? at found
    have named : command.name = word.toUpper := by simpa using List.find?_some found
    exact named.symm
  · intro named
    unfold ofName?
    rw [named]
    exact command.find_name

theorem toUpper_name (command : Command) : command.name.toUpper = command.name := by
  cases command <;> decide

@[simp] theorem ofName?_name (command : Command) : ofName? command.name = some command :=
  ofName?_eq_some_iff.mpr command.toUpper_name

theorem name_injective {left right : Command} (same : left.name = right.name) : left = right := by
  have read : some left = some right := by rw [← ofName?_name left, same, ofName?_name]
  exact Option.some.inj read

/-- The fewest parameters with which the command means anything. -/
def minParams : Command → Nat
  | away | list | lusers | motd | names | pong | quit => 0
  | join | nick | oper | part | ping | topic | whois => 1
  | notice | privmsg => 2
  | mode => 3
  | user => 4

/-- Whether a client may send the command before it has registered. -/
def beforeRegistration : Command → Bool
  | nick | user | ping | pong | quit => true
  | _ => false

end Command

end IrcServer
