import IrcServer.Message
import IrcServer.Server.Authority
import IrcServer.Server.Conversation
import IrcServer.Server.Membership
import IrcServer.Server.Registration

namespace IrcServer

/-! From a message to the command that handles it. -/

namespace Handler

/-- What is said to a command with too few parameters. -/
def tooFewParams (command : Command) (params : Nat) : List Reply :=
  match command with
  | .nick | .whois => [.noNickname]
  | .privmsg => if params = 0 then [.noRecipient command] else [.noText]
  | .notice => []
  | _ => [.needMoreParams command]

/-- The command itself, with enough parameters. -/
def run (command : Command) (message : Message) : Handler :=
  let first := message.param 0
  let second := message.param 1
  match command with
  | .away => away first
  | .join => join first
  | .list => list first
  | .lusers => lusers
  | .mode => mode first second (message.params.drop 2)
  | .motd => motd
  | .names => names first
  | .nick => nick first
  | .notice | .privmsg => talk command first second
  | .oper => oper (message.param (message.params.length - 1))
  | .part => part first second
  | .ping => ping first
  | .pong => say []
  | .quit => quit first
  | .topic => topic first message.params[1]?
  | .user => user first (message.param 3)
  | .whois => whois first

/-- The reaction to a message of a client. -/
def handle (message : Message) : Handler := fun server user =>
  match message.verb with
  | .other word => reject (if user.registered then [.unknownCommand word] else []) server user
  | .reply _ =>
      if user.registered then say [] server user else reject [.notRegistered] server user
  | .command command =>
      if !user.registered && !command.beforeRegistration then reject [.notRegistered] server user
      else if user.registered && command = .user then reject [.alreadyRegistered] server user
      else if !message.hasEnoughParams then
        reject (tooFewParams command message.params.length) server user
      else run command message server user

end Handler

end IrcServer
