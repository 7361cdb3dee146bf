import IrcServer.Server.Reaction

namespace IrcServer

/-! The operators of the server and of its channels: OPER and MODE. -/

namespace Handler

/-- OPER.  The status is counted once for each client. -/
def oper (password : Text) : Handler := fun server user =>
  if password ≠ server.profile.password then
    let refused := refuse [.passwordMismatch] server user
    { refused with server := server.refresh user }
  else
    let operator := { user with operator := true }
    let granted :=
      if user.operator then server else { server with operators := server.operators + 1 }
    say [.youAreOperator] (granted.refresh operator) operator

/-- One change of a channel's modes, made by a client that may make it. -/
def changeMode (name : Text) (change : Mode.Change) : Handler := fun server user =>
  match server.channels.find? name with
  | none => say [] server user
  | some channel =>
      if !channel.isMember change.nick then
        say [.userNotInChannel change.nick channel.name] server user
      else
        let changed := (channel.setOperator change.nick change.enabled).2
        let line := user.line .mode
          [.word channel.name, .word change.modeString, .word change.nick] none
        { server := server.setChannel name changed
          user
          relayed := server.relay (changed.others user.nick) line
          replies := [line]
          verdict := .accepted }

def modeFault (channel : Text) : Mode.Fault → Reply
  | .unknown letter => .unknownMode letter.symbol channel
  | .missingParam _ => .needMoreParams .mode

/-- MODE.  Nothing is changed unless every letter is good and the client may change the channel. -/
def mode (target modes : Text) (params : List Text) : Handler := fun server user =>
  match server.channels.find? target with
  | none => refuse [.noSuchChannel target] server user
  | some channel =>
      match Mode.validate (Mode.channelChanges modes params) with
      | .error fault => refuse [modeFault channel.name fault] server user
      | .ok changes =>
          if user.operator || channel.isOperator user.nick then
            forEach changes (changeMode target) server user
          else refuse [.notChannelOperator channel.name] server user

end Handler

end IrcServer
