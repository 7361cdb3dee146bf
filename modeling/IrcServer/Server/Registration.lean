import IrcServer.Name
import IrcServer.Server.Report

namespace IrcServer

/-! How a client gets its names: NICK and USER, and the registration that follows once it has
given both. -/

namespace Server

/-- Whether another client than `user` holds `nick`. -/
def heldByOther (server : Server) (user : User) (nick : Text) : Bool :=
  (server.users.find? nick).any fun holder => holder.id ≠ user.id

/-- Enters a user that has given both names in the user directory. -/
def enroll (server : Server) (nick : Text) (user : User) : Server :=
  { server with users := server.users.insert nick user }.advance user.id .registered

/-- Moves a user to another nickname, in the directory and in its channels. -/
def rename (server : Server) (user : User) (nick : Text) : Server :=
  { server with
    users := (server.users.erase user.nick).insert nick (user.setNick nick)
    channels := server.channels.map fun channel => (channel.rename user.nick nick).2 }

/-- The channels of a user that is about to be renamed, as they are afterwards. -/
def renamedChannels (server : Server) (user : User) (nick : Text) : List Channel :=
  (server.channels.values.filter fun channel => channel.isMember user.nick).map
    fun channel => (channel.rename user.nick nick).2

end Server

namespace Handler

/-- Registers the client if it has given both its nickname and its username.  A nickname that
somebody else has taken meanwhile is lost. -/
def register : Handler := fun server user =>
  match user.nick?, user.username? with
  | some nick, some _ =>
      if server.users.contains nick then
        refuse [.nicknameInUse nick] server user.clearNick
      else
        let registered := { user with registered := true }
        let enrolled := server.enroll nick registered
        say (enrolled.welcomeReplies registered) enrolled registered
  | _, _ => say [] server user

/-- NICK of a client that is not registered. -/
def firstNick (nick : Text) : Handler := fun server user =>
  if server.users.contains nick then refuse [.nicknameInUse nick] server user
  else register (server.advance user.id .identified) (user.setNick nick)

/-- NICK of a registered client. -/
def nextNick (nick : Text) : Handler := fun server user =>
  if user.nick = nick then say [] server user
  else if server.heldByOther user nick then refuse [.nicknameInUse nick] server user
  else
    let line := user.line .nick [.word nick] none
    let renamed := server.rename user nick
    { server := renamed
      user := user.setNick nick
      relayed := renamed.relay (peersIn (server.renamedChannels user nick) nick) line
      replies := [line]
      verdict := .accepted }

def nick (name : Text) : Handler := fun server user =>
  if name = [] then refuse [.noNickname] server user
  else if !Nickname.isValid server.profile.nickLimit name then
    refuse [.erroneousNickname name] server user
  else if user.registered then nextNick name server user
  else firstNick name server user

def user (username realname : Text) : Handler := fun server user =>
  register (server.advance user.id .identified) (user.setUsername username realname)

end Handler

end IrcServer
