import IrcServer.Server.Reaction

namespace IrcServer

/-! What clients are told about the server, its channels and its users. -/

/-- The names of `members` in texts of at most `budget` bytes, after the text `line`. -/
def nameTexts (budget : Nat) (line : Text) : List Member → List Text
  | [] => if line = [] then [] else [line]
  | member :: rest =>
      if line = [] then nameTexts budget member.shown rest
      else if budget < line.byteLength + member.nick.byteLength + 2 then
        line :: nameTexts budget member.shown rest
      else nameTexts budget (line ++ ' ' :: member.shown) rest

namespace Server

/-- The bytes that the names of a channel may take on one line, after
`:domain 353 nick = channel :` and before CRLF. -/
def namesBudget (server : Server) (channel : Channel) : Nat :=
  maxLineBytes - (server.profile.domain.byteLength + server.profile.nickLimit +
    channel.name.byteLength + 13)

/-- The members of a channel, in as many replies as needed. -/
def namesReplies (server : Server) (channel : Channel) : List Reply :=
  (nameTexts (server.namesBudget channel) [] channel.members).map (.names channel.name) ++
    [.endOfNames channel.name]

def countConnections (server : Server) (state : ConnectionState) : Nat :=
  server.connections.values.countP fun connection => connection.state = state

def countReplies (server : Server) : List Reply :=
  let identified := server.countConnections .identified
  let registered := server.countConnections .registered
  [.userCount registered, .operatorCount server.operators,
    .unknownCount (server.countConnections .unknown), .channelCount server.channels.size,
    .clientCount (identified + registered)]

def motdReplies (server : Server) : List Reply :=
  match server.profile.motd with
  | none => [.noMotd]
  | some motd => .motdStart server.profile.domain :: motd.lines.map .motdLine ++ [.endOfMotd]

/-- What a client is told when it has registered. -/
def welcomeReplies (server : Server) (user : User) : List Reply :=
  [.welcome user.fullName, .yourHost server.profile.domain, .created server.profile.createdAt,
    .myInfo server.profile.domain] ++ server.countReplies ++ server.motdReplies

/-- The channels of `nick` in one text, marked where it is operator. -/
def channelsText (server : Server) (nick : Text) : Text :=
  [' '].intercalate ((server.channelsOf nick).map fun channel =>
    if channel.isOperator nick then '@' :: channel.name else channel.name)

def whoisReplies (server : Server) (target : User) : List Reply :=
  let channels := server.channelsText target.nick
  [.whoisUser target.nick target.username target.host target.realname] ++
    (if channels = [] then [] else [.whoisChannels target.nick channels]) ++
    [.whoisServer target.nick server.profile.domain] ++
    (target.away.toList.map fun message => .away target.nick message) ++
    (if target.operator then [.whoisOperator target.nick] else []) ++
    [.endOfWhois target.nick]

def listReply (channel : Channel) : Reply :=
  .listItem channel.name channel.memberCount (channel.topic.getD [])

end Server

namespace Handler

def lusers : Handler := fun server user =>
  say server.countReplies server user

def motd : Handler := fun server user =>
  say server.motdReplies server user

/-- LIST: the channels that were asked for, or all of them. -/
def list (targets : Text) : Handler := fun server user =>
  let channels :=
    if targets = [] then server.sortedChannels
    else (targets.splitOn ',').filterMap server.channels.find?
  say (channels.map Server.listReply ++ [.endOfList]) server user

def namesOne (name : Text) : Handler := fun server user =>
  match server.channels.find? name with
  | some channel => say (server.namesReplies channel) server user
  | none => say [.endOfNames name] server user

/-- NAMES: the members of the channels that were asked for, or of all of them. -/
def names (targets : Text) : Handler := fun server user =>
  if targets = [] then say (server.sortedChannels.flatMap server.namesReplies) server user
  else forEach targets.pieces namesOne server user

def whois (nick : Text) : Handler := fun server user =>
  match server.users.find? nick with
  | some target => say (server.whoisReplies target) server user
  | none => refuse [.noSuchNick nick] server user

end Handler

end IrcServer
