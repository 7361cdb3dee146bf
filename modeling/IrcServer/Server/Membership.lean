import IrcServer.Name
import IrcServer.Server.Report

namespace IrcServer

/-! Entering and leaving channels: JOIN and PART, and the departure of a client. -/

namespace Directory

/-- The channels without one that nobody is in, if it is the one that stands under its name.  It is
closed before it is given up. -/
def removeIfEmpty (channels : Directory Channel) (channel : Channel) : Directory Channel :=
  let closing := channel.closeIfEmpty
  if channels.find? channel.name = some channel ∧ closing.1 = true then
    (channels.modify channel.name fun _ => closing.2).erase channel.name
  else channels

/-- The channels after `nick` has left the one of that name. -/
def leave (channels : Directory Channel) (name nick : Text) : Directory Channel :=
  match channels.find? name with
  | none => channels
  | some channel =>
      let leaving := channel.leave nick
      let changed := channels.modify name fun _ => leaving.2
      if leaving.1 = .emptyAfter then changed.removeIfEmpty leaving.2 else changed

end Directory

namespace Server

/-- The server after `nick` has left the channel of that name. -/
def leaveChannel (server : Server) (name nick : Text) : Server :=
  { server with channels := server.channels.leave name nick }

/-- The server after `nick` has left every channel that it is in, and the user directory. -/
def removeUser (server : Server) (nick : Text) : Server :=
  { server with
    users := server.users.erase nick
    channels := (server.channelsOf nick).foldl
      (fun channels channel => channels.leave channel.name nick) server.channels }

/-- What is said of a client that left without a word. -/
def connectionReset : Text := "Connection reset by peer"

/-- Why a client is gone: its own words, else the error of its connection. -/
def departureReason (user : User) (error : Option Text) : Text :=
  (user.quitReason.or error).getD connectionReset

/-- A client is gone.  Those who shared a channel with it are told. -/
def depart (server : Server) (user : User) (error : Option Text) : Server × List Delivery :=
  if user.registered then
    let peers := peersIn (server.channelsOf user.nick) user.nick
    let removed := server.removeUser user.nick
    (removed.disconnect user.id,
      removed.relay peers (user.line .quit [] (some (departureReason user error))))
  else (server.disconnect user.id, [])

end Server

namespace Handler

/-- JOIN of one channel.  Who creates it is its operator, and who is in it already is told
nothing.  A channel that is closed is about to be given up, and the message waits for that. -/
def joinOne (name : Text) : Handler := fun server user =>
  if !ChannelName.isValid server.profile.channelLimit name then
    say [.noSuchChannel name] server user
  else
    let listed := server.channels.find? name
    match (listed.getD (.new name)).join user.nick listed.isNone with
    | (.joined, channel) =>
        let joined := server.setChannel name channel
        let line := user.line .join [.word channel.name] none
        let topic := channel.topic.toList.map fun title => Reply.topic channel.name title
        { server := joined
          user
          relayed := joined.relay (channel.others user.nick) line
          replies := line :: (topic ++ joined.namesReplies channel).map (joined.reply user)
          verdict := .accepted }
    | (.alreadyMember, _) => say [] server user
    | (.closed, _) => answer .waiting [] server user

def join (targets : Text) : Handler :=
  forEach targets.pieces joinOne

def partLine (user : User) (channel reason : Text) : Line :=
  user.line .part [.word channel] (if reason = [] then none else some reason)

/-- PART of one channel. -/
def partOne (reason name : Text) : Handler := fun server user =>
  match server.channels.find? name with
  | none => say [.noSuchChannel name] server user
  | some channel =>
      if !channel.isMember user.nick then say [.notOnChannel name] server user
      else
        let line := partLine user channel.name reason
        let left := server.leaveChannel name user.nick
        { server := left
          user
          relayed := left.relay (channel.leave user.nick).2.nicks line
          replies := [line]
          verdict := .accepted }

def part (targets reason : Text) : Handler :=
  forEach targets.pieces (partOne reason)

end Handler

end IrcServer
