import IrcServer.Server.Reaction

namespace IrcServer

/-! Talking and being away: PRIVMSG, NOTICE, TOPIC, AWAY, PING and QUIT. -/

namespace Handler

/-- What a PRIVMSG is answered.  A NOTICE is never answered. -/
def answers (command : Command) (reply : Reply) : List Reply :=
  if command = .notice then [] else [reply]

/-- A text for all other members of a channel. -/
def sayToChannel (command : Command) (target text : Text) : Handler := fun server user =>
  match server.channels.find? target with
  | none => refuse (answers command (.noSuchNick target)) server user
  | some channel =>
      if !channel.isMember user.nick then
        refuse (answers command (.cannotSend target)) server user
      else
        { server
          user
          relayed := server.relay (channel.others user.nick)
            (user.line command [.word target] (some text))
          replies := []
          verdict := .accepted }

/-- A text for one user. -/
def sayToUser (command : Command) (target text : Text) : Handler := fun server user =>
  match server.users.find? target with
  | none => refuse (answers command (.noSuchNick target)) server user
  | some recipient =>
      let away := recipient.away.toList.flatMap fun message =>
        answers command (.away recipient.nick message)
      { server
        user
        relayed := [⟨recipient.queue, user.line command [.word target] (some text)⟩]
        replies := away.map (server.reply user)
        verdict := .accepted }

/-- PRIVMSG and NOTICE. -/
def talk (command : Command) (target text : Text) : Handler := fun server user =>
  if text = [] then refuse (answers command .noText) server user
  else if target.head? = some '#' then sayToChannel command target text server user
  else sayToUser command target text server user

def setTopic (name : Text) (channel : Channel) (topic : Text) : Handler := fun server user =>
  if !channel.isMember user.nick then refuse [.notOnChannel channel.name] server user
  else
    let line := user.line .topic [.word channel.name] (some topic)
    { server := server.setChannel name (channel.setTopic topic)
      user
      relayed := server.relay (channel.others user.nick) line
      replies := [line]
      verdict := .accepted }

/-- TOPIC: sets the topic if there is a text, else shows it. -/
def topic (target : Text) (text : Option Text) : Handler := fun server user =>
  match server.channels.find? target with
  | none => refuse [.noSuchChannel target] server user
  | some channel =>
      match text with
      | some title => setTopic target channel title server user
      | none =>
          match channel.topic with
          | some title => say [.topic channel.name title] server user
          | none => say [.noTopic channel.name] server user

/-- AWAY.  Without a text the client is back. -/
def away (text : Text) : Handler := fun server user =>
  let gone := { user with away := if text = [] then none else some text }
  say [if text = [] then .unaway else .nowAway] (server.refresh gone) gone

def ping (payload : Text) : Handler := fun server user =>
  { server
    user
    relayed := []
    replies := [(server.addressee user).plainLine Command.pong.name
      [.word server.profile.domain] (some payload)]
    verdict := .accepted }

/-- What is said of a client that quits without a text. -/
def clientQuit : Text := "Client Quit"

def quit (text : Text) : Handler := fun server user =>
  let reason := if text = [] then clientQuit else text
  { server
    user := { user with quitReason := some reason }
    relayed := []
    replies := [{
      origin := []
      command := "ERROR"
      params := []
      text := some ("Closing Link: " ++ user.host ++ " (" ++ reason ++ ")") }]
    verdict := .accepted }

end Handler

end IrcServer
