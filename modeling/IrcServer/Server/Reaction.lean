import IrcServer.Server

namespace IrcServer

/-! What comes of a client's message. -/

/-- `rejected` messages reach no command, and `refused` ones are turned down by their command.
`waiting` ones have to be tried again, which never happens as long as one message is handled after
the other. -/
inductive Verdict where
  | accepted
  | refused
  | rejected
  | waiting
deriving DecidableEq, Repr

structure Reaction where
  server : Server
  /-- The client's own record afterwards. -/
  user : User
  /-- Lines for queues found through the user directory, in the order in which they are sent. -/
  relayed : List Delivery
  /-- Lines for the client itself, sent after all others. -/
  replies : List Line
  verdict : Verdict

/-- The part of the server that answers one kind of message of a client. -/
abbrev Handler := Server → User → Reaction

namespace Reaction

/-- All lines of the reaction with their queues. -/
def deliveries (reaction : Reaction) : List Delivery :=
  reaction.relayed ++ reaction.replies.map fun line => ⟨reaction.user.queue, line⟩

/-- `next` after `reaction`, as one reaction. -/
def andThen (reaction : Reaction) (next : Handler) : Reaction :=
  let rest := next reaction.server reaction.user
  { rest with
    relayed := reaction.relayed ++ rest.relayed
    replies := reaction.replies ++ rest.replies }

end Reaction

namespace Handler

def answer (verdict : Verdict) (replies : List Reply) : Handler := fun server user =>
  { server, user, relayed := [], replies := replies.map (server.reply user), verdict }

/-- Changes nothing and says `replies`. -/
def say (replies : List Reply) : Handler := answer .accepted replies

/-- Turns the message down with `replies`. -/
def refuse (replies : List Reply) : Handler := answer .refused replies

/-- Answers the message before it reaches a command. -/
def reject (replies : List Reply) : Handler := answer .rejected replies

/-- One step for each item, each in the state that the one before left. -/
def forEach (items : List α) (step : α → Handler) : Handler :=
  match items with
  | [] => say []
  | item :: rest => fun server user =>
      (step item server user).andThen (forEach rest step)

end Handler

/-- The names of a comma-separated list. -/
def Text.pieces (targets : Text) : List Text :=
  (targets.splitOn ',').filter (· ≠ [])

end IrcServer
