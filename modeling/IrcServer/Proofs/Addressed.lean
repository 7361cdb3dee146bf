import IrcServer.Proofs.Act

namespace IrcServer

/-! Whom a message reaches.

Whatever a message has the server say to others is said to clients that stand in the user directory
once the message has been handled.  `Act` does not say so of talk, so every handler is looked at. -/

/-- Each of the lines is for somebody who is in the directory. -/
def Addressed (users : Directory User) (deliveries : List Delivery) : Prop :=
  ∀ delivery ∈ deliveries, ∃ name holder,
    users.find? name = some holder ∧ holder.queue = delivery.queue

namespace Addressed

variable {users : Directory User}

theorem nil (users : Directory User) : Addressed users [] :=
  fun _ member => absurd member List.not_mem_nil

theorem append {first rest : List Delivery} (here : Addressed users first)
    (there : Addressed users rest) : Addressed users (first ++ rest) := by
  intro delivery member
  rcases List.mem_append.mp member with early | late
  · exact here delivery early
  · exact there delivery late

theorem relay (server : Server) (nicks : List Text) (line : Line) :
    Addressed server.users (server.relay nicks line) := by
  intro delivery member
  obtain ⟨_, nick, _, holder, found, queue⟩ := Server.of_mem_relay member
  exact ⟨nick, holder, found, queue⟩

end Addressed

namespace Handler

variable {message : Message} {server : Server} {user : User}

theorem forEach_addressed {α : Type} {items : List α} {step : α → Handler}
    (each : ∀ item server, (step item server user).user = user ∧
      (step item server user).server.users = server.users ∧
      Addressed server.users (step item server user).relayed) :
    (forEach items step server user).server.users = server.users ∧
      Addressed server.users (forEach items step server user).relayed := by
  induction items generalizing server with
  | nil => exact ⟨rfl, .nil _⟩
  | cons item rest inductionHypothesis =>
      obtain ⟨same, users, here⟩ := each item server
      obtain ⟨usersAfter, there⟩ := @inductionHypothesis (step item server user).server
      rw [users] at usersAfter there
      rw [forEach_cons same]
      exact ⟨usersAfter, here.append there⟩

/-! One lemma for each handler that tells others anything. -/

theorem joinOne_addressed (name : Text) (server : Server) :
    (joinOne name server user).user = user ∧
      (joinOne name server user).server.users = server.users ∧
      Addressed server.users (joinOne name server user).relayed := by
  unfold joinOne
  split
  · exact ⟨rfl, rfl, .nil _⟩
  · dsimp only
    split
    · exact ⟨rfl, rfl, .relay (server.setChannel name _) _ _⟩
    · exact ⟨rfl, rfl, .nil _⟩
    · exact ⟨rfl, rfl, .nil _⟩

theorem partOne_addressed (reason name : Text) (server : Server) :
    (partOne reason name server user).user = user ∧
      (partOne reason name server user).server.users = server.users ∧
      Addressed server.users (partOne reason name server user).relayed := by
  unfold partOne
  split
  · exact ⟨rfl, rfl, .nil _⟩
  · split
    · exact ⟨rfl, rfl, .nil _⟩
    · exact ⟨rfl, rfl, .relay (server.leaveChannel name user.nick) _ _⟩

theorem changeMode_addressed (name : Text) (change : Mode.Change) (server : Server) :
    (changeMode name change server user).user = user ∧
      (changeMode name change server user).server.users = server.users ∧
      Addressed server.users (changeMode name change server user).relayed := by
  unfold changeMode
  split
  · exact ⟨rfl, rfl, .nil _⟩
  · split
    · exact ⟨rfl, rfl, .nil _⟩
    · exact ⟨rfl, rfl, .relay server _ _⟩

theorem namesOne_addressed (name : Text) (server : Server) :
    (namesOne name server user).user = user ∧
      (namesOne name server user).server.users = server.users ∧
      Addressed server.users (namesOne name server user).relayed := by
  unfold namesOne
  split
  · exact ⟨rfl, rfl, .nil _⟩
  · exact ⟨rfl, rfl, .nil _⟩

/-- The lines of a list of targets are for those who were in the directory all along. -/
theorem forEach_relayed {α : Type} {items : List α} {step : α → Handler}
    (each : ∀ item server, (step item server user).user = user ∧
      (step item server user).server.users = server.users ∧
      Addressed server.users (step item server user).relayed) :
    Addressed (forEach items step server user).server.users
      (forEach items step server user).relayed := by
  obtain ⟨users, addressed⟩ := @forEach_addressed server user α items step each
  rwa [users]

theorem names_addressed (targets : Text) (server : Server) (user : User) :
    Addressed (names targets server user).server.users (names targets server user).relayed := by
  unfold names
  split
  · exact .nil _
  · exact forEach_relayed namesOne_addressed

theorem mode_addressed (target modes : Text) (params : List Text) (server : Server) (user : User) :
    Addressed (mode target modes params server user).server.users
      (mode target modes params server user).relayed := by
  unfold mode
  split
  · exact .nil _
  split
  · exact .nil _
  split
  · exact forEach_relayed (changeMode_addressed target)
  · exact .nil _

theorem topic_addressed (target : Text) (text : Option Text) (server : Server) (user : User) :
    Addressed (topic target text server user).server.users
      (topic target text server user).relayed := by
  unfold topic setTopic
  split
  · exact .nil _
  split
  · split
    · exact .nil _
    · exact .relay server _ _
  · split
    · exact .nil _
    · exact .nil _

theorem talk_addressed (command : Command) (target text : Text) (server : Server) (user : User) :
    Addressed (talk command target text server user).server.users
      (talk command target text server user).relayed := by
  unfold talk
  split
  · exact .nil _
  split
  · unfold sayToChannel
    split
    · exact .nil _
    split
    · exact .nil _
    · exact .relay server _ _
  · unfold sayToUser
    split
    · exact .nil _
    · rename_i recipient found
      intro delivery member
      rw [List.mem_singleton.mp member]
      exact ⟨target, recipient, found, rfl⟩

theorem register_relayed (server : Server) (user : User) : (register server user).relayed = [] := by
  unfold register
  split
  · split
    · rfl
    · rfl
  · rfl

theorem nick_addressed (name : Text) (server : Server) (user : User) :
    Addressed (nick name server user).server.users (nick name server user).relayed := by
  unfold nick nextNick firstNick
  split
  · exact .nil _
  split
  · exact .nil _
  split
  · split
    · exact .nil _
    split
    · exact .nil _
    · exact .relay (server.rename user name) _ _
  · split
    · exact .nil _
    · rw [register_relayed]
      exact .nil _

theorem whois_relayed (nick : Text) (server : Server) (user : User) :
    (whois nick server user).relayed = [] := by
  unfold whois
  split
  · rfl
  · rfl

theorem oper_relayed (password : Text) (server : Server) (user : User) :
    (oper password server user).relayed = [] := by
  unfold oper
  split
  · rfl
  · rfl

theorem run_addressed (command : Command) (message : Message) (server : Server) (user : User) :
    Addressed (run command message server user).server.users
      (run command message server user).relayed := by
  cases command with
  | join => exact forEach_relayed joinOne_addressed
  | part => exact forEach_relayed (partOne_addressed (message.param 1))
  | mode => exact mode_addressed _ _ _ _ _
  | names => exact names_addressed _ _ _
  | nick => exact nick_addressed _ _ _
  | notice => exact talk_addressed _ _ _ _ _
  | privmsg => exact talk_addressed _ _ _ _ _
  | topic => exact topic_addressed _ _ _ _
  | user =>
      rw [run, Handler.user, register_relayed]
      exact .nil _
  | whois =>
      rw [run, whois_relayed]
      exact .nil _
  | oper =>
      rw [run, oper_relayed]
      exact .nil _
  | away | list | lusers | motd | ping | pong | quit => exact .nil _

theorem handle_addressed (message : Message) (server : Server) (user : User) :
    Addressed (handle message server user).server.users
      (handle message server user).relayed := by
  rcases handle_cases message server user with ⟨_, _, same, _⟩ | ⟨_, _, same⟩
  · rw [same]
    exact .nil _
  · rw [same]
    exact run_addressed _ _ _ _

end Handler

end IrcServer
