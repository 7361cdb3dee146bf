import IrcServer.Proofs.UserDirectory

namespace IrcServer

/-! The operators of the server: who they are, and how many. -/

namespace Act

variable {message : Message} {server : Server} {user : User} {reaction : Reaction}

/-- Only OPER makes operators of the server. -/
theorem operator (act : Act message server user reaction) (other : message.verb ≠ .command .oper) :
    reaction.user.operator = user.operator ∧ reaction.server.operators = server.operators := by
  cases act with
  | marked => exact ⟨rfl, Server.refresh_operators _ _⟩
  | empowered asked => exact absurd asked other
  | enrolled _ giving =>
      rcases giving with ⟨_, rfl, _⟩ | ⟨_, _, _, rfl⟩
      · exact ⟨rfl, rfl⟩
      · exact ⟨rfl, rfl⟩
  | _ => exact ⟨rfl, rfl⟩

end Act

theorem Acts.operator {message : Message} {server : Server} {user : User} {reaction : Reaction}
    (acts : Acts message server user reaction) (other : message.verb ≠ .command .oper) :
    reaction.user.operator = user.operator ∧ reaction.server.operators = server.operators := by
  induction acts with
  | quit => exact ⟨rfl, rfl⟩
  | last act => exact act.operator other
  | next act _ inductionHypothesis =>
      obtain ⟨user, server⟩ := act.operator other
      obtain ⟨laterUser, laterServer⟩ := inductionHypothesis
      exact ⟨laterUser.trans user, laterServer.trans server⟩

namespace Handler

variable {message : Message} {server : Server} {user : User}

/-- A registered client says OPER, and the password is the last thing that it says. -/
def Authorized (password : Text) (message : Message) (user : User) : Prop :=
  user.registered = true ∧ message.verb = .command .oper ∧
    message.params.getLast? = some password

theorem oper_operator (server : Server) (user : User) (password : Text) :
    (oper password server user).user.operator =
        (user.operator || decide (password = server.profile.password)) ∧
      (oper password server user).server.operators + user.operator.toNat =
        server.operators + (oper password server user).user.operator.toNat := by
  unfold oper
  by_cases matching : password = server.profile.password
  · rw [if_neg (not_not_intro matching)]
    simp only [matching, decide_true, Bool.or_true]
    refine ⟨rfl, ?_⟩
    change (Server.refresh _ _).operators + _ = _ + 1
    rw [Server.refresh_operators]
    split
    · rename_i already
      rw [already]
      rfl
    · rename_i new
      rw [eq_false_of_ne_true new]
      rfl
  · rw [if_pos matching]
    simp only [matching, decide_false, Bool.or_false]
    refine ⟨rfl, ?_⟩
    rw [Server.refresh_operators]
    rfl

/-- OPER reaches its command from a registered client that has given anything. -/
theorem handle_oper (asked : message.verb = .command .oper) :
    (user.registered = true ∧ message.params ≠ [] ∧ handle message server user =
        oper (message.param (message.params.length - 1)) server user) ∨
      ¬ (user.registered = true ∧ message.params ≠ []) ∧
        ∃ replies, handle message server user = reject replies server user := by
  unfold handle Message.hasEnoughParams
  rw [asked]
  by_cases registered : user.registered = true
  · by_cases given : message.params = []
    · refine .inr ⟨fun both => both.2 given, tooFewParams .oper message.params.length, ?_⟩
      simp [registered, given, Command.minParams]
    · refine .inl ⟨registered, given, ?_⟩
      have enough : 1 ≤ message.params.length := List.length_pos_iff.mpr given
      simp [registered, enough, Command.minParams, run]
  · refine .inr ⟨fun both => registered both.1, [.notRegistered], ?_⟩
    simp [registered, Command.beforeRegistration]

theorem handle_operator (message : Message) (server : Server) (user : User) :
    ((handle message server user).user.operator = true ↔
        user.operator = true ∨ Authorized server.profile.password message user) ∧
      (handle message server user).server.operators + user.operator.toNat =
        server.operators + (handle message server user).user.operator.toNat := by
  by_cases asked : message.verb = .command .oper
  · rcases handle_oper asked with ⟨registered, given, handled⟩ | ⟨unheard, replies, handled⟩
    · obtain ⟨operator, operators⟩ := oper_operator server user
        (message.param (message.params.length - 1))
      rw [handled]
      refine ⟨?_, operators⟩
      rw [operator, Bool.or_eq_true, decide_eq_true_eq, Authorized, lastParam given,
        Option.some.injEq]
      simp [registered, asked]
    · have unauthorized : ¬ Authorized server.profile.password message user := by
        rintro ⟨registered, _, last⟩
        refine unheard ⟨registered, fun none => ?_⟩
        rw [none] at last
        cases last
      rw [handled]
      exact ⟨⟨.inl, fun known => known.resolve_right unauthorized⟩, rfl⟩
  · obtain ⟨operator, operators⟩ := (handle_acts message server user).operator asked
    have unauthorized : ¬ Authorized server.profile.password message user :=
      fun authorized => asked authorized.2.1
    rw [operator, operators]
    exact ⟨⟨.inl, fun known => known.resolve_right unauthorized⟩, rfl⟩

end Handler

namespace Network

/-- The client has been heard with the password while it was registered. -/
def Granted (profile : Profile) (events : List Event) (number : Nat) : Prop :=
  ∃ before event later client message, events = before ++ event :: later ∧
    ((new profile).after before).speaker? event = some (number, client, message) ∧
    Handler.Authorized profile.password message client.user

theorem granted_append_iff {profile : Profile} {events : List Event} {event : Event}
    {number : Nat} :
    Granted profile (events ++ [event]) number ↔
      Granted profile events number ∨ ∃ client message,
        ((new profile).after events).speaker? event = some (number, client, message) ∧
          Handler.Authorized profile.password message client.user := by
  constructor
  · rintro ⟨before, heard, later, client, message, split, speaks, authorized⟩
    rcases List.eq_nil_or_concat later with rfl | ⟨earlier, last, rfl⟩
    · obtain ⟨rfl, same⟩ := List.append_inj' split rfl
      cases same
      exact .inr ⟨client, message, speaks, authorized⟩
    · rw [List.concat_eq_append, ← List.cons_append, ← List.append_assoc] at split
      obtain ⟨rfl, _⟩ := List.append_inj' split rfl
      exact .inl ⟨before, heard, earlier, client, message, rfl, speaks, authorized⟩
  · rintro (⟨before, heard, later, client, message, rfl, known⟩ | ⟨client, message, known⟩)
    · exact ⟨before, heard, later ++ [event], client, message, by simp, known⟩
    · exact ⟨events, event, [], client, message, rfl, known⟩

/-- The client, gone or not, is an operator of the server. -/
def IsOperator (network : Network) (number : Nat) : Prop :=
  ∃ client, network.client? number = some client ∧ client.user.operator = true

theorem isOperator_replace {network later : Network} {number : Nat} {client after : Client}
    (found : network.client? number = some client)
    (replaced : ∀ other, later.client? other =
      if other = number then some after else network.client? other) {gained : Prop}
    (operator : after.user.operator = true ↔ client.user.operator = true ∨ gained) (other : Nat) :
    later.IsOperator other ↔ network.IsOperator other ∨ other = number ∧ gained := by
  unfold IsOperator
  rw [replaced]
  by_cases same : other = number
  · subst same
    simp [found, operator]
  · simp [same]

theorem isOperator_step (network : Network) (event : Event) (number : Nat) :
    (network.step event).network.IsOperator number ↔
      network.IsOperator number ∨ ∃ client message,
        network.speaker? event = some (number, client, message) ∧
          Handler.Authorized network.server.profile.password message client.user := by
  have unheard : network.speaker? event = none → ((∃ client message,
      network.speaker? event = some (number, client, message) ∧
        Handler.Authorized network.server.profile.password message client.user) ↔ False) := by
    intro silent
    rw [silent]
    simp
  rcases network.step_cases event with ⟨silent, same⟩ | ⟨host, rfl, same⟩ |
    ⟨speaker, client, found, live, ⟨message, rfl, same⟩ | ⟨error, rfl, same⟩ | ⟨rfl, same⟩⟩ <;>
      rw [same]
  · rw [unheard silent, or_false]
    rfl
  · rw [unheard rfl, or_false]
    change (network.connect host).IsOperator number ↔ _
    unfold IsOperator
    rw [client?_connect]
    split
    · rename_i new
      have before : network.client? number = none := by
        rw [new]
        exact List.getElem?_eq_none (Nat.le_refl _)
      simp [before, User.new]
    · rfl
  · rw [isOperator_replace found (client?_handle message found)
      (Handler.handle_operator message network.server client.user).1]
    refine or_congr_right ⟨?_, ?_⟩
    · rintro ⟨rfl, authorized⟩
      exact ⟨client, message, speaker?_eq_some_iff.mpr ⟨rfl, found, live⟩, authorized⟩
    · rintro ⟨other, said, heard, authorized⟩
      obtain ⟨same, there, _⟩ := speaker?_eq_some_iff.mp heard
      cases same
      cases found.symm.trans there
      exact ⟨rfl, authorized⟩
  · rw [unheard rfl, isOperator_replace found (client?_depart found client error)
      (or_false _).symm.to_iff, and_false]
  · have replaced := @client?_setClient network speaker client { client with listening := false }
      found
    change (network.loseQueue speaker client).IsOperator number ↔ _
    rw [unheard rfl, loseQueue, isOperator_replace found replaced (or_false _).symm.to_iff,
      and_false]

/-- The numbers of the clients, gone or not, that are operators of the server. -/
def operators (network : Network) : List Nat :=
  (network.clients.filter fun client => client.user.operator).map fun client => client.user.queue

theorem Orderly.nodup_operators {network : Network} (orderly : network.Orderly) :
    network.operators.Nodup :=
  orderly.nodup_queues.sublist (List.filter_sublist.map _)

theorem Orderly.mem_operators_iff {network : Network} (orderly : network.Orderly) {number : Nat} :
    number ∈ network.operators ↔ network.IsOperator number := by
  unfold operators
  rw [List.mem_map]
  constructor
  · rintro ⟨client, member, rfl⟩
    obtain ⟨known, operator⟩ := List.mem_filter.mp member
    obtain ⟨number, found⟩ := List.mem_iff_getElem?.mp known
    have queue : client.user.queue = number := (orderly number client found).1
    subst queue
    exact ⟨client, found, operator⟩
  · rintro ⟨client, found, operator⟩
    exact ⟨client, List.mem_filter.mpr ⟨List.mem_of_getElem? found, operator⟩,
      (orderly number client found).1⟩

/-- The counter is the number of the clients, gone or not, that are operators. -/
def Counted (network : Network) : Prop :=
  network.server.operators = network.clients.countP fun client => client.user.operator

theorem Counted.replace {network : Network} (counted : network.Counted) {number : Nat}
    {client : Client} (found : network.client? number = some client) {server : Server}
    (after : Client)
    (balance : server.operators + client.user.operator.toNat =
      network.server.operators + after.user.operator.toNat) :
    ({ network with server }.setClient number after).Counted := by
  obtain ⟨inRange, known⟩ := List.getElem?_eq_some_iff.mp found
  unfold Counted at counted ⊢
  change server.operators = (network.clients.set number after).countP _
  -- The count without the replaced client is a difference, and this keeps it from falling below 0.
  have atMost := @List.boole_getElem_le_countP _ (fun client : Client => client.user.operator)
    network.clients number inRange
  rw [List.countP_set inRange, ← counted]
  rw [← counted] at atMost
  rw [known] at atMost ⊢
  cases before : client.user.operator <;> cases now : after.user.operator <;>
    simp [before, now] at balance atMost ⊢ <;> omega

theorem Counted.depart {network : Network} (counted : network.Counted) {number : Nat}
    {client : Client} (found : network.client? number = some client) (error : Option Text) :
    (network.depart number client error).network.Counted := by
  have balance : (network.server.depart client.user error).1.operators +
      client.user.operator.toNat = network.server.operators + client.user.operator.toNat := by
    rw [Server.operators_depart]
  exact counted.replace found { client with live := false } balance

theorem Counted.step {network : Network} (counted : network.Counted) (event : Event) :
    (network.step event).network.Counted := by
  rcases network.step_cases event with ⟨_, same⟩ | ⟨host, _, same⟩ |
    ⟨number, client, found, _, ⟨message, _, same⟩ | ⟨error, _, same⟩ | ⟨_, same⟩⟩ <;> rw [same]
  · exact counted
  · change _ = (network.clients ++ [_]).countP _
    rw [List.countP_append, ← counted]
    rfl
  · have reacted := counted.replace found
      { client with user := (Handler.handle message network.server client.user).user }
      (Handler.handle_operator message network.server client.user).2
    rw [handle_eq]
    dsimp only
    split
    · have here := client?_reacted found (Handler.handle message network.server client.user) number
      rw [if_pos rfl] at here
      exact Counted.depart reacted here none
    · exact reacted
  · exact counted.depart found error
  · exact counted.replace found _ rfl

theorem operators_after (profile : Profile) (events : List Event) :
    (∀ number, ((new profile).after events).IsOperator number ↔ Granted profile events number) ∧
      ((new profile).after events).Counted := by
  induction events using List.reverseRecOn with
  | nil =>
      refine ⟨fun number => ⟨?_, ?_⟩, rfl⟩
      · rintro ⟨client, found, _⟩
        cases found
      · rintro ⟨before, event, later, _, _, split, _⟩
        cases before <;> cases split
  | append_singleton events event inductionHypothesis =>
      obtain ⟨granted, counted⟩ := inductionHypothesis
      have profileEq := (registry_after profile events).profileEq
      refine ⟨fun number => ?_, ?_⟩
      · rw [after_append, isOperator_step, granted_append_iff, granted, profileEq]
      · rw [after_append]
        exact counted.step event

end Network

end IrcServer
