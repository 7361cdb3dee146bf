import IrcServer.Proofs.Addressed
import IrcServer.Proofs.Welcome

namespace IrcServer

/-! Clients that are not registered.

A nickname that such a client has given stands in its own record only.  Lines find their readers
through the user directory, so nothing reaches it but what it is answered itself; and what it says
reaches nobody, as no channel has it for a member even when it has just been registered. -/

/-- What a message can come to while its client is not registered. -/
structure Reaction.Secluded (reaction : Reaction) (server : Server) : Prop where
  relayed : reaction.relayed = []
  channels : reaction.server.channels = server.channels
  operators : reaction.server.operators = server.operators
  users : reaction.user.registered = false → reaction.server.users = server.users
  /-- Whoever is registered by the message takes a name that nobody held. -/
  fresh : reaction.user.registered = true → server.users.contains reaction.user.nick = false

namespace Handler

variable {message : Message} {server : Server} {user : User}

theorem answer_secluded (unregistered : user.registered = false) (verdict : Verdict)
    (replies : List Reply) : (answer verdict replies server user).Secluded server where
  relayed := rfl
  channels := rfl
  operators := rfl
  users _ := rfl
  fresh known := by cases unregistered.symm.trans known

theorem register_secluded (unregistered : user.registered = false) :
    (register server user).Secluded server := by
  unfold register
  split
  · rename_i nick username nickGiven usernameGiven
    split
    · exact ⟨rfl, rfl, rfl, fun _ => rfl, fun known => by cases unregistered.symm.trans known⟩
    · rename_i free
      refine ⟨rfl, rfl, rfl, (fun given => by cases given), fun _ => ?_⟩
      have named : User.nick { user with registered := true } = nick := by
        rw [User.nick, nickGiven, Option.getD_some]
      exact (congrArg server.users.contains named).trans (eq_false_of_ne_true free)
  · exact answer_secluded unregistered _ _

/-- The step of the connection that goes with a first name is nobody else's. -/
theorem register_advance_secluded {given : User} (unregistered : given.registered = false)
    (id : Nat) : (register (server.advance id .identified) given).Secluded server := by
  obtain ⟨relayed, channels, operators, users, fresh⟩ :=
    @register_secluded (server.advance id .identified) given unregistered
  exact ⟨relayed, channels, operators, users, fresh⟩

theorem nick_secluded (unregistered : user.registered = false) (name : Text) :
    (nick name server user).Secluded server := by
  unfold nick firstNick
  split
  · exact answer_secluded unregistered _ _
  split
  · exact answer_secluded unregistered _ _
  rw [unregistered, if_neg Bool.false_ne_true]
  split
  · exact answer_secluded unregistered _ _
  · exact @register_advance_secluded server (user.setNick name) unregistered user.id

theorem handle_secluded (unregistered : user.registered = false) :
    (handle message server user).Secluded server := by
  rcases handle_cases message server user with ⟨_, _, same, _⟩ | ⟨command, admits, same⟩
  · rw [same]
    exact answer_secluded unregistered _ _
  rw [same]
  cases command with
  | nick => exact nick_secluded unregistered _
  | user =>
      exact @register_advance_secluded server
        (user.setUsername (message.param 0) (message.param 3)) unregistered user.id
  | pong => exact answer_secluded unregistered _ _
  | ping | quit =>
      exact ⟨rfl, rfl, rfl, fun _ => rfl, fun known => by cases unregistered.symm.trans known⟩
  | _ => cases unregistered.symm.trans (admits.registered rfl)

/-- Any other command is turned down before it is looked at. -/
theorem handle_unheard (unregistered : user.registered = false)
    (early : ∀ command ∈ [Command.nick, .user, .ping, .pong, .quit],
      message.verb ≠ .command command) :
    handle message server user =
      reject (if message.verb.isKnown then [.notRegistered] else []) server user := by
  unfold handle
  cases asked : message.verb with
  | other word => simp [unregistered, Verb.isKnown]
  | reply code => simp [unregistered, Verb.isKnown]
  | command command =>
      have late : command.beforeRegistration = false := by
        cases command with
        | nick | user | ping | pong | quit => exact absurd asked (early _ (by simp))
        | _ => rfl
      simp [unregistered, late, Verb.isKnown]

end Handler

theorem Registry.linesTo_addressed {profile : Profile} {server : Server} {roster : Roster}
    {number : Nat} {user : User} {deliveries : List Delivery}
    (registry : Registry profile server roster) (here : roster number = some user)
    (unregistered : user.registered = false) (addressed : Addressed server.users deliveries) :
    linesTo number deliveries = [] := by
  refine List.eq_nil_iff_forall_not_mem.mpr fun line member => ?_
  obtain ⟨delivery, told, queue, _⟩ := mem_linesTo.mp member
  obtain ⟨name, holder, found, same⟩ := addressed delivery told
  exact registry.queue_ne_of_unregistered here unregistered found (same.trans queue)

namespace Network

section Others

variable {profile : Profile} {events : List Event} {network : Network} {number : Nat}
  {user : User}

theorem shares_eq_false (here : network.roster number = some user)
    (unregistered : user.registered = false) (other : Nat) :
    network.shares other number = false := by
  refine eq_false_of_ne_true fun shared => ?_
  obtain ⟨channel, _, _, present⟩ := shares_iff.mp shared
  rw [isIn, here, Option.any_some, unregistered] at present
  cases present

/-- Nothing that another client does, or that happens to it, sends anything to a client that is
not registered. -/
theorem linesTo_sent_other (reached : (new profile).after events = network)
    (here : network.roster number = some user) (unregistered : user.registered = false)
    {event : Event} (others : ∀ message, event ≠ .said number message) :
    linesTo number (network.sent event) = [] := by
  rcases network.step_cases event with ⟨silent, same⟩ | ⟨host, rfl, _⟩ |
    ⟨speaker, client, found, live, ⟨message, rfl, _⟩ | ⟨error, rfl, _⟩ | ⟨rfl, _⟩⟩
  · rw [sent_eq_nil silent same]
    rfl
  · rfl
  · have differs : number ≠ speaker := by
      rintro rfl
      exact others message rfl
    have orderly : network.Orderly := reached ▸ orderly_after profile events
    have acts := Handler.handle_acts message network.server client.user
    have queue := acts.queue.trans (orderly speaker client found).1
    have reacted := (Registry.kept profile fun _ => True).reacted reached found live message
    have relayed : linesTo number
        (Handler.handle message network.server client.user).relayed = [] := by
      refine reacted.linesTo_addressed ?_ unregistered (Handler.handle_addressed _ _ _)
      rw [Function.update_of_ne differs, here]
    rw [sent_said found live, linesTo_append, linesTo_deliveries queue, relayed, if_neg differs,
      List.append_nil, List.nil_append]
    split
    · have parting := parting_reacted reached found live message
      have there : (network.reacted speaker client
          (Handler.handle message network.server client.user)).roster number = some user := by
        rw [roster_reacted found live, Function.update_of_ne differs, here]
      have departed := parting.linesTo_depart none number
      rw [shares_eq_false there unregistered, if_neg fun both => Bool.false_ne_true both.2]
        at departed
      exact departed
    · rfl
  · have parting : Parting profile network speaker client := by
      subst reached
      exact (Departing.between found live).parting
    rw [sent_left found live, parting.linesTo_depart, shares_eq_false here unregistered,
      if_neg fun both => Bool.false_ne_true both.2]
  · rfl

end Others

section Own

variable {profile : Profile} {events : List Event} {network : Network} {number : Nat}
  {client : Client}

/-- Nothing that a client says before it is registered is sent to anybody else. -/
theorem linesTo_sent_own (reached : (new profile).after events = network)
    (found : network.client? number = some client) (live : client.live = true)
    (unregistered : client.user.registered = false) (message : Message) {other : Nat}
    (differs : other ≠ number) : linesTo other (network.sent (.said number message)) = [] := by
  have orderly : network.Orderly := reached ▸ orderly_after profile events
  have consistent : Consistent profile network.server network.roster :=
    reached ▸ consistent_after profile events
  have secluded : (Handler.handle message network.server client.user).Secluded network.server :=
    Handler.handle_secluded unregistered
  have acts := Handler.handle_acts message network.server client.user
  have queue := acts.queue.trans (orderly number client found).1
  rw [sent_said found live, linesTo_append, linesTo_deliveries queue, secluded.relayed,
    if_neg differs]
  split
  · -- A client that is registered and gone at once is in no channel yet.
    have parting := parting_reacted reached found live message
    have departed := parting.linesTo_depart none other
    rw [if_neg] at departed
    · exact departed
    · rintro ⟨_, shared⟩
      obtain ⟨channel, listed, present, _⟩ := shares_iff.mp shared
      rw [isIn, parting.here, Option.any_some, Bool.and_eq_true] at present
      obtain ⟨registered, member⟩ := present
      have known := parting.consistent.keyed.mem_values_iff.mp listed
      have before : network.server.channels.find? channel.name = some channel :=
        secluded.channels ▸ known
      rw [consistent.isMember_free (secluded.fresh registered) before] at member
      cases member
  · rfl

/-- Whether it stays or goes, a client that is still not registered has changed nothing that others
see. -/
theorem server_of_unregistered (unregistered : client.user.registered = false) (message : Message)
    (still : (Handler.handle message network.server client.user).user.registered = false) :
    (network.handle number client message).network.server.users = network.server.users ∧
      (network.handle number client message).network.server.channels = network.server.channels ∧
      (network.handle number client message).network.server.operators =
        network.server.operators := by
  have secluded : (Handler.handle message network.server client.user).Secluded network.server :=
    Handler.handle_secluded unregistered
  rw [server_handle]
  dsimp only
  split
  · rw [Server.depart_of_unregistered still]
    exact ⟨secluded.users still, secluded.channels, secluded.operators⟩
  · exact ⟨secluded.users still, secluded.channels, secluded.operators⟩

/-- A message that is turned down for want of a registration sends its answer and nothing else. -/
theorem sent_unheard (orderly : network.Orderly) (found : network.client? number = some client)
    (live : client.live = true) (unregistered : client.user.registered = false)
    {message : Message} {replies : List Reply}
    (handled : Handler.handle message network.server client.user =
      Handler.reject replies network.server client.user) :
    linesTo number (network.sent (.said number message)) =
      replies.map (network.server.reply client.user) := by
  have gone : (network.server.depart client.user none).2 = [] := by
    rw [Server.depart_of_unregistered unregistered]
  have queue := (orderly number client found).1
  rw [sent_said found live, handled, linesTo_append, linesTo_deliveries queue, if_pos rfl]
  change [] ++ replies.map (network.server.reply client.user) ++ linesTo number
    (if _ then (network.server.depart client.user none).2 else []) = _
  rw [gone, ite_self, List.nil_append]
  exact List.append_nil _

theorem handle_unheard (found : network.client? number = some client) {message : Message}
    {replies : List Reply}
    (handled : Handler.handle message network.server client.user =
      Handler.reject replies network.server client.user)
    (answered : client.listening = true ∨ replies = []) :
    (network.handle number client message).network = network ∧
      (network.handle number client message).closed = false := by
  have stays : closes client (Handler.reject replies network.server client.user) = false := by
    rcases answered with listening | nothing
    · simp [closes, Handler.reject, Handler.answer, listening]
    · simp [closes, Handler.reject, Handler.answer, nothing]
  rw [handle_eq, handled]
  simp only [stays, Bool.false_eq_true, if_false, and_true]
  exact reacted_of_still found rfl rfl

theorem linesFor_eq_nil {event : Event} (nothing : linesTo number (network.sent event) = []) :
    (network.step event).linesFor number = [] := by
  rw [linesFor_step, nothing, ite_self]

end Own

/-- A client that is not registered is by itself.  It is in no channel and not in the user
directory, nothing that others do is sent to it, and nothing that it says is sent to others, even
if it is registered by it.  Until then it leaves the directories as they are, and all but a few
commands are answered with one line at most and forgotten. -/
theorem unregistered_is_isolated (profile : Profile) (events : List Event) {number : Nat}
    {client : Client} (found : ((new profile).after events).client? number = some client)
    (live : client.live = true) (unregistered : client.user.registered = false) :
    let network := (new profile).after events
    (∀ entry ∈ network.server.users.entries,
      entry.2.queue ≠ number ∧ entry.2.id ≠ client.user.id) ∧
    (∀ entry ∈ network.server.channels.entries, ∀ member ∈ entry.2.members,
      ∃ holder, holder.queue ≠ number ∧ network.roster holder.queue = some holder ∧
        holder.registered = true ∧ holder.nick = member.nick) ∧
    (∀ event, (∀ message, event ≠ .said number message) →
      linesTo number (network.sent event) = [] ∧ (network.step event).linesFor number = []) ∧
    ∀ message,
      let said := Event.said number message
      let outcome := network.step said
      (∀ other, other ≠ number →
        linesTo other (network.sent said) = [] ∧ outcome.linesFor other = []) ∧
      (outcome.network.isRegistered number = false →
        outcome.network.server.users = network.server.users ∧
        outcome.network.server.channels = network.server.channels ∧
        outcome.network.server.operators = network.server.operators) ∧
      ((∀ command ∈ [Command.nick, .user, .ping, .pong, .quit],
          message.verb ≠ .command command) →
        let reaction := Handler.handle message network.server client.user
        let line := network.server.reply client.user .notRegistered
        let lines := if message.verb.isKnown then [line] else []
        reaction.server = network.server ∧ reaction.user = client.user ∧
        line.command = "451" ∧ linesTo number (network.sent said) = lines ∧
        (client.listening = true ∨ message.verb.isKnown = false →
          outcome.network = network ∧ outcome.closed = false ∧
          outcome.linesFor number = lines)) := by
  intro network
  have orderly : network.Orderly := orderly_after profile events
  have consistent := consistent_after profile events
  have registry := consistent.registry
  have here : network.roster number = some client.user := roster_of_client found live
  have notListed : ∀ {holder : User}, network.roster holder.queue = some holder →
      holder.registered = true → holder.queue ≠ number := by
    intro holder there registered same
    rw [same, here] at there
    cases there
    cases unregistered.symm.trans registered
  refine ⟨?_, ?_, ?_, ?_⟩
  · intro entry member
    obtain ⟨_, listed⟩ := registry.keyed.mem_entries_iff.mp member
    obtain ⟨there, registered, _⟩ := registry.listed.mp listed
    exact ⟨notListed there registered, fun same =>
      notListed there registered (registry.separate there here same)⟩
  · intro entry member held present
    obtain ⟨_, listed⟩ := consistent.keyed.mem_entries_iff.mp member
    obtain ⟨holder, there, registered, named⟩ := consistent.client_of_member listed present
    exact ⟨holder, notListed there registered, there, registered, named⟩
  · intro event others
    have nothing := linesTo_sent_other rfl here unregistered others
    exact ⟨nothing, linesFor_eq_nil nothing⟩
  · intro message said outcome
    have handled : outcome = network.handle number client message := step_said found live
    refine ⟨?_, ?_, ?_⟩
    · intro other differs
      have nothing := linesTo_sent_own rfl found live unregistered message differs
      exact ⟨nothing, linesFor_eq_nil nothing⟩
    · intro still
      rw [handled, isRegistered_replace (client?_handle message found), if_pos rfl] at still
      rw [handled]
      exact server_of_unregistered unregistered message still
    · intro early reaction line lines
      have rejected : reaction = Handler.reject _ network.server client.user :=
        Handler.handle_unheard unregistered early
      have sent : linesTo number (network.sent said) = lines := by
        rw [sent_unheard orderly found live unregistered rejected, apply_ite (List.map _)]
        rfl
      refine ⟨by rw [rejected]; rfl, by rw [rejected]; rfl, rfl, sent, fun answered => ?_⟩
      have still := handle_unheard found rejected
        (answered.imp_right fun unknown => by rw [unknown]; rfl)
      refine ⟨by rw [handled, still.1], by rw [handled, still.2], ?_⟩
      rw [linesFor_step, sent]
      rcases answered with listening | unknown
      · exact if_pos (by rw [isListening, found]; exact listening)
      · have nothing : lines = [] := by simp [lines, unknown]
        rw [nothing, ite_self]

/-- Two clients give the same nickname, and the second is registered under it. -/
def rivalRun : List Event :=
  [.connected "east", .connected "west"] ++
    spoken [(0, "NICK ann"), (1, "NICK ann"), (1, "USER b 0 * Bob")]

/-- What is said to a nickname is not sent to who has only given it. -/
theorem isolation_of_rivalRun :
    let network := (new teaProfile).after rivalRun
    let talk := Event.said 1 ⟨none, .command .privmsg, ["ann", "hi"], false⟩
    let join := Event.said 0 ⟨none, .command .join, ["#tea"], false⟩
    (network.client? 0).map (fun client => (client.live, client.user.registered,
        client.user.nick?, client.listening)) = some (true, false, some ("ann" : Text), true) ∧
      (linesTo 1 (network.sent talk)).length = 1 ∧ linesTo 0 (network.sent talk) = [] ∧
      (network.step join).network = network ∧
      ((network.step join).linesFor 0).map Line.command = [("451" : Text)] := by
  intro network talk join
  have staged : (network.client? 0).map (fun client => (client.live, client.user.registered,
      client.user.nick?, client.listening)) = some (true, false, some ("ann" : Text), true) := by
    decide +kernel
  obtain ⟨client, found, same⟩ := Option.map_eq_some_iff.mp staged
  simp only [Prod.mk.injEq] at same
  obtain ⟨live, unregistered, _, listening⟩ := same
  obtain ⟨_, _, others, own⟩ := unregistered_is_isolated teaProfile rivalRun found live unregistered
  obtain ⟨_, _, answered⟩ := own ⟨none, .command .join, ["#tea"], false⟩
  obtain ⟨_, _, code, _, still⟩ := answered (by decide)
  obtain ⟨unchanged, _, lines⟩ := still (.inl listening)
  have notOwn : ∀ message, talk ≠ .said 0 message :=
    fun _ same => absurd (Event.said.inj same).1 (by decide)
  refine ⟨staged, by decide +kernel, (others talk notOwn).1, unchanged, ?_⟩
  rw [lines]
  exact congrArg (fun code => [code]) code

end Network

end IrcServer
