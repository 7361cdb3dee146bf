import IrcServer.Network
import IrcServer.Proofs.Act
import Mathlib.Data.List.Induction
import Mathlib.Logic.Function.Basic

namespace IrcServer

/-! Runs of a network, and what every run keeps.

A `Roster` is what the live clients know of themselves.  A property of a server and a roster that
is `Kept` by a new client, by every act and by a departure holds after every run of the events
that are `allowed` (`Kept.after`).
-/

/-- The own records of live clients, by number. -/
abbrev Roster := Nat → Option User

theorem Roster.of_update {roster : Roster} {number other : Nat} {present holder : User}
    (found : Function.update roster number (some present) other = some holder) :
    other = number ∧ holder = present ∨ other ≠ number ∧ roster other = some holder := by
  rw [Function.update_apply] at found
  split at found
  · exact .inl ⟨‹_›, (Option.some.inj found).symm⟩
  · exact .inr ⟨‹_›, found⟩

theorem Roster.of_update_none {roster : Roster} {number other : Nat} {holder : User}
    (found : Function.update roster number none other = some holder) :
    other ≠ number ∧ roster other = some holder := by
  rw [Function.update_apply] at found
  split at found
  · cases found
  · exact ⟨‹_›, found⟩

/-- The record as it was before its client said that it leaves. -/
def User.settled (user : User) : User :=
  { user with quitReason := none }

theorem User.settled_eq {user : User} (staying : user.quitReason = none) :
    user.settled = user := by
  cases user
  simp_all [settled]

namespace Act

variable {message : Message} {server : Server} {user : User} {reaction : Reaction}

theorem profile (act : Act message server user reaction) :
    reaction.server.profile = server.profile := by
  cases act with
  | marked => exact Server.refresh_profile _ _
  | empowered => exact Server.refresh_profile _ _
  | _ => rfl

/-- Whatever a client does, it is still the same client. -/
theorem samePerson (act : Act message server user reaction) :
    reaction.user.queue = user.queue ∧ reaction.user.id = user.id ∧
      reaction.user.host = user.host ∧ reaction.user.quitReason = user.quitReason := by
  cases act with
  | enrolled _ giving =>
      rcases giving with ⟨_, rfl, _⟩ | ⟨_, _, _, rfl⟩ <;> exact ⟨rfl, rfl, rfl, rfl⟩
  | _ => exact ⟨rfl, rfl, rfl, rfl⟩

end Act

namespace Acts

variable {message : Message} {server : Server} {user : User} {reaction : Reaction}

theorem queue (acts : Acts message server user reaction) :
    reaction.user.queue = user.queue := by
  induction acts with
  | quit => rfl
  | last act => exact act.samePerson.1
  | next act _ inductionHypothesis => exact inductionHypothesis.trans act.samePerson.1

theorem staying_or_accepted (acts : Acts message server user reaction)
    (staying : user.quitReason = none) :
    reaction.user.quitReason = none ∨ reaction.verdict = .accepted := by
  induction acts with
  | quit => exact .inr rfl
  | last act => exact .inl (act.samePerson.2.2.2.trans staying)
  | next act _ inductionHypothesis =>
      exact inductionHypothesis (act.samePerson.2.2.2.trans staying)

end Acts

namespace Network

/-- The network after some events. -/
def after (network : Network) (events : List Event) : Network :=
  events.foldl (fun network event => (network.step event).network) network

@[simp] theorem after_nil (network : Network) : network.after [] = network := rfl

theorem after_append (network : Network) (events : List Event) (event : Event) :
    network.after (events ++ [event]) = ((network.after events).step event).network := by
  simp [after]

/-- What is gathered from every step of a run, in order. -/
def gathered (gather : Network → Event → List α) (network : Network) : List Event → List α
  | [] => []
  | event :: rest => gather network event ++ (network.step event).network.gathered gather rest

theorem gathered_append (gather : Network → Event → List α) (network : Network)
    (events : List Event) (event : Event) :
    network.gathered gather (events ++ [event]) =
      network.gathered gather events ++ gather (network.after events) event := by
  induction events generalizing network with
  | nil => simp [gathered]
  | cons first rest inductionHypothesis =>
      rw [List.cons_append, gathered, inductionHypothesis, gathered, List.append_assoc]
      rfl

def roster (network : Network) : Roster := fun number =>
  (network.client? number).bind fun client => if client.live then some client.user else none

theorem roster_eq_some_iff {network : Network} {number : Nat} {user : User} :
    network.roster number = some user ↔
      ∃ client, network.client? number = some client ∧ client.live = true ∧
        client.user = user := by
  unfold roster
  rw [Option.bind_eq_some_iff]
  constructor
  · rintro ⟨client, found, known⟩
    split at known
    · exact ⟨client, found, ‹_›, Option.some.inj known⟩
    · cases known
  · rintro ⟨client, found, live, rfl⟩
    exact ⟨client, found, by rw [if_pos live]⟩

theorem roster_of_client {network : Network} {number : Nat} {client : Client}
    (found : network.client? number = some client) (live : client.live = true) :
    network.roster number = some client.user :=
  roster_eq_some_iff.mpr ⟨client, found, live, rfl⟩

theorem client?_setClient {network : Network} {number : Nat} {old client : Client}
    (found : network.client? number = some old) (other : Nat) :
    (network.setClient number client).client? other =
      if other = number then some client else network.client? other := by
  have inRange : number < network.clients.length :=
    (List.getElem?_eq_some_iff.mp found).1
  unfold client? setClient
  by_cases same : other = number
  · rw [if_pos same, same]
    exact List.getElem?_set_self inRange
  · rw [if_neg same]
    exact List.getElem?_set_ne (Ne.symm same)

theorem roster_setClient {network : Network} {number : Nat} {old : Client}
    (found : network.client? number = some old) (client : Client) :
    (network.setClient number client).roster =
      Function.update network.roster number
        (if client.live then some client.user else none) := by
  funext other
  rw [Function.update_apply]
  unfold roster
  rw [client?_setClient found]
  split
  · rfl
  · rfl

theorem client?_connect (network : Network) (host : Text) (number : Nat) :
    (network.connect host).client? number =
      if number = network.clients.length then
        some { user := .new (network.server.connect host).1 host network.clients.length
               live := true
               listening := true }
      else network.client? number := by
  unfold client? connect
  simp only
  split
  · rename_i new
    rw [new, List.getElem?_concat_length]
  · rename_i old
    rcases Nat.lt_or_gt_of_ne old with below | above
    · exact List.getElem?_append_left below
    · rw [List.getElem?_eq_none (by simp; omega), List.getElem?_eq_none (by omega)]

theorem roster_connect (network : Network) (host : Text) :
    (network.connect host).roster =
      Function.update network.roster network.clients.length
        (some (.new (network.server.connect host).1 host network.clients.length)) := by
  funext number
  rw [Function.update_apply]
  unfold roster
  rw [client?_connect]
  split
  · rfl
  · rfl

theorem roster_eq_none {network : Network} {number : Nat}
    (beyond : network.clients.length ≤ number) : network.roster number = none := by
  unfold roster client?
  rw [List.getElem?_eq_none beyond, Option.bind_none]

/-- What a run keeps beside its server: every client has its own queue, and nobody stays who has
said that it leaves. -/
def Orderly (network : Network) : Prop :=
  ∀ number client, network.client? number = some client →
    client.user.queue = number ∧ (client.live = true → client.user.quitReason = none)

/-- The network after a reaction to a client that stays. -/
def reacted (network : Network) (number : Nat) (client : Client) (reaction : Reaction) : Network :=
  { network with server := reaction.server }.setClient number
    { client with user := reaction.user }

/-- Whether a client is gone after a reaction. -/
def closes (client : Client) (reaction : Reaction) : Bool :=
  (reaction.replies ≠ [] && !client.listening) ||
    (reaction.verdict ≠ .rejected && reaction.user.quitReason.isSome)

theorem handle_eq (network : Network) (number : Nat) (client : Client) (message : Message) :
    network.handle number client message =
      let reaction := Handler.handle message network.server client.user
      let reacted := network.reacted number client reaction
      let received := reacted.received reaction.deliveries
      if closes client reaction then
        let departed := reacted.depart number { client with user := reaction.user } none
        { departed with received := received ++ departed.received }
      else { network := reacted, received, closed := false } :=
  rfl

theorem client?_reacted {network : Network} {number : Nat} {client : Client}
    (found : network.client? number = some client) (reaction : Reaction) (other : Nat) :
    (network.reacted number client reaction).client? other =
      if other = number then some { client with user := reaction.user }
      else network.client? other :=
  @client?_setClient { network with server := reaction.server } _ _ _ found _

theorem client?_depart {network : Network} {number : Nat} {old : Client}
    (found : network.client? number = some old) (client : Client) (error : Option Text)
    (other : Nat) :
    (network.depart number client error).network.client? other =
      if other = number then some { client with live := false } else network.client? other :=
  @client?_setClient { network with server := (network.server.depart client.user error).1 }
    _ _ _ found _

theorem roster_depart {network : Network} {number : Nat} {old : Client}
    (found : network.client? number = some old) (client : Client) (error : Option Text) :
    (network.depart number client error).network.roster =
      Function.update network.roster number none :=
  @roster_setClient { network with server := (network.server.depart client.user error).1 }
    number old found { client with live := false }

section Handle

variable {network : Network} {number : Nat} {client : Client} (message : Message)

theorem server_handle :
    (network.handle number client message).network.server =
      let reaction := Handler.handle message network.server client.user
      if closes client reaction then (reaction.server.depart reaction.user none).1
      else reaction.server := by
  rw [handle_eq]
  dsimp only
  split <;> rfl

theorem closed_handle :
    (network.handle number client message).closed =
      closes client (Handler.handle message network.server client.user) := by
  rw [handle_eq]
  dsimp only
  split
  · rename_i gone
    exact gone.symm
  · rename_i stays
    exact (eq_false_of_ne_true stays).symm

theorem client?_handle (found : network.client? number = some client) (other : Nat) :
    (network.handle number client message).network.client? other =
      let reaction := Handler.handle message network.server client.user
      if other = number then
        some { client with
          user := reaction.user
          live := client.live && !closes client reaction }
      else network.client? other := by
  have reacted := client?_reacted found (Handler.handle message network.server client.user)
  have here := reacted number
  rw [if_pos rfl] at here
  rw [handle_eq]
  dsimp only
  split
  · rename_i gone
    rw [client?_depart here, reacted]
    by_cases same : other = number <;> simp [same, gone]
  · rename_i stays
    rw [reacted]
    by_cases same : other = number <;> simp [same, stays]

theorem roster_handle (found : network.client? number = some client) (live : client.live = true) :
    (network.handle number client message).network.roster =
      let reaction := Handler.handle message network.server client.user
      Function.update network.roster number
        (if closes client reaction then none else some reaction.user) := by
  funext other
  rw [Function.update_apply]
  unfold roster
  rw [client?_handle message found]
  by_cases same : other = number
  · cases gone : closes client (Handler.handle message network.server client.user) <;>
      simp [same, live, gone]
  · simp [same]

theorem staying_of_not_closes (orderly : client.user.quitReason = none)
    (stays : closes client (Handler.handle message network.server client.user) = false) :
    (Handler.handle message network.server client.user).user.quitReason = none := by
  rcases (Handler.handle_acts message network.server client.user).staying_or_accepted orderly with
    staying | accepted
  · exact staying
  · simpa [closes, accepted] using (Bool.or_eq_false_iff.mp stays).2

end Handle

/-- The client that is heard at an event, with its number, and what it says. -/
def speaker? (network : Network) : Event → Option (Nat × Client × Message)
  | .said number message =>
      match network.client? number with
      | some client => if client.live then some (number, client, message) else none
      | none => none
  | _ => none

theorem speaker?_eq_some_iff {network : Network} {event : Event} {number : Nat} {client : Client}
    {message : Message} :
    network.speaker? event = some (number, client, message) ↔
      event = .said number message ∧ network.client? number = some client ∧
        client.live = true := by
  cases event with
  | said speaker said =>
      rw [speaker?]
      constructor
      · intro heard
        split at heard
        · rename_i found
          split at heard
          · cases heard
            exact ⟨rfl, found, ‹_›⟩
          · cases heard
        · cases heard
      · rintro ⟨same, found, live⟩
        cases same
        rw [found]
        exact if_pos live
  | connected | left | lostQueue =>
      constructor
      · intro heard
        cases heard
      · rintro ⟨same, _⟩
        cases same

theorem step_said {network : Network} {number : Nat} {client : Client} {message : Message}
    (found : network.client? number = some client) (live : client.live = true) :
    network.step (.said number message) = network.handle number client message := by
  rw [step, found]
  exact if_pos live

theorem step_unheard {network : Network} {number : Nat} {message : Message}
    (silent : network.speaker? (.said number message) = none) :
    network.step (.said number message) = network.idle := by
  rw [step]
  split
  · rename_i client found
    refine if_neg fun live => ?_
    have heard := speaker?_eq_some_iff.mpr ⟨@rfl _ (Event.said number message), found, live⟩
    cases silent.symm.trans heard
  · rfl

/-- What an event comes to: nothing, or one of the four things that can happen. -/
theorem step_cases (network : Network) (event : Event) :
    (network.speaker? event = none ∧ network.step event = network.idle) ∨
      (∃ host, event = .connected host ∧ network.step event = (network.connect host).idle) ∨
      ∃ number client, network.client? number = some client ∧ client.live = true ∧
        ((∃ message, event = .said number message ∧
            network.step event = network.handle number client message) ∨
          (∃ error, event = .left number error ∧
            network.step event = network.depart number client error) ∨
          (event = .lostQueue number ∧
            network.step event = (network.loseQueue number client).idle)) := by
  cases event with
  | connected host => exact .inr (.inl ⟨host, rfl, rfl⟩)
  | said number message =>
      cases found : network.client? number with
      | none => exact .inl (by simp [step, speaker?, found])
      | some client =>
          by_cases live : client.live = true
          · exact .inr (.inr ⟨number, client, found, live, .inl ⟨message, rfl, by
              simp [step, found, live]⟩⟩)
          · exact .inl (by simp [step, speaker?, found, live])
  | left number error =>
      cases found : network.client? number with
      | none => exact .inl (by simp [step, speaker?, found])
      | some client =>
          by_cases live : client.live = true
          · exact .inr (.inr ⟨number, client, found, live, .inr (.inl ⟨error, rfl, by
              simp [step, found, live]⟩)⟩)
          · exact .inl (by simp [step, speaker?, found, live])
  | lostQueue number =>
      cases found : network.client? number with
      | none => exact .inl (by simp [step, speaker?, found])
      | some client =>
          by_cases live : client.live = true
          · exact .inr (.inr ⟨number, client, found, live, .inr (.inr ⟨rfl, by
              simp [step, found, live]⟩)⟩)
          · exact .inl (by simp [step, speaker?, found, live])

theorem orderly_new (profile : Profile) : (new profile).Orderly := by
  intro number client found
  cases found

theorem Orderly.replace {network later : Network} (orderly : network.Orderly) {number : Nat}
    {client : Client}
    (replaced : ∀ other, later.client? other =
      if other = number then some client else network.client? other)
    (queue : client.user.queue = number)
    (staying : client.live = true → client.user.quitReason = none) : later.Orderly := by
  intro other present known
  rw [replaced] at known
  split at known
  · rename_i same
    cases known
    exact ⟨queue.trans same.symm, staying⟩
  · exact orderly other present known

theorem Orderly.step {network : Network} (orderly : network.Orderly) (event : Event) :
    (network.step event).network.Orderly := by
  rcases network.step_cases event with ⟨_, same⟩ | ⟨host, _, same⟩ |
    ⟨number, client, found, live, ⟨message, _, same⟩ | ⟨error, _, same⟩ | ⟨_, same⟩⟩
  · rw [same]
    exact orderly
  · rw [same]
    exact orderly.replace (client?_connect network host) rfl fun _ => rfl
  · rw [same]
    have acts := Handler.handle_acts message network.server client.user
    obtain ⟨queue, staying⟩ := orderly number client found
    refine orderly.replace (client?_handle message found) (acts.queue.trans queue) fun stays => ?_
    have stillOpen := (Bool.and_eq_true_iff.mp stays).2
    exact staying_of_not_closes message (staying live) (by simpa using stillOpen)
  · rw [same]
    exact orderly.replace (client?_depart found client error) (orderly number client found).1
      (by simp)
  · rw [same]
    exact orderly.replace (client?_setClient found) (orderly number client found).1
      (orderly number client found).2

theorem orderly_after (profile : Profile) (events : List Event) :
    ((new profile).after events).Orderly := by
  induction events using List.reverseRecOn with
  | nil => exact orderly_new profile
  | append_singleton events event inductionHypothesis =>
      rw [after_append]
      exact inductionHypothesis.step event

theorem Orderly.nodup_queues {network : Network} (orderly : network.Orderly) :
    (network.clients.map fun client => client.user.queue).Nodup := by
  have queues : network.clients.map (fun client => client.user.queue) =
      List.range network.clients.length := by
    apply List.ext_getElem?
    intro number
    rw [List.getElem?_map]
    cases found : network.clients[number]? with
    | none =>
        have beyond : network.clients.length ≤ number := List.getElem?_eq_none_iff.mp found
        rw [Option.map_none, List.getElem?_eq_none (by simpa using beyond)]
    | some client =>
        have inRange := (List.getElem?_eq_some_iff.mp found).1
        rw [Option.map_some, (orderly number client found).1, List.getElem?_range inRange]
  rw [queues]
  exact List.nodup_range

/-- A live client has its own record under the number of its queue. -/
theorem Orderly.here {network : Network} (orderly : network.Orderly) {number : Nat}
    {client : Client} (found : network.client? number = some client) (live : client.live = true) :
    network.roster client.user.queue = some client.user := by
  rw [(orderly number client found).1]
  exact roster_of_client found live

/-- What a reaction brings about is there after the message, if a departure does not take it
away. -/
theorem handle_holds {network : Network} (orderly : network.Orderly) {number : Nat}
    {client : Client} (found : network.client? number = some client) (live : client.live = true)
    {message : Message} {property : Server → Roster → Prop}
    (reacted : property (Handler.handle message network.server client.user).server
      (Function.update network.roster client.user.queue
        (some (Handler.handle message network.server client.user).user.settled)))
    (depart : ∀ {server user roster} (error : Option Text), property server roster →
      roster user.queue = some user.settled →
      property (server.depart user error).1 (Function.update roster user.queue none)) :
    property (network.handle number client message).network.server
      (network.handle number client message).network.roster := by
  obtain ⟨queue, staying⟩ := orderly number client found
  have acts := Handler.handle_acts message network.server client.user
  rw [server_handle, roster_handle message found live, ← queue]
  dsimp only
  split
  · -- The reaction comes first, and the departure finds its client as the reaction left it.
    rw [← Function.update_idem, ← acts.queue]
    refine depart none ?_ (Function.update_self _ _ _)
    rw [acts.queue]
    exact reacted
  · rename_i stays
    rw [User.settled_eq (staying_of_not_closes message (staying live)
      (by simpa using stays))] at reacted
    exact reacted

end Network

/-- A property of servers and rosters that no allowed event takes away. -/
structure Kept (profile : Profile) (allowed : Event → Prop) (property : Server → Roster → Prop) :
    Prop where
  new : property (.new profile) fun _ => none
  connect : ∀ {server roster number host}, allowed (.connected host) → property server roster →
    roster number = none →
    property (server.connect host).2
      (Function.update roster number (some (.new (server.connect host).1 host number)))
  act : ∀ {message server user roster reaction}, allowed (.said user.queue message) →
    property server roster → roster user.queue = some user → Act message server user reaction →
    property reaction.server (Function.update roster user.queue (some reaction.user))
  depart : ∀ {server user roster} (error : Option Text), property server roster →
    roster user.queue = some user.settled →
    property (server.depart user error).1 (Function.update roster user.queue none)

namespace Kept

variable {profile : Profile} {allowed : Event → Prop} {property : Server → Roster → Prop}

theorem acts (kept : Kept profile allowed property) {message : Message} {server : Server}
    {user : User} {roster : Roster} {reaction : Reaction}
    (said : allowed (.said user.queue message)) (acts : Acts message server user reaction)
    (holds : property server roster) (here : roster user.queue = some user)
    (staying : user.quitReason = none) :
    property reaction.server
      (Function.update roster user.queue (some reaction.user.settled)) := by
  induction acts generalizing roster with
  | @quit server user reason asked =>
      have unchanged : (Handler.quit reason server user).user.settled = user :=
        User.settled_eq staying
      rw [unchanged, ← here, Function.update_eq_self]
      exact holds
  | last act =>
      rw [User.settled_eq (act.samePerson.2.2.2.trans staying)]
      exact kept.act said holds here act
  | @next server user first rest act _ inductionHypothesis =>
      obtain ⟨queue, _, _, quitReason⟩ := act.samePerson
      -- The acts that are left begin where the first one ends, with the same client.
      have later := inductionHypothesis (queue ▸ said) (kept.act said holds here act)
        (by rw [queue, Function.update_self]) (quitReason.trans staying)
      rwa [queue, Function.update_idem] at later

theorem step (kept : Kept profile allowed property) {network : Network}
    (orderly : network.Orderly) (holds : property network.server network.roster) {event : Event}
    (permitted : allowed event) :
    property (network.step event).network.server (network.step event).network.roster := by
  rcases network.step_cases event with ⟨_, same⟩ | ⟨host, rfl, same⟩ |
    ⟨number, client, found, live, ⟨message, rfl, same⟩ | ⟨error, _, same⟩ | ⟨_, same⟩⟩
  · rw [same]
    exact holds
  · rw [same]
    change property _ (network.connect host).roster
    rw [Network.roster_connect]
    exact kept.connect permitted holds (Network.roster_eq_none (Nat.le_refl _))
  · obtain ⟨queue, staying⟩ := orderly number client found
    have here := orderly.here found live
    rw [same]
    exact Network.handle_holds orderly found live
      (kept.acts (queue ▸ permitted) (Handler.handle_acts message network.server client.user) holds
        here (staying live)) fun error => kept.depart error
  · obtain ⟨queue, staying⟩ := orderly number client found
    have here : network.roster client.user.queue = some client.user.settled := by
      rw [queue, User.settled_eq (staying live)]
      exact Network.roster_of_client found live
    rw [same, Network.roster_depart found, ← queue]
    exact kept.depart error holds here
  · rw [same]
    change property network.server (network.loseQueue number client).roster
    have unchanged := Network.roster_of_client found live
    rw [Network.loseQueue, Network.roster_setClient found, if_pos live, ← unchanged,
      Function.update_eq_self]
    exact holds

/-- What no allowed event takes away holds after every run of allowed events. -/
theorem after (kept : Kept profile allowed property) (events : List Event)
    (permitted : ∀ event ∈ events, allowed event) :
    property ((Network.new profile).after events).server
      ((Network.new profile).after events).roster := by
  induction events using List.reverseRecOn with
  | nil => exact kept.new
  | append_singleton events event inductionHypothesis =>
      rw [Network.after_append]
      exact kept.step (Network.orderly_after profile events)
        (inductionHypothesis fun other member => permitted other (List.mem_append_left _ member))
        (permitted event (by simp))

/-- It holds between a reaction and the departure that may follow as well. -/
theorem reaction (kept : Kept profile (fun _ => True) property) {network : Network}
    (orderly : network.Orderly) (holds : property network.server network.roster) {number : Nat}
    {client : Client} (found : network.client? number = some client) (live : client.live = true)
    (message : Message) :
    property (Handler.handle message network.server client.user).server
      (Function.update network.roster number
        (some (Handler.handle message network.server client.user).user.settled)) := by
  obtain ⟨queue, staying⟩ := orderly number client found
  have later := kept.acts trivial (Handler.handle_acts message network.server client.user) holds
    (orderly.here found live) (staying live)
  rwa [queue] at later

theorem reacted (kept : Kept profile (fun _ => True) property) {network : Network}
    {events : List Event} (reached : (Network.new profile).after events = network) {number : Nat}
    {client : Client} (found : network.client? number = some client) (live : client.live = true)
    (message : Message) :
    property (Handler.handle message network.server client.user).server
      (Function.update network.roster number
        (some (Handler.handle message network.server client.user).user.settled)) :=
  kept.reaction (reached ▸ Network.orderly_after profile events)
    (reached ▸ kept.after events fun _ _ => trivial) found live message

end Kept

end IrcServer
