import IrcServer.Proofs.Observe
import IrcServer.Proofs.Perform
import IrcServer.Proofs.Sent
import IrcServer.Proofs.UserDirectory

namespace IrcServer

namespace Network

/-! What a client has read after a run, and the channels that it is in. -/

/-- The lines that a client receives over a run. -/
def heard (network : Network) (number : QueueId) : List Event → List Line :=
  network.gathered fun network event => (network.step event).linesFor number

theorem linesFor_of_absent {network : Network} {number : QueueId}
    (absent : network.client? number = none) (event : Event) :
    (network.step event).linesFor number = [] := by
  have deaf : network.isListening number = false := by rw [isListening, absent]; rfl
  rw [linesFor_step, deaf, if_neg Bool.false_ne_true]

/-- The view of a client follows the server while the client lives and its queue is not lost. -/
structure Followed (network : Network) (number : QueueId) (view : View) : Prop where
  unknown : network.client? number = none → view = .new
  tracks : ∀ client, network.client? number = some client → client.live = true →
    client.listening = true → Tracks network.server client.user view

section Step

variable {profile : Profile} {network : Network} {number other : Nat} {client own : Client}
  {view : View}

theorem beside_of_ne (orderly : network.Orderly)
    (consistent : Consistent profile network.server network.roster)
    (tidy : Tidy profile network.server network.roster) (found : network.client? other = some client)
    (live : client.live = true) (there : network.client? number = some own)
    (ownLive : own.live = true) (differs : number ≠ other) :
    Beside profile network.server network.roster client.user number own.user where
  consistent := consistent
  tidy := tidy
  here := by
    rw [(orderly other client found).1]
    exact roster_of_client found live
  there := roster_of_client there ownLive
  others := by
    rw [(orderly other client found).1]
    exact differs

theorem tracks_other (beside : Beside profile network.server network.roster client.user number
      own.user) (tracks : Tracks network.server own.user view) {message : Message}
    (said : Event.Tidy profile (.said client.user.queue message))
    (staying : client.user.quitReason = none) (found : network.client? other = some client)
    (there : network.client? number = some own) (listening : own.listening = true)
    (differs : number ≠ other)
    (uncut : ∀ line ∈ (network.handle other client message).linesFor number, line.Uncut) :
    Tracks (network.handle other client message).network.server own.user
      (view.after ((network.handle other client message).linesFor number)) := by
  have acts := Handler.handle_acts message network.server client.user
  have queue := acts.queue
  have hears : (network.reacted other client
      (Handler.handle message network.server client.user)).isListening number = true := by
    rw [isListening, client?_reacted found, if_neg differs, there]
    exact listening
  have deaf : linesTo number ((Handler.handle message network.server client.user).replies.map
      fun line => ⟨(Handler.handle message network.server client.user).user.queue, line⟩) = [] :=
    linesTo_other (queue ▸ Ne.symm beside.others) _
  have received : linesTo number
      (Handler.handle message network.server client.user).deliveries =
        linesTo number (Handler.handle message network.server client.user).relayed := by
    rw [Reaction.deliveries, linesTo_append, deaf, List.append_nil]
  rw [server_handle]
  rw [handle_eq] at uncut ⊢
  dsimp only at uncut ⊢
  split
  · rename_i gone
    rw [if_pos gone] at uncut
    have left : linesTo number ((network.reacted other client
        (Handler.handle message network.server client.user)).depart other { client with
          user := (Handler.handle message network.server client.user).user } none).received =
        linesTo number ((Handler.handle message network.server client.user).server.depart
          (Handler.handle message network.server client.user).user none).2 :=
      linesTo_received hears _
    simp only [Outcome.linesFor, linesTo_append, linesTo_received hears, received, left] at uncut ⊢
    obtain ⟨first, rest⟩ := List.forall_mem_append.mp uncut
    rw [View.after_append]
    exact (beside.acts said acts staying).departed (beside.observe_acts tracks said acts first) none
      rest
  · rename_i stays
    rw [if_neg stays] at uncut
    simp only [Outcome.linesFor, linesTo_received hears, received] at uncut ⊢
    exact beside.observe_acts tracks said acts uncut

theorem tracks_own (consistent : Consistent profile network.server network.roster)
    (tidy : Tidy profile network.server network.roster) (single : ' ' ∉ profile.domain)
    (here : network.roster client.user.queue = some client.user)
    (tracks : Tracks network.server client.user view) {message : Message}
    (said : Event.Tidy profile (.said client.user.queue message))
    (staying : client.user.quitReason = none)
    (found : network.client? client.user.queue = some client) (listening : client.listening = true)
    (stays : closes client (Handler.handle message network.server client.user) = false)
    (uncut : ∀ line ∈ (network.handle client.user.queue client message).linesFor client.user.queue,
      line.Uncut) :
    Tracks (network.handle client.user.queue client message).network.server
      (Handler.handle message network.server client.user).user
      (view.after ((network.handle client.user.queue client message).linesFor
        client.user.queue)) := by
  have acts := Handler.handle_acts message network.server client.user
  have hears : (network.reacted client.user.queue client
      (Handler.handle message network.server client.user)).isListening client.user.queue = true := by
    rw [isListening, client?_reacted found, if_pos rfl]
    exact listening
  have lines : (network.handle client.user.queue client message).linesFor client.user.queue =
      linesTo client.user.queue (Handler.handle message network.server client.user).relayed ++
        (Handler.handle message network.server client.user).replies := by
    rw [handle_eq]
    simp only [stays, Bool.false_eq_true, if_false, Outcome.linesFor, linesTo_received hears,
      Reaction.deliveries, linesTo_append, acts.queue, linesTo_own]
  rw [lines] at uncut ⊢
  obtain ⟨relayed, replied⟩ := List.forall_mem_append.mp uncut
  obtain ⟨follows, idle⟩ := tracks.perform_acts consistent tidy here said single acts
    (staying_of_not_closes message staying stays) relayed replied
  rw [View.after_append, View.after_idle tracks.settled idle, server_handle]
  simp only [stays, Bool.false_eq_true, if_false]
  exact follows

theorem client?_of_step_eq_none {event : Event}
    (absent : (network.step event).network.client? number = none) :
    network.client? number = none := by
  rcases network.step_cases event with ⟨_, same⟩ | ⟨host, _, same⟩ |
    ⟨other, client, found, _, ⟨message, _, same⟩ | ⟨error, _, same⟩ | ⟨_, same⟩⟩ <;>
      rw [same] at absent
  · exact absent
  · have connected : (network.connect host).client? number = none := absent
    rw [client?_connect] at connected
    split at connected
    · cases connected
    · exact connected
  · rw [client?_handle message found] at absent
    dsimp only at absent
    split at absent
    · cases absent
    · exact absent
  · rw [client?_depart found] at absent
    split at absent
    · cases absent
    · exact absent
  · have replaced : (network.loseQueue other client).client? number = none := absent
    rw [loseQueue, client?_setClient found] at replaced
    split at replaced
    · cases replaced
    · exact replaced

theorem Followed.step (followed : Followed network number view) (orderly : network.Orderly)
    (consistent : Consistent profile network.server network.roster)
    (tidy : Tidy profile network.server network.roster) (single : ' ' ∉ profile.domain) {event : Event}
    (permitted : event.Tidy profile)
    (uncut : ∀ line ∈ (network.step event).linesFor number, line.Uncut) :
    Followed (network.step event).network number
      (view.after ((network.step event).linesFor number)) := by
  refine ⟨fun absent => ?_, fun own known live listening => ?_⟩
  · have before := client?_of_step_eq_none absent
    rw [linesFor_of_absent before, View.after_nil]
    exact followed.unknown before
  · rcases network.step_cases event with ⟨_, same⟩ | ⟨host, rfl, same⟩ |
      ⟨other, client, found, clientLive, ⟨message, rfl, same⟩ | ⟨error, rfl, same⟩ | ⟨rfl, same⟩⟩ <;>
        rw [same] at known uncut ⊢
    · exact followed.tracks own known live listening
    · have connected : (network.connect host).client? number = some own := known
      rw [client?_connect] at connected
      split at connected
      · rename_i new
        cases connected
        -- Numbers are not given twice, so a new client has read nothing yet.
        have before : network.client? number = none := by
          rw [new]
          exact List.getElem?_eq_none (Nat.le_refl _)
        rw [followed.unknown before]
        exact ⟨rfl, (fun registered => by cases registered), fun name =>
          (Tracks.room?_unregistered rfl name).symm⟩
      · exact (followed.tracks own connected live listening).stay (fun known => ⟨known, rfl⟩)
          fun _ => rfl
    · obtain ⟨queue, staying⟩ := orderly other client found
      have answered := client?_handle message found number
      rw [known] at answered
      dsimp only at answered
      split at answered
      · rename_i here
        cases answered
        obtain ⟨_, stays⟩ := Bool.and_eq_true_iff.mp live
        subst here queue
        exact tracks_own consistent tidy single (roster_of_client found clientLive)
          (followed.tracks client found clientLive listening) permitted (staying clientLive) found
          listening (by simpa using stays) uncut
      · rename_i differs
        have beside := beside_of_ne orderly consistent tidy found clientLive answered.symm live differs
        exact tracks_other beside (followed.tracks own answered.symm live listening) permitted
          (staying clientLive) found answered.symm listening differs uncut
    · have left := client?_depart found client error number
      rw [known] at left
      split at left
      · cases left
        cases live
      · rename_i differs
        have beside := beside_of_ne orderly consistent tidy found clientLive left.symm live differs
        have hears : network.isListening number = true := by
          rw [isListening, ← left]
          exact listening
        have lines : (network.depart other client error).linesFor number =
            linesTo number (network.server.depart client.user error).2 := linesTo_received hears _
        rw [← User.settled_eq ((orderly other client found).2 clientLive)] at beside
        rw [lines] at uncut ⊢
        exact beside.departed (followed.tracks own left.symm live listening) error uncut
    · have lost : (network.setClient other { client with listening := false }).client? number =
          some own := known
      rw [client?_setClient found] at lost
      split at lost
      · cases lost
        cases listening
      · exact followed.tracks own lost live listening

theorem followed_after {events : List Event} (single : ' ' ∉ profile.domain)
    (permitted : ∀ event ∈ events, event.Tidy profile)
    (uncut : ∀ line ∈ (new profile).heard number events, line.Uncut) :
    Followed ((new profile).after events) number
      (View.new.after ((new profile).heard number events)) := by
  induction events using List.reverseRecOn with
  | nil => exact ⟨fun _ => rfl, fun client found => by cases found⟩
  | append_singleton events event inductionHypothesis =>
      have before : ∀ earlier ∈ events, earlier.Tidy profile := fun earlier member =>
        permitted earlier (List.mem_append_left _ member)
      rw [heard, gathered_append] at uncut ⊢
      obtain ⟨first, last⟩ := List.forall_mem_append.mp uncut
      rw [after_append, View.after_append]
      exact (inductionHypothesis before first).step (orderly_after profile events)
        ((Consistent.kept profile (Event.Tidy profile)).after events before)
        ((Tidy.kept profile).after events before) single (permitted event (by simp)) last

end Step

end Network

end IrcServer
