import IrcServer.Proofs.Follows
import IrcServer.Proofs.Utterance

namespace IrcServer

/-! The history of a channel over a run: when it was opened and by whom, who has come and stayed,
and what has become of its topic.

A channel that is given up and opened again begins anew.  So all statements are about the part of
a run that follows a moment at which there was no such channel, the start of the run or any other. -/

namespace Network

/-- The moves of an event: what a registered client asks for as it is heard, and that it is gone if
its connection ends. -/
def moves (network : Network) (event : Event) : List Move :=
  (match network.speaker? event with
    | some (number, client, message) =>
        if client.user.registered then message.moves network.server.profile.channelLimit number
        else []
    | none => []) ++
  match event with
  | .said number _ | .left number _ => if (network.step event).closed then [.leaves number] else []
  | .connected _ | .lostQueue _ => []

/-- The moves of a run, the first one first. -/
def chronicle : Network → List Event → List Move :=
  gathered moves

end Network

theorem Follows.step {profile : Profile} {key : Text} {moves : List Move} {history : List Deed}
    {network : Network} (orderly : network.Orderly)
    (consistent : Consistent profile network.server network.roster)
    (follows : Follows key moves history network.server network.roster) (event : Event) :
    Follows key (moves ++ network.moves event) (history ++ network.deeds event)
      (network.step event).network.server (network.step event).network.roster := by
  have more : ∀ deeds, history ⊆ history ++ deeds := fun _ => List.subset_append_left _ _
  rcases network.step_cases event with ⟨silent, same⟩ | ⟨host, rfl, same⟩ |
    ⟨number, client, found, live, ⟨message, rfl, same⟩ | ⟨error, rfl, same⟩ | ⟨rfl, same⟩⟩
  · have still : network.moves event = [] := by
      unfold Network.moves
      rw [silent, same]
      cases event <;> rfl
    rw [still, List.append_nil, same]
    exact follows.mono rfl (more _) fun _ _ => id
  · rw [same]
    change Follows key (moves ++ []) _ (network.connect host).server (network.connect host).roster
    rw [List.append_nil, Network.roster_connect]
    refine follows.mono rfl (more _) ?_
    rintro number member ⟨holder, there, registered, named⟩
    refine ⟨holder, ?_, registered, named⟩
    rw [Function.update_of_ne, there]
    rintro rfl
    cases there.symm.trans (Network.roster_eq_none (Nat.le_refl _))
  · have heard : network.speaker? (.said number message) = some (number, client, message) :=
      Network.speaker?_eq_some_iff.mpr ⟨rfl, found, live⟩
    obtain ⟨queue, staying⟩ := orderly number client found
    subst queue
    have here := Network.roster_of_client found live
    have reacted := @Follows.handle profile key moves history network.server network.server
      network.roster client.user follows consistent here (staying live) message
    have between := (Consistent.kept profile fun _ => True).acts trivial
      (Handler.handle_acts message network.server client.user) consistent here (staying live)
    have sameQueue := (Handler.handle_acts message network.server client.user).queue
    unfold Network.moves Network.deeds
    rw [heard, same, Network.closed_handle, Network.server_handle,
      Network.roster_handle message found live, consistent.registry.profileEq]
    dsimp only
    cases gone : Network.closes client (Handler.handle message network.server client.user) with
    | true =>
        have own : Function.update network.roster client.user.queue
            (some (Handler.handle message network.server client.user).user.settled)
            (Handler.handle message network.server client.user).user.queue =
              some (Handler.handle message network.server client.user).user.settled := by
          rw [sameQueue, Function.update_self]
        have departed := reacted.depart between own none
        rw [sameQueue, Function.update_idem, List.append_assoc] at departed
        exact departed
    | false =>
        have remains := Network.staying_of_not_closes message (staying live) gone
        rw [User.settled_eq remains] at reacted
        simp only [Bool.false_eq_true, if_false, List.append_nil]
        exact reacted
  · obtain ⟨queue, staying⟩ := orderly number client found
    subst queue
    have here : network.roster client.user.queue = some client.user.settled := by
      rw [User.settled_eq (staying live)]
      exact Network.roster_of_client found live
    have told : network.moves (.left client.user.queue error) = [.leaves client.user.queue] := by
      unfold Network.moves
      rw [same]
      rfl
    rw [told, same, Network.roster_depart found]
    exact (follows.depart consistent here error).mono rfl (more _) fun _ _ => id
  · have unchanged := Network.roster_of_client found live
    rw [same]
    change Follows key (moves ++ []) _ network.server (network.loseQueue number client).roster
    rw [List.append_nil, Network.loseQueue, Network.roster_setClient found, if_pos live, ← unchanged,
      Function.update_eq_self]
    exact follows.mono rfl (more _) fun _ _ => id

theorem Deed.standing_append_of_bears {history more : List Deed} {number : Nat} {key : Text}
    (bears : ∃ deed ∈ more, (deed.flagFor number key).isSome = true) :
    Deed.standing (history ++ more) number key = Deed.standing more number key := by
  obtain ⟨deed, done, known⟩ := bears
  have decided : (more.reverse.findSome? (flagFor number key)).isSome = true :=
    List.findSome?_isSome_iff.mpr ⟨deed, List.mem_reverse.mpr done, known⟩
  rw [standing, List.reverse_append, List.findSome?_append, Option.or_of_isSome decided, standing]

namespace Network

theorem after_after (network : Network) (past rest : List Event) :
    (network.after past).after rest = network.after (past ++ rest) :=
  List.foldl_append.symm

theorem gathered_gathered {α : Type} (gather : Network → Event → List α) (network : Network)
    (past rest : List Event) :
    network.gathered gather (past ++ rest) =
      network.gathered gather past ++ (network.after past).gathered gather rest := by
  induction rest using List.reverseRecOn with
  | nil => rw [List.append_nil, gathered, List.append_nil]
  | append_singleton rest event inductionHypothesis =>
      rw [← List.append_assoc, gathered_append, inductionHypothesis, gathered_append, after_after,
        List.append_assoc]

theorem follows_after (profile : Profile) {past : List Event} {key : Text}
    (absent : ((new profile).after past).server.channels.find? key = none) (rest : List Event) :
    let start := (new profile).after past
    Follows key (start.chronicle rest) (start.history rest) (start.after rest).server
      (start.after rest).roster := by
  intro start
  induction rest using List.reverseRecOn with
  | nil =>
      change Option.Rel _ none (start.server.channels.find? key)
      rw [absent]
      exact .none
  | append_singleton rest event inductionHypothesis =>
      rw [after_append, chronicle, gathered_append, history, gathered_append]
      have orderly := orderly_after profile (past ++ rest)
      have consistent := consistent_after profile (past ++ rest)
      rw [← after_after] at orderly consistent
      exact inductionHypothesis.step orderly consistent event

/-- A client that is in a channel can ask for it again under any spelling, in the middle of a list
too: nothing happens, and nobody is told. -/
theorem joinOne_again {profile : Profile} {server : Server} {roster : Roster} {user : User}
    (consistent : Consistent profile server roster) {name : Text} {channel : Channel}
    (found : server.channels.find? name = some channel)
    (present : channel.isMember user.nick = true) :
    Handler.joinOne name server user = Handler.say [] server user := by
  have sound := consistent.sound found
  have valid : ChannelName.isValid server.profile.channelLimit name = true := by
    rw [consistent.registry.profileEq]
    exact ChannelName.isValid_of_fold_eq sound.valid (consistent.keyed.fold_eq found).symm
  rw [Handler.joinOne_eq valid (by rw [found, Option.getD_some]) sound.opened, if_pos present]

/-- The history of a channel since any moment at which there was none of its name.  It is listed
just while clients stay that have joined it, and then they are its members, in the order in which
they came and under the nicknames that they have now.  It has the name under which it was opened
when nobody was in it, the topic that its members have given it since, and the flags that its
members have been given since.  Who joins it again changes nothing. -/
theorem channels_have_history (profile : Profile) (past rest : List Event) (key : Text)
    (absent : ((new profile).after past).server.channels.find? key = none) :
    let start := (new profile).after past
    let network := start.after rest
    let moves := start.chronicle rest
    (network.server.channels.contains key = true ↔ ∃ number, Stays moves number key) ∧
      (∀ channel, network.server.channels.find? key = some channel →
        ∃ earlier opener later entrants,
          moves = earlier ++ .joins opener channel.name :: later ∧
          channel.name.fold = key.fold ∧
          (∀ number, ¬ Stays earlier number key) ∧
          (∀ begun, begun <+: later →
            ∃ number, Stays (earlier ++ .joins opener channel.name :: begun) number key) ∧
          Titled key (earlier ++ [.joins opener channel.name]) later channel.topic ∧
          (∀ number, number ∈ entrants ↔ Stays moves number key) ∧
          entrants.Pairwise (EntersBefore moves key) ∧
          List.Forall₂ (fun number member => ∃ client, network.client? number = some client ∧
              client.live = true ∧ client.user.registered = true ∧
              client.user.nick = member.nick ∧
              member.operator = Deed.standing (start.history rest) number key)
            entrants channel.members) ∧
      ∀ (number : Nat) (client : Client) (message : Message) (entered : List Text) (name : Text),
        network.client? number = some client → client.live = true →
        client.user.registered = true → message.verb = .command .join →
        (∀ other ∈ entered, other ∈ (message.param 0).pieces) →
        let joining := (Handler.forEach entered Handler.joinOne network.server client.user).server
        ∀ channel, joining.channels.find? name = some channel →
          channel.isMember client.user.nick = true →
            Handler.joinOne name joining client.user = Handler.say [] joining client.user := by
  intro start network moves
  have reached : network = (new profile).after (past ++ rest) := after_after _ _ _
  have consistent := consistent_after profile (past ++ rest)
  have follows := follows_after profile absent rest
  have told := Chapter.of_told key moves
  refine ⟨?_, fun channel listed => ?_, ?_⟩
  · rcases follows.cases with ⟨ended, missing⟩ | ⟨chapter, channel, known, found, _⟩
    · rw [ended] at told
      rw [Directory.contains, missing]
      exact ⟨fun listed => (by cases listed), fun known =>
        known.elim fun number stays => absurd stays (told number)⟩
    · rw [known] at told
      rw [Directory.contains, found]
      obtain ⟨number, present⟩ := List.exists_mem_of_ne_nil _ told.inhabited
      exact ⟨fun _ => ⟨number, (told.mem number).mp present⟩, fun _ => rfl⟩
  · rcases follows.cases with ⟨_, missing⟩ | ⟨chapter, _, known, found, describes⟩
    · cases listed.symm.trans missing
    cases listed.symm.trans found
    rw [known] at told
    obtain ⟨earlier, opener, later, split, same, deserted, peopled, titled⟩ := told.opened
    rw [← describes.name] at split same peopled titled
    rw [← describes.topic] at titled
    refine ⟨earlier, opener, later, chapter.entrants, split, same, deserted, peopled, titled,
      told.mem, told.order, List.forall₂_iff_zip.mpr ⟨describes.members.length_eq, ?_⟩⟩
    intro number member pair
    obtain ⟨entered, present⟩ := List.of_mem_zip pair
    obtain ⟨holder, there, registered, named⟩ :=
      (List.forall₂_iff_zip.mp describes.members).2 pair
    obtain ⟨client, here, live, rfl⟩ := roster_eq_some_iff.mp there
    refine ⟨client, here, live, registered, named, ?_⟩
    rw [after_after] at there
    rw [reached] at listed
    rw [(flagged_after profile (past ++ rest)).flag listed present there registered
      (congrArg Text.fold named), history, gathered_gathered]
    exact Deed.standing_append_of_bears (describes.borne number entered)
  · intro number client message entered name here live registered asked named joining channel found
      present
    rw [reached] at here
    have during := consistent_joining profile (past ++ rest) here live registered asked named
    rw [← reached] at during
    exact joinOne_again during found present

/-- A channel that is given up is opened anew under another spelling.  One client asks for it twice
and the other is renamed. -/
theorem history_of_teaRun :
    let past := teaRun ++ spoken [(0, "TOPIC #tea :green"), (0, "PART #tea"), (1, "PART #tea")]
    let rest := spoken [(1, "JOIN #Tea"), (0, "JOIN #TEA,#tea"), (1, "TOPIC #tea :black"),
      (1, "NICK bo")]
    let start := (new teaProfile).after past
    let network := start.after rest
    start.server.channels.find? "#tea" = none ∧
      network.server.channels.find? "#tea" =
        some ⟨"#Tea", [⟨"bo", true⟩, ⟨"ann", false⟩], some "black", false⟩ ∧
      ∃ earlier opener later, start.chronicle rest = earlier ++ .joins opener "#Tea" :: later ∧
        (∀ number, ¬ Stays earlier number "#tea") ∧
        Titled "#tea" (earlier ++ [.joins opener "#Tea"]) later (some "black") := by
  intro past rest start network
  have absent : start.server.channels.find? "#tea" = none := by decide +kernel
  have listed : network.server.channels.find? "#tea" =
      some ⟨"#Tea", [⟨"bo", true⟩, ⟨"ann", false⟩], some "black", false⟩ := by decide +kernel
  -- The run itself is not computed again.
  clear_value past rest
  obtain ⟨earlier, opener, later, _, split, _, deserted, _, titled, _⟩ :=
    (channels_have_history teaProfile past rest "#tea" absent).2.1 _ listed
  exact ⟨absent, listed, earlier, opener, later, split, deserted, titled⟩

end Network

end IrcServer
