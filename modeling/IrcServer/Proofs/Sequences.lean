import IrcServer.Proofs.Announced
import IrcServer.Proofs.Framing
import IrcServer.Proofs.Lacks

namespace IrcServer

/-! Lists of targets.

A command with a list answers its client once it has gone through the list, while the others are
told as it goes.  Nobody can tell it from a sequence of commands with one target each, since nothing
that is sent to others in between comes to the client itself. -/

/-- The commands that go through a list. -/
def Command.TakesList (command : Command) : Prop :=
  command = .join ∨ command = .part ∨ command = .names

/-- What a command does for each name of its list. -/
def Command.onEach (command : Command) (reason : Text) : Text → Handler :=
  match command with
  | .join => Handler.joinOne
  | .part => Handler.partOne reason
  | _ => Handler.namesOne

theorem Text.pieces_of_mem_pieces {targets name : Text} (listed : name ∈ targets.pieces) :
    name.pieces = [name] := by
  obtain ⟨piece, filled⟩ := List.mem_filter.mp listed
  exact pieces_eq_singleton (of_decide_eq_true filled) (not_mem_of_mem_splitOn piece)

theorem Command.onEach_user (command : Command) (reason name : Text) (server : Server)
    (user : User) : (command.onEach reason name server user).user = user := by
  unfold onEach
  split
  · exact (Handler.joinOne_confined name user).unchanged server
  · exact (Handler.partOne_confined reason name user).unchanged server
  · exact (Handler.namesOne_confined name user).unchanged server

section Silent

variable {profile : Profile} {server : Server} {roster : Roster} {number : Nat} {user : User}

theorem Registry.linesTo_others_self (registry : Registry profile server roster)
    (here : roster number = some user) (channel : Channel) (line : Line) :
    linesTo number (server.relay (channel.others user.nick) line) = [] := by
  refine List.eq_nil_iff_forall_not_mem.mpr fun other told => ?_
  exact (mem_others_iff.mp (registry.reached here told).2).2 rfl

/-- Whoever goes through a list reads of it in its answer only. -/
theorem Consistent.linesTo_onEach_self (consistent : Consistent profile server roster)
    (here : roster number = some user) (command : Command) (reason name : Text) :
    linesTo number (command.onEach reason name server user).relayed = [] := by
  have silent := consistent.registry.linesTo_others_self here
  unfold Command.onEach
  split
  · unfold Handler.joinOne
    split
    · rfl
    · dsimp only
      split
      · exact silent _ _
      · rfl
      · rfl
  · unfold Handler.partOne
    split
    · rfl
    · rename_i channel found
      split
      · rfl
      · dsimp only
        rw [Channel.leave_snd (consistent.sound found).distinct, nicks_dropped]
        exact silent _ _
  · unfold Handler.namesOne
    split <;> rfl

end Silent

namespace Network

variable {profile : Profile} {network : Network} {number : Nat} {client : Client}
  {message : Message} {command : Command} {targets : Text} {more : List Text}

namespace Gives

theorem handle_list (gives : network.Gives number client message command targets more)
    (lists : command.TakesList) (given : targets ≠ []) :
    Handler.handle message network.server client.user =
      Handler.forEach targets.pieces (command.onEach (message.param 1)) network.server
        client.user := by
  rcases lists with rfl | rfl | rfl
  · rw [gives.handled (by decide) (by decide)]
    change Handler.join (message.param 0) _ _ = _
    rw [gives.first]
    rfl
  · rw [gives.handled (by decide) (by decide)]
    change Handler.part (message.param 0) (message.param 1) _ _ = _
    rw [gives.first]
    rfl
  · rw [gives.handled (by decide) (by decide)]
    change Handler.names (message.param 0) _ _ = _
    rw [gives.first, Handler.names, if_neg given]
    rfl

/-- What comes of a list, be it long or short: nothing but the server changes. -/
theorem step_list (gives : network.Gives number client message command targets more)
    (orderly : network.Orderly) (lists : command.TakesList) (given : targets ≠ []) :
    let reaction := Handler.forEach targets.pieces (command.onEach (message.param 1))
      network.server client.user
    (network.step (.said number message)).network = { network with server := reaction.server } ∧
      (network.step (.said number message)).closed = false ∧
      ∀ reader, (network.step (.said number message)).linesFor reader =
        (if network.isListening reader then linesTo reader reaction.relayed else []) ++
          if reader = number then reaction.replies else [] := by
  intro reaction
  have same : reaction.user = client.user :=
    Handler.forEach_user fun name _ server => command.onEach_user _ name server client.user
  exact step_unchanged orderly gives.found gives.live gives.listening
    (gives.handle_list lists given) same

/-- A list of one name. -/
theorem step_name {name : Text}
    (gives : network.Gives number client message command name more) (orderly : network.Orderly)
    (lists : command.TakesList) (single : name.pieces = [name]) {reason : Text}
    (reasoned : more.getD 0 [] = reason) :
    let reaction := command.onEach reason name network.server client.user
    (network.step (.said number message)).network = { network with server := reaction.server } ∧
      (network.step (.said number message)).closed = false ∧
      ∀ reader, (network.step (.said number message)).linesFor reader =
        (if network.isListening reader then linesTo reader reaction.relayed else []) ++
          if reader = number then reaction.replies else [] := by
  have filled : name ≠ [] := by
    rintro rfl
    cases single
  have listed := gives.step_list orderly lists filled
  have second : message.param 1 = reason := by
    rw [Message.param, gives.params]
    exact reasoned
  rw [single, second, Handler.forEach_singleton] at listed
  exact listed

end Gives

/-- The message with one target in the place of its list. -/
def only (message : Message) (more : List Text) (name : Text) : Message :=
  { message with params := name :: more }

/-- One message for each of some names comes to what a list of them comes to. -/
theorem sequence_of_names (orderly : network.Orderly)
    (consistent : Consistent profile network.server network.roster)
    (found : network.client? number = some client) (live : client.live = true)
    (registered : client.user.registered = true) (listening : client.listening = true)
    (asked : message.verb = .command command) (lists : command.TakesList) {names : List Text}
    (each : ∀ name ∈ names, name.pieces = [name]) {reason : Text}
    (reasoned : more.getD 0 [] = reason) :
    let singles := names.map fun name => Event.said number (only message more name)
    let reaction := Handler.forEach names (command.onEach reason) network.server client.user
    network.after singles = { network with server := reaction.server } ∧
      (∀ closed ∈ network.gathered (fun network event => [(network.step event).closed]) singles,
        closed = false) ∧
      linesTo number reaction.relayed = [] ∧
      ∀ reader, network.heard reader singles =
        (if network.isListening reader then linesTo reader reaction.relayed else []) ++
          if reader = number then reaction.replies else [] := by
  induction names generalizing network with
  | nil => simp [Handler.forEach, Handler.say, Handler.answer, gathered, heard, linesTo]
  | cons name rest inductionHypothesis =>
      obtain ⟨single, others⟩ := List.forall_mem_cons.mp each
      have gives : network.Gives number client (only message more name) command name more :=
        ⟨found, live, registered, listening, asked, rfl⟩
      have quiet := consistent.linesTo_onEach_self (roster_of_client found live) command reason name
      obtain ⟨after, stays, lines⟩ := gives.step_name orderly lists single reasoned
      have orderlyNext := orderly.step (.said number (only message more name))
      have next := consistent_step orderly consistent (.said number (only message more name))
      rw [after] at orderlyNext next
      obtain ⟨afterRest, staysRest, quietRest, linesRest⟩ :=
        inductionHypothesis orderlyNext next found others
      rw [Handler.forEach_cons (command.onEach_user _ name network.server client.user)]
      have silent := (linesTo_append number _ _).trans (congrArg₂ (· ++ ·) quiet quietRest)
      refine ⟨?_, List.forall_mem_cons.mpr ⟨stays, after ▸ staysRest⟩, silent, fun reader => ?_⟩
      · change (network.step (.said number (only message more name))).network.after _ = _
        rw [after, afterRest]
      · rw [List.map_cons, heard, gathered, after, lines, ← heard, linesRest]
        -- The client itself is told nothing among what others are told.
        have heard : isListening { network with server :=
            (command.onEach reason name network.server client.user).server } reader =
              network.isListening reader := rfl
        rw [heard]
        by_cases own : reader = number
        · subst own
          dsimp only
          rw [quiet, quietRest, silent]
          simp
        · simp only [if_neg own, List.append_nil]
          split
          · exact (linesTo_append reader _ _).symm
          · rfl

/-- A JOIN, a PART or a NAMES with a list of names does what one message for each name does: the
network is the same afterwards, no connection is closed, and every client reads the same. -/
theorem lists_are_sequences (profile : Profile) (events : List Event) (number : Nat)
    (client : Client) (message : Message) (command : Command) (targets : Text) (more : List Text)
    (found : ((new profile).after events).client? number = some client)
    (live : client.live = true) (registered : client.user.registered = true)
    (listening : client.listening = true) (asked : message.verb = .command command)
    (lists : command = .join ∨ command = .part ∨ command = .names)
    (params : message.params = targets :: more) (given : targets ≠ []) :
    let network := (new profile).after events
    let whole := network.step (.said number message)
    let singles := targets.pieces.map fun name => Event.said number (only message more name)
    whole.network = network.after singles ∧
      whole.closed = false ∧
      (∀ closed ∈ network.gathered (fun network event => [(network.step event).closed]) singles,
        closed = false) ∧
      ∀ reader, whole.textFor reader = network.output reader singles := by
  intro network whole singles
  have consistent : Consistent profile network.server network.roster := consistent_after profile events
  have orderly : network.Orderly := orderly_after profile events
  have gives : network.Gives number client message command targets more :=
    ⟨found, live, registered, listening, asked, params⟩
  have reasoned : more.getD 0 [] = message.param 1 := by
    rw [Message.param, params]
    rfl
  obtain ⟨after, stays, lines⟩ := gives.step_list orderly lists given
  obtain ⟨afterAll, stay, _, linesAll⟩ := sequence_of_names orderly consistent found live registered
    listening asked lists (fun name listed => Text.pieces_of_mem_pieces listed) reasoned
  refine ⟨after.trans afterAll.symm, stays, stay, fun reader => ?_⟩
  rw [Outcome.textFor_eq, lines, ← linesAll, output_eq]

/-- A PART of a channel that the client is in, of one that nobody is in, and of the first again. -/
theorem sequence_of_teaRun :
    let network := (new teaProfile).after teaRun
    let whole := network.step (.said 1 ⟨none, .command .part, ["#tea,,#no,#TEA", "bye"], true⟩)
    let singles := spoken [(1, "PART #tea :bye"), (1, "PART #no :bye"), (1, "PART #TEA :bye")]
    whole.network = network.after singles ∧
      (∀ reader, whole.textFor reader = network.output reader singles) ∧
      network.output 0 singles = ":Bert!b@west PART #tea :bye\r\n" ∧
      network.output 1 singles = (":Bert!b@west PART #tea :bye\r\n" ++
        ":irc.test 403 Bert #no :No such channel\r\n" ++
        ":irc.test 442 Bert #TEA :You're not on that channel\r\n" : Text) := by
  intro network whole singles
  have speaker : (network.client? 1).map (fun client =>
      (client.live, client.listening, client.user.registered)) = some (true, true, true) := by
    decide +kernel
  obtain ⟨client, found, same⟩ := Option.map_eq_some_iff.mp speaker
  simp only [Prod.mk.injEq] at same
  obtain ⟨live, listening, registered⟩ := same
  have read : network.output 0 singles = ":Bert!b@west PART #tea :bye\r\n" ∧
      network.output 1 singles = (":Bert!b@west PART #tea :bye\r\n" ++
        ":irc.test 403 Bert #no :No such channel\r\n" ++
        ":irc.test 442 Bert #TEA :You're not on that channel\r\n" : Text) := by decide +kernel
  have listed : (Text.pieces "#tea,,#no,#TEA").map (fun name => Event.said 1
      (only ⟨none, .command .part, ["#tea,,#no,#TEA", "bye"], true⟩ ["bye"] name)) = singles := by
    decide +kernel
  have reached : network = (new teaProfile).after teaRun := rfl
  have told := lists_are_sequences teaProfile teaRun 1 client
    ⟨none, .command .part, ["#tea,,#no,#TEA", "bye"], true⟩ .part "#tea,,#no,#TEA" ["bye"] found live
    registered listening rfl (.inr (.inl rfl)) rfl (by decide)
  rw [listed, ← reached] at told
  exact ⟨told.1, told.2.2.2, read⟩

end Network

end IrcServer
