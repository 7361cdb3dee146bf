import IrcServer.Proofs.ChannelDirectory
import IrcServer.Proofs.Sent

namespace IrcServer

/-! What clients do in different channels can be done in either order.

A handler is `Confined` to a channel if it neither looks at another channel nor changes one, and
leaves the users alone.  A channel is given up under its own name, so this is said of servers that
list every channel under its own name.  Of two such handlers for different channels, neither sees
whether the other came first (`Network.different_channels_commute`). -/

namespace Server

/-- The servers are the same for whoever looks at the users and at one channel. -/
structure SameAt (name : Text) (left right : Server) : Prop where
  profile : left.profile = right.profile
  users : left.users = right.users
  channel : left.channels.find? name = right.channels.find? name

/-- Nothing has changed but one channel. -/
structure SameBeside (name : Text) (before after : Server) : Prop where
  profile : after.profile = before.profile
  users : after.users = before.users
  connections : after.connections = before.connections
  operators : after.operators = before.operators
  channels : ∀ other : Text, other.fold ≠ name.fold →
    after.channels.find? other = before.channels.find? other

variable {name : Text} {left right before middle after : Server}

theorem SameAt.setChannel (same : left.SameAt name right) (channel : Channel) :
    (left.setChannel name channel).SameAt name (right.setChannel name channel) := by
  refine ⟨same.profile, same.users, ?_⟩
  rw [find?_setChannel_self, find?_setChannel_self]

theorem SameAt.leaveChannel (same : left.SameAt name right)
    (keyedLeft : left.channels.Keyed Channel.name)
    (keyedRight : right.channels.Keyed Channel.name) (nick : Text) :
    (left.leaveChannel name nick).SameAt name (right.leaveChannel name nick) := by
  refine ⟨same.profile, same.users, ?_⟩
  rw [find?_leaveChannel keyedLeft, find?_leaveChannel keyedRight, if_pos rfl, if_pos rfl,
    same.channel]

theorem SameAt.reply (same : left.SameAt name right) (user : User) :
    left.reply user = right.reply user :=
  funext fun _ => reply_congr same.profile rfl (fun _ => rfl) _

theorem SameAt.namesReplies (same : left.SameAt name right) (channel : Channel) :
    left.namesReplies channel = right.namesReplies channel := by
  rw [Server.namesReplies, namesBudget, same.profile]
  rfl

theorem SameBeside.refl (name : Text) (server : Server) : server.SameBeside name server :=
  ⟨rfl, rfl, rfl, rfl, fun _ _ => rfl⟩

theorem SameBeside.trans (first : before.SameBeside name middle)
    (second : middle.SameBeside name after) : before.SameBeside name after where
  profile := second.profile.trans first.profile
  users := second.users.trans first.users
  connections := second.connections.trans first.connections
  operators := second.operators.trans first.operators
  channels other differs := (second.channels other differs).trans (first.channels other differs)

theorem SameBeside.setChannel (server : Server) (name : Text) (channel : Channel) :
    server.SameBeside name (server.setChannel name channel) := by
  refine ⟨rfl, rfl, rfl, rfl, fun other differs => ?_⟩
  rw [find?_setChannel, if_neg differs]

/-- Nothing has changed but one channel, and all are listed under their own names. -/
structure KeyedBeside (name : Text) (before after : Server) : Prop
    extends before.SameBeside name after where
  keyed : after.channels.Keyed Channel.name

theorem KeyedBeside.refl (keyed : before.channels.Keyed Channel.name) :
    before.KeyedBeside name before :=
  ⟨.refl name before, keyed⟩

theorem KeyedBeside.trans (first : before.KeyedBeside name middle)
    (second : middle.KeyedBeside name after) : before.KeyedBeside name after :=
  ⟨first.toSameBeside.trans second.toSameBeside, second.keyed⟩

theorem KeyedBeside.setChannel (keyed : before.channels.Keyed Channel.name) {channel : Channel}
    (same : channel.name.fold = name.fold) :
    before.KeyedBeside name (before.setChannel name channel) :=
  ⟨.setChannel before name channel, keyed.insert same⟩

theorem KeyedBeside.leaveChannel (keyed : before.channels.Keyed Channel.name) (nick : Text) :
    before.KeyedBeside name (before.leaveChannel name nick) := by
  refine ⟨⟨rfl, rfl, rfl, rfl, fun other differs => ?_⟩, keyed.leave name nick⟩
  rw [find?_leaveChannel keyed, if_neg differs]

/-- Who looks at another channel does not see the change. -/
theorem SameBeside.sameAt (beside : before.SameBeside name after) {other : Text}
    (differs : other.fold ≠ name.fold) : after.SameAt other before :=
  ⟨beside.profile, beside.users, beside.channels other differs⟩

/-- The servers hold the same, though their channels may be listed in another order. -/
structure Alike (left right : Server) : Prop where
  profile : left.profile = right.profile
  users : left.users = right.users
  connections : left.connections = right.connections
  operators : left.operators = right.operators
  channels : ∀ name : Text, left.channels.find? name = right.channels.find? name

/-- Two changes to different channels, each as it would be without the other, come to the same in
either order. -/
theorem SameBeside.join {here there : Text} {start one two first second : Server}
    (toOne : start.SameBeside here one) (toTwo : start.SameBeside there two)
    (thenTwo : one.SameBeside there first) (thenOne : two.SameBeside here second)
    (atTwo : first.SameAt there two) (atOne : second.SameAt here one)
    (apart : here.fold ≠ there.fold) : first.Alike second where
  profile := atTwo.profile.trans (toTwo.profile.trans (toOne.profile.symm.trans atOne.profile.symm))
  users := atTwo.users.trans (toTwo.users.trans (toOne.users.symm.trans atOne.users.symm))
  connections := thenTwo.connections.trans (toOne.connections.trans
    (toTwo.connections.symm.trans thenOne.connections.symm))
  operators := thenTwo.operators.trans (toOne.operators.trans
    (toTwo.operators.symm.trans thenOne.operators.symm))
  channels name := by
    by_cases isHere : name.fold = here.fold
    · rw [thenTwo.channels name (isHere ▸ apart), Directory.find?_congr isHere,
        Directory.find?_congr isHere, atOne.channel]
    by_cases isThere : name.fold = there.fold
    · rw [thenOne.channels name isHere, Directory.find?_congr isThere,
        Directory.find?_congr isThere, atTwo.channel]
    · rw [thenTwo.channels name isThere, toOne.channels name isHere, thenOne.channels name isHere,
        toTwo.channels name isThere]

end Server

/-- The reactions say the same and leave the same channel. -/
structure Reaction.SameAt (name : Text) (left right : Reaction) : Prop where
  server : left.server.SameAt name right.server
  user : left.user = right.user
  relayed : left.relayed = right.relayed
  replies : left.replies = right.replies
  verdict : left.verdict = right.verdict

namespace Handler

/-- For this client the handler has to do with one channel only. -/
structure Confined (name : Text) (user : User) (handler : Handler) : Prop where
  unchanged : ∀ server, (handler server user).user = user
  beside : ∀ {server : Server}, server.channels.Keyed Channel.name →
    server.KeyedBeside name (handler server user).server
  near : ∀ {left right : Server}, left.channels.Keyed Channel.name →
    right.channels.Keyed Channel.name → left.SameAt name right →
    (handler left user).SameAt name (handler right user)

variable {name : Text} {user : User}

theorem Confined.congr {handler other : Handler} (confined : other.Confined name user)
    (same : ∀ server, handler server user = other server user) : handler.Confined name user := by
  constructor
  · intro server
    rw [same]
    exact confined.unchanged server
  · intro server keyed
    rw [same]
    exact confined.beside keyed
  · intro left right keyedLeft keyedRight alike
    rw [same, same]
    exact confined.near keyedLeft keyedRight alike

theorem answer_near {left right : Server} (alike : left.SameAt name right) (verdict : Verdict)
    (replies : List Reply) :
    (answer verdict replies left user).SameAt name (answer verdict replies right user) :=
  ⟨alike, rfl, rfl, congrArg (replies.map ·) (alike.reply user), rfl⟩

theorem answer_confined (verdict : Verdict) (replies : List Reply) :
    (answer verdict replies).Confined name user where
  unchanged _ := rfl
  beside keyed := .refl keyed
  near _ _ alike := answer_near alike verdict replies

theorem forEach_confined {α : Type} {items : List α} {step : α → Handler}
    (each : ∀ item ∈ items, (step item).Confined name user) :
    (forEach items step).Confined name user := by
  induction items with
  | nil => exact answer_confined .accepted []
  | cons item rest inductionHypothesis =>
      obtain ⟨first, others⟩ := List.forall_mem_cons.mp each
      have later := inductionHypothesis others
      constructor
      · intro server
        rw [forEach_cons (first.unchanged server)]
        exact later.unchanged _
      · intro server keyed
        rw [forEach_cons (first.unchanged server)]
        have here := first.beside keyed
        exact here.trans (later.beside here.keyed)
      · intro left right keyedLeft keyedRight alike
        rw [forEach_cons (first.unchanged left), forEach_cons (first.unchanged right)]
        have here := first.near keyedLeft keyedRight alike
        have after := later.near (first.beside keyedLeft).keyed (first.beside keyedRight).keyed
          here.server
        exact ⟨after.server, after.user, congrArg₂ _ here.relayed after.relayed,
          congrArg₂ _ here.replies after.replies, after.verdict⟩

theorem joinOne_confined (name : Text) (user : User) : (joinOne name).Confined name user := by
  constructor
  · intro server
    unfold joinOne
    split
    · rfl
    · dsimp only
      split <;> rfl
  · intro server keyed
    have listed : ((server.channels.find? name).getD (.new name)).name.fold = name.fold := by
      cases found : server.channels.find? name with
      | none => rfl
      | some channel => exact keyed.fold_eq found
    unfold joinOne
    split
    · exact .refl keyed
    · dsimp only
      split
      · rename_i channel entered
        exact .setChannel keyed (Channel.name_of_join entered ▸ listed)
      · exact .refl keyed
      · exact .refl keyed
  · intro left right _ _ alike
    unfold joinOne
    rw [alike.profile, alike.channel]
    split
    · exact answer_near alike _ _
    · dsimp only
      split
      · rename_i channel _
        have joined := alike.setChannel channel
        refine ⟨joined, rfl, relay_congr joined.users _ _, ?_, rfl⟩
        rw [joined.namesReplies, joined.reply]
      · exact answer_near alike _ _
      · exact answer_near alike _ _

theorem namesOne_confined (name : Text) (user : User) : (namesOne name).Confined name user := by
  constructor
  · intro server
    unfold namesOne
    split <;> rfl
  · intro server keyed
    unfold namesOne
    split <;> exact .refl keyed
  · intro left right _ _ alike
    unfold namesOne
    rw [alike.channel]
    split
    · rw [alike.namesReplies]
      exact answer_near alike _ _
    · exact answer_near alike _ _

theorem partOne_confined (reason name : Text) (user : User) :
    (partOne reason name).Confined name user := by
  constructor
  · intro server
    unfold partOne
    split
    · rfl
    · split <;> rfl
  · intro server keyed
    unfold partOne
    split
    · exact .refl keyed
    · split
      · exact .refl keyed
      · exact .leaveChannel keyed _
  · intro left right keyedLeft keyedRight alike
    unfold partOne
    rw [alike.channel]
    split
    · exact answer_near alike _ _
    · split
      · exact answer_near alike _ _
      · have gone := alike.leaveChannel keyedLeft keyedRight user.nick
        exact ⟨gone, rfl, relay_congr gone.users _ _, rfl, rfl⟩

theorem changeMode_confined (name : Text) (change : Mode.Change) (user : User) :
    (changeMode name change).Confined name user := by
  constructor
  · intro server
    unfold changeMode
    split
    · rfl
    · split <;> rfl
  · intro server keyed
    unfold changeMode
    split
    · exact .refl keyed
    · rename_i channel found
      have named : channel.name.fold = name.fold := keyed.fold_eq found
      split
      · exact .refl keyed
      · exact .setChannel keyed named
  · intro left right _ _ alike
    unfold changeMode
    rw [alike.channel]
    split
    · exact answer_near alike _ _
    · split
      · exact answer_near alike _ _
      · have changed := alike.setChannel
        exact ⟨changed _, rfl, relay_congr alike.users _ _, rfl, rfl⟩

theorem mode_confined (target modes : Text) (params : List Text) (user : User) :
    (mode target modes params).Confined target user := by
  have changes : ∀ changes : List Mode.Change,
      (forEach changes (changeMode target)).Confined target user := fun _ =>
    forEach_confined fun change _ => changeMode_confined target change user
  constructor
  · intro server
    unfold mode
    split
    · rfl
    split
    · rfl
    split
    · exact (changes _).unchanged server
    · rfl
  · intro server keyed
    unfold mode
    split
    · exact .refl keyed
    split
    · exact .refl keyed
    split
    · exact (changes _).beside keyed
    · exact .refl keyed
  · intro left right keyedLeft keyedRight alike
    unfold mode
    rw [alike.channel]
    split
    · exact answer_near alike _ _
    split
    · exact answer_near alike _ _
    split
    · exact (changes _).near keyedLeft keyedRight alike
    · exact answer_near alike _ _

theorem topic_confined (target : Text) (text : Option Text) (user : User) :
    (topic target text).Confined target user := by
  constructor
  · intro server
    unfold topic setTopic
    split
    · rfl
    split
    · split <;> rfl
    · split <;> rfl
  · intro server keyed
    unfold topic setTopic
    split
    · exact .refl keyed
    rename_i channel found
    have named : channel.name.fold = target.fold := keyed.fold_eq found
    split
    · split
      · exact .refl keyed
      · exact .setChannel keyed named
    · split <;> exact .refl keyed
  · intro left right _ _ alike
    unfold topic setTopic
    rw [alike.channel]
    split
    · exact answer_near alike _ _
    split
    · split
      · exact answer_near alike _ _
      · exact ⟨alike.setChannel _, rfl, relay_congr alike.users _ _, rfl, rfl⟩
    · split <;> exact answer_near alike _ _

theorem talk_confined (command : Command) {target : Text} (marked : target.head? = some '#')
    (text : Text) (user : User) : (talk command target text).Confined target user := by
  constructor
  · intro server
    unfold talk sayToChannel
    rw [if_pos marked]
    split
    · rfl
    split
    · rfl
    split <;> rfl
  · intro server keyed
    unfold talk sayToChannel
    rw [if_pos marked]
    split
    · exact .refl keyed
    split
    · exact .refl keyed
    split <;> exact .refl keyed
  · intro left right _ _ alike
    unfold talk sayToChannel
    rw [if_pos marked, if_pos marked, alike.channel]
    split
    · exact answer_near alike _ _
    split
    · exact answer_near alike _ _
    split
    · exact answer_near alike _ _
    · exact ⟨alike, rfl, relay_congr alike.users _ _, rfl, rfl⟩

end Handler

theorem Text.pieces_eq_singleton {name : Text} (filled : name ≠ []) (alone : ',' ∉ name) :
    name.pieces = [name] := by
  rw [pieces, List.splitOn_eq_singleton alone]
  simp [filled]

/-- The commands that are for channels. -/
def Command.onChannels : List Command := [join, part, mode, topic, privmsg, notice]

/-- A message that is for one channel. -/
structure Message.IsFor (message : Message) (target : Text) : Prop where
  asked : ∃ command ∈ Command.onChannels, message.verb = .command command
  given : message.params.head? = some target
  marked : target.head? = some '#'
  alone : ',' ∉ target

namespace Message.IsFor

variable {message : Message} {target : Text}

theorem param_zero (own : message.IsFor target) : message.param 0 = target := by
  rw [param, List.getD_eq_getElem?_getD, ← List.head?_eq_getElem?, own.given, Option.getD_some]

theorem pieces (own : message.IsFor target) : (message.param 0).pieces = [target] := by
  have filled : target ≠ [] := by
    rintro rfl
    cases own.marked
  rw [own.param_zero, Text.pieces_eq_singleton filled own.alone]

/-- Whatever becomes of a message that is for one channel, it stays in that channel. -/
theorem confined (own : message.IsFor target) (user : User) :
    (Handler.handle message).Confined target user := by
  obtain ⟨command, listed, asked⟩ := own.asked
  have first : message.param 0 = target := own.param_zero
  have run : (Handler.run command message).Confined target user := by
    simp only [Command.onChannels, List.mem_cons, List.not_mem_nil, or_false] at listed
    rcases listed with rfl | rfl | rfl | rfl | rfl | rfl
    · change (Handler.join (message.param 0)).Confined target user
      rw [Handler.join, own.pieces]
      exact Handler.forEach_confined fun name single =>
        List.mem_singleton.mp single ▸ Handler.joinOne_confined name user
    · change (Handler.part (message.param 0) (message.param 1)).Confined target user
      rw [Handler.part, own.pieces]
      exact Handler.forEach_confined fun name single =>
        List.mem_singleton.mp single ▸ Handler.partOne_confined _ name user
    · change (Handler.mode (message.param 0) _ _).Confined target user
      rw [first]
      exact Handler.mode_confined target _ _ user
    · change (Handler.topic (message.param 0) _).Confined target user
      rw [first]
      exact Handler.topic_confined target _ user
    all_goals
      change (Handler.talk _ (message.param 0) _).Confined target user
      rw [first]
      exact Handler.talk_confined _ own.marked _ user
  -- Whether the command is reached depends on the client and the message alone.
  by_cases early : (!user.registered && !command.beforeRegistration) = true
  · refine (Handler.answer_confined .rejected [.notRegistered]).congr fun server => ?_
    simp [Handler.handle, asked, early, Handler.reject]
  by_cases again : user.registered = true ∧ command = .user
  · refine (Handler.answer_confined .rejected [.alreadyRegistered]).congr fun server => ?_
    simp [Handler.handle, asked, again, Handler.reject]
  by_cases few : message.hasEnoughParams = true
  · refine run.congr fun server => ?_
    simp [Handler.handle, asked, early, again, few]
  · refine (Handler.answer_confined .rejected
      (Handler.tooFewParams command message.params.length)).congr fun server => ?_
    simp [Handler.handle, asked, early, again, few, Handler.reject]

end Message.IsFor

namespace Network

variable {network : Network} {number : Nat} {client : Client} {message : Message} {target : Text}

/-- A message for one channel changes the server only, and ends no connection whose queue is
open. -/
theorem step_confined (orderly : network.Orderly) (found : network.client? number = some client)
    (live : client.live = true) (listening : client.listening = true)
    (own : message.IsFor target) {reaction : Reaction}
    (handled : Handler.handle message network.server client.user = reaction) :
    (network.step (.said number message)).network = { network with server := reaction.server } ∧
      (network.step (.said number message)).closed = false ∧
      ∀ reader, (network.step (.said number message)).linesFor reader =
        (if network.isListening reader then linesTo reader reaction.relayed else []) ++
          if reader = number then reaction.replies else [] := by
  have unchanged : reaction.user = client.user := by
    rw [← handled]
    exact (own.confined client.user).unchanged network.server
  exact step_unchanged orderly found live listening handled unchanged

/-- Two messages of two clients, each for a channel of its own, can be handled in either order: the
server and what the clients know of themselves come out the same, no connection ends, and everybody
receives the same lines.  Only the order of those lines, and that in which the directory lists the
channels, may be another. -/
theorem different_channels_commute (profile : Profile) (events : List Event)
    (reached : (new profile).after events = network) {first second : Nat} {one two : Client}
    (foundOne : network.client? first = some one) (foundTwo : network.client? second = some two)
    (liveOne : one.live = true) (liveTwo : two.live = true)
    (listeningOne : one.listening = true) (listeningTwo : two.listening = true)
    {said heard : Message} {here there : Text} (ownSaid : said.IsFor here)
    (ownHeard : heard.IsFor there) (apart : here.fold ≠ there.fold) :
    let saidFirst := network.step (.said first said)
    let heardSecond := saidFirst.network.step (.said second heard)
    let heardFirst := network.step (.said second heard)
    let saidSecond := heardFirst.network.step (.said first said)
    heardSecond.network.server.Alike saidSecond.network.server ∧
      heardSecond.network.clients = saidSecond.network.clients ∧
      saidFirst.closed = saidSecond.closed ∧ heardFirst.closed = heardSecond.closed ∧
      ∀ reader, (saidFirst.linesFor reader ++ heardSecond.linesFor reader).Perm
        (heardFirst.linesFor reader ++ saidSecond.linesFor reader) := by
  intro saidFirst heardSecond heardFirst saidSecond
  have orderly : network.Orderly := reached ▸ orderly_after profile events
  have saidConfined := ownSaid.confined one.user
  have heardConfined := ownHeard.confined two.user
  obtain ⟨afterSaid, saidStays, saidLines⟩ :=
    step_confined orderly foundOne liveOne listeningOne ownSaid rfl
  obtain ⟨afterHeard, heardStays, heardLines⟩ :=
    step_confined orderly foundTwo liveTwo listeningTwo ownHeard rfl
  have orderlySaid := orderly.step (.said first said)
  have orderlyHeard := orderly.step (.said second heard)
  rw [afterSaid] at orderlySaid
  rw [afterHeard] at orderlyHeard
  -- The other client is found as it was, since only the server has changed.
  obtain ⟨afterBoth, laterHeardStays, laterHeardLines⟩ :=
    step_confined orderlySaid foundTwo liveTwo listeningTwo ownHeard rfl
  obtain ⟨afterSwapped, laterSaidStays, laterSaidLines⟩ :=
    step_confined orderlyHeard foundOne liveOne listeningOne ownSaid rfl
  have keyed : network.server.channels.Keyed Channel.name :=
    reached ▸ (consistent_after profile events).keyed
  have besideSaid := saidConfined.beside keyed
  have besideHeard := heardConfined.beside keyed
  have sameHeard := heardConfined.near besideSaid.keyed keyed (besideSaid.sameAt apart.symm)
  have sameSaid := saidConfined.near besideHeard.keyed keyed (besideHeard.sameAt apart)
  refine ⟨?_, ?_, ?_, ?_, fun reader => ?_⟩
  · dsimp only [heardSecond, saidSecond, saidFirst, heardFirst]
    rw [afterSaid, afterBoth, afterHeard, afterSwapped]
    exact besideSaid.join besideHeard.toSameBeside
      (heardConfined.beside besideSaid.keyed).toSameBeside
      (saidConfined.beside besideHeard.keyed).toSameBeside sameHeard.server sameSaid.server apart
  · dsimp only [heardSecond, saidSecond, saidFirst, heardFirst]
    rw [afterSaid, afterBoth, afterHeard, afterSwapped]
  · dsimp only [saidSecond, saidFirst, heardFirst]
    rw [saidStays, afterHeard, laterSaidStays]
  · dsimp only [heardSecond, saidFirst, heardFirst]
    rw [heardStays, afterSaid, laterHeardStays]
  · have saidAlike : saidSecond.linesFor reader = saidFirst.linesFor reader := by
      dsimp only [saidSecond, saidFirst, heardFirst]
      rw [afterHeard, laterSaidLines, saidLines, sameSaid.relayed, sameSaid.replies]
      rfl
    have heardAlike : heardSecond.linesFor reader = heardFirst.linesFor reader := by
      dsimp only [heardSecond, saidFirst, heardFirst]
      rw [afterSaid, laterHeardLines, heardLines, sameHeard.relayed, sameHeard.replies]
      rfl
    rw [saidAlike, heardAlike]
    exact List.perm_append_comm

/-- One client leaves a channel while the other gives another one a topic. -/
theorem orders_of_teaRun :
    let network := (new teaProfile).after (teaRun ++ spoken [(0, "JOIN #milk"), (1, "JOIN #milk")])
    let leaving := Event.said 0 ⟨none, .command .part, ["#TEA"], false⟩
    let naming := Event.said 1 ⟨none, .command .topic, ["#milk", "warm"], true⟩
    let left := network.step leaving
    let named := network.step naming
    let both := left.network.step naming
    let swapped := named.network.step leaving
    both.network.server.Alike swapped.network.server ∧
      (left.linesFor 0 ++ both.linesFor 0).map Line.wire =
        [(":ann!a@east PART #tea\r\n" : Text), (":Bert!b@west TOPIC #milk :warm\r\n" : Text)] ∧
      (named.linesFor 0 ++ swapped.linesFor 0).map Line.wire =
        [(":Bert!b@west TOPIC #milk :warm\r\n" : Text), (":ann!a@east PART #tea\r\n" : Text)] := by
  intro network leaving naming left named both swapped
  have present : (network.client? 0).map (fun client => (client.live, client.listening)) =
      some (true, true) ∧
      (network.client? 1).map (fun client => (client.live, client.listening)) =
        some (true, true) := by decide +kernel
  obtain ⟨ann, foundAnn, hereAnn⟩ := Option.map_eq_some_iff.mp present.1
  obtain ⟨bert, foundBert, hereBert⟩ := Option.map_eq_some_iff.mp present.2
  obtain ⟨liveAnn, listeningAnn⟩ := Prod.mk.inj hereAnn
  obtain ⟨liveBert, listeningBert⟩ := Prod.mk.inj hereBert
  have parts : (⟨none, .command .part, ["#TEA"], false⟩ : Message).IsFor "#TEA" :=
    ⟨⟨.part, by decide, rfl⟩, rfl, by decide, by decide⟩
  have titles : (⟨none, .command .topic, ["#milk", "warm"], true⟩ : Message).IsFor "#milk" :=
    ⟨⟨.topic, by decide, rfl⟩, rfl, by decide, by decide⟩
  have apart : Text.fold "#TEA" ≠ Text.fold "#milk" := by decide
  have reached : (new teaProfile).after
      (teaRun ++ spoken [(0, "JOIN #milk"), (1, "JOIN #milk")]) = network := rfl
  refine ⟨?_, by decide +kernel, by decide +kernel⟩
  -- The run itself is not computed again.
  clear_value network
  exact (different_channels_commute teaProfile _ reached foundAnn foundBert liveAnn liveBert
    listeningAnn listeningBert parts titles apart).1

end Network

end IrcServer
