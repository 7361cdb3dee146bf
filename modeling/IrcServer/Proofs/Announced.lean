import IrcServer.Proofs.Follows
import IrcServer.Proofs.NameLists

namespace IrcServer

/-! Who is told of a JOIN, a PART or a new topic.

The client that gives the command is answered with the line that the others of the channel are
sent.  Whether the channel is changed before that or after it, they are the same others. -/

theorem ChannelName.pieces_of_isValid {limit : Nat} {name : Text}
    (valid : isValid limit name = true) : name.pieces = [name] :=
  Text.pieces_eq_singleton (ne_nil_of_isValid valid) (not_mem_of_isValid valid (by decide))

/-- What the members of a channel read of a command of this client. -/
def User.announcement (user : User) (command : Command) (channel : Channel) (text : Option Text) :
    Text :=
  Line.cut (':' :: user.fullName ++ ' ' :: command.name ++ ' ' :: channel.name.trim ++
    Line.rawText text) ++ crlf

/-- The channel that a JOIN of this name is for. -/
def Server.channelFor (server : Server) (name : Text) : Channel :=
  (server.channels.find? name).getD (.new name)

/-- The channel with one more member. -/
def Channel.enteredBy (user : User) (operator : Bool) (channel : Channel) : Channel :=
  { channel with members := channel.members ++ [⟨user.nick, operator⟩] }

/-- What a client reads of a channel that it has entered. -/
theorem Server.wires_entered (server : Server) {user : User} (channel : Channel)
    (registered : user.registered = true) (isWord : user.nick.IsWord)
    (visible : channel.name.trim ≠ []) (named : ∀ member ∈ channel.members, member.nick ≠ []) :
    ∃ groups : List (List Member),
      groups.flatten = channel.members ∧
      (∀ group ∈ groups, group ≠ []) ∧
      ((channel.topic.toList.map fun title => Reply.topic channel.name title) ++
          server.namesReplies channel).map (fun reply => (server.reply user reply).wire) =
        (channel.topic.toList.map fun title =>
            Line.cut (server.replyFront user "332" channel.name.trim ++ title) ++ crlf) ++
          (groups.map fun group =>
            Line.cut (server.namesFront user channel ++ shownTogether group) ++ crlf) ++
          [Line.cut (server.replyFront user "366" channel.name.trim ++ "End of NAMES list") ++
            crlf] := by
  obtain ⟨groups, flat, fit, wires⟩ :=
    server.wires_namesReplies channel registered isWord visible named
  refine ⟨groups, flat, fun group listed => (fit group listed).1, ?_⟩
  rw [List.map_append, wires, List.map_map, List.append_assoc]
  refine congrArg (· ++ _) (List.map_congr_left fun title _ => ?_)
  have titled : (server.reply user (.topic channel.name title)).raw = _ :=
    server.raw_about registered isWord rfl rfl visible
  rw [Function.comp_apply, Line.wire, titled]
  rfl

namespace Handler

variable {message : Message} {server : Server} {user : User} {name : Text} {channel : Channel}

/-- A list of one item is that item. -/
theorem forEach_singleton {α : Type} (item : α) (step : α → Handler) (server : Server)
    (user : User) :
    forEach [item] step server user =
      { step item server user with verdict := .accepted } := by
  simp [forEach, Reaction.andThen, say, answer]

theorem partOne_of_member {reason : Text} (found : server.channels.find? name = some channel)
    (present : channel.isMember user.nick = true) :
    partOne reason name server user =
      { server := server.leaveChannel name user.nick
        user
        relayed := (server.leaveChannel name user.nick).relay (channel.leave user.nick).2.nicks
          (partLine user channel.name reason)
        replies := [partLine user channel.name reason]
        verdict := .accepted } := by
  simp only [partOne, found, present, Bool.not_true, Bool.false_eq_true, if_false]

theorem topic_of_member {title : Text} (found : server.channels.find? name = some channel)
    (present : channel.isMember user.nick = true) :
    topic name (some title) server user =
      { server := server.setChannel name (channel.setTopic title)
        user
        relayed := server.relay (channel.others user.nick)
          (user.line .topic [.word channel.name] (some title))
        replies := [user.line .topic [.word channel.name] (some title)]
        verdict := .accepted } := by
  simp only [topic, setTopic, found, present, Bool.not_true, Bool.false_eq_true, if_false]

end Handler

namespace Network

namespace Gives

variable {profile : Profile} {network : Network} {number : Nat} {client : Client}
  {message : Message} {command : Command} {name : Text} {more : List Text}

/-- A line that goes to the others of a channel and back to the client reaches each of them once. -/
theorem linesFor (gives : network.Gives number client message command name more)
    (orderly : network.Orderly)
    (consistent : Consistent profile network.server network.roster) {reaction : Reaction}
    (handled : Handler.handle message network.server client.user = reaction)
    (same : reaction.user = client.user) {channel : Channel}
    (distinct : DistinctMembers channel.members) {line : Line}
    (relayed : reaction.relayed = network.server.relay (channel.others client.user.nick) line)
    {answers : List Line} (replies : reaction.replies = line :: answers) (other : Nat) :
    (network.step (.said number message)).linesFor other =
      if other = number then line :: answers
      else if network.isIn other channel = true ∧ network.isListening other = true then [line]
      else [] := by
  obtain ⟨_, _, lines⟩ := gives.answered orderly handled (congrArg User.quitReason same)
  rw [lines, relayed, replies,
    consistent.linesTo_others_of_distinct gives.here gives.registered distinct]
  by_cases own : other = number
  · simp [own]
  · by_cases hears : network.isListening other = true
    · simp [own, hears]
    · simp [own, hears]

theorem linesFor_once (gives : network.Gives number client message command name more)
    (orderly : network.Orderly)
    (consistent : Consistent profile network.server network.roster) {reaction : Reaction}
    (handled : Handler.handle message network.server client.user = reaction)
    (same : reaction.user = client.user) {channel : Channel}
    (distinct : DistinctMembers channel.members) {line : Line}
    (relayed : reaction.relayed = network.server.relay (channel.others client.user.nick) line)
    (replies : reaction.replies = [line]) (other : Nat) :
    (network.step (.said number message)).linesFor other =
      if other = number ∨ network.isIn other channel = true ∧ network.isListening other = true then
        [line]
      else [] := by
  rw [gives.linesFor orderly consistent handled same distinct relayed replies]
  by_cases own : other = number
  · rw [if_pos own, if_pos (.inl own)]
  · rw [if_neg own]
    exact if_congr (or_iff_right own).symm rfl rfl

theorem listed_of_isIn (gives : network.Gives number client message command name more)
    (present : network.isIn number (network.server.channelFor name) = true) :
    network.server.channels.find? name = some (network.server.channelFor name) ∧
      (network.server.channelFor name).isMember client.user.nick = true := by
  rw [isIn_of_roster gives.here gives.registered] at present
  refine ⟨?_, present⟩
  unfold Server.channelFor at present ⊢
  cases found : network.server.channels.find? name with
  | some channel => rfl
  | none =>
      rw [found] at present
      cases present

theorem handle_join (gives : network.Gives number client message .join name more)
    (valid : ChannelName.isValid network.server.profile.channelLimit name = true) :
    Handler.handle message network.server client.user =
      { Handler.joinOne name network.server client.user with verdict := .accepted } := by
  rw [gives.handled (by decide) (by decide)]
  change Handler.join (message.param 0) _ _ = _
  rw [gives.first, Handler.join, ChannelName.pieces_of_isValid valid, Handler.forEach_singleton]

theorem handle_part (gives : network.Gives number client message .part name more)
    (valid : ChannelName.isValid network.server.profile.channelLimit name = true) :
    Handler.handle message network.server client.user =
      { Handler.partOne (message.param 1) name network.server client.user with
        verdict := .accepted } := by
  rw [gives.handled (by decide) (by decide)]
  change Handler.part (message.param 0) (message.param 1) _ _ = _
  rw [gives.first, Handler.part, ChannelName.pieces_of_isValid valid, Handler.forEach_singleton]

theorem handle_topic {title : Text} {rest : List Text}
    (gives : network.Gives number client message .topic name (title :: rest)) :
    Handler.handle message network.server client.user =
      Handler.topic name (some title) network.server client.user := by
  have second : message.params[1]? = some title := by rw [gives.params]; rfl
  rw [gives.handled (by decide) (by decide)]
  change Handler.topic (message.param 0) message.params[1]? _ _ = _
  rw [gives.first, second]

section Announced

variable (orderly : network.Orderly)
  (consistent : Consistent profile network.server network.roster)

include orderly consistent

theorem linesFor_join (gives : network.Gives number client message .join name more)
    (valid : ChannelName.isValid profile.channelLimit name = true)
    (absent : network.isIn number (network.server.channelFor name) = false) (other : Nat) :
    let channel := network.server.channelFor name
    let line := client.user.line .join [.word channel.name] none
    (network.step (.said number message)).linesFor other =
      if other = number then
        line :: ((channel.topic.toList.map fun title => Reply.topic channel.name title) ++
          network.server.namesReplies (channel.enteredBy client.user
            (network.server.channels.find? name).isNone)).map (network.server.reply client.user)
      else if network.isIn other channel = true ∧ network.isListening other = true then [line]
      else [] := by
  intro channel line
  have listed : (network.server.channels.find? name).getD (.new name) = channel := rfl
  obtain ⟨_, opened, _, distinct, _⟩ := consistent.joinable valid listed
  have valid := consistent.registry.profileEq.symm ▸ valid
  rw [isIn_of_roster gives.here gives.registered] at absent
  have handled := gives.handle_join valid
  rw [Handler.joinOne_eq valid listed opened, if_neg (ne_true_of_eq_false absent)] at handled
  refine gives.linesFor orderly consistent handled rfl distinct ?_ rfl other
  exact (relay_congr rfl _ _).trans
    (congrArg (network.server.relay · line) (others_append_self channel _ _))

theorem linesFor_rejoin (gives : network.Gives number client message .join name more)
    (present : network.isIn number (network.server.channelFor name) = true) (other : Nat) :
    (network.step (.said number message)).linesFor other = [] := by
  obtain ⟨found, member⟩ := gives.listed_of_isIn present
  have sound := consistent.sound found
  have valid := consistent.registry.profileEq.symm ▸
    ChannelName.isValid_of_fold_eq sound.valid (consistent.keyed.fold_eq found).symm
  have listed : (network.server.channels.find? name).getD (.new name) =
    network.server.channelFor name := rfl
  have handled := gives.handle_join valid
  rw [Handler.joinOne_eq valid listed sound.opened, if_pos member] at handled
  obtain ⟨_, _, lines⟩ := gives.answered orderly handled rfl
  rw [lines]
  simp [Handler.say, Handler.answer, linesTo]

theorem linesFor_part (gives : network.Gives number client message .part name more)
    (present : network.isIn number (network.server.channelFor name) = true) (other : Nat) :
    let channel := network.server.channelFor name
    let line := Handler.partLine client.user channel.name (message.param 1)
    (network.step (.said number message)).linesFor other =
      if other = number ∨ network.isIn other channel = true ∧ network.isListening other = true then
        [line]
      else [] := by
  intro channel line
  obtain ⟨found, member⟩ := gives.listed_of_isIn present
  have sound := consistent.sound found
  have handled := gives.handle_part (consistent.registry.profileEq.symm ▸
    ChannelName.isValid_of_fold_eq sound.valid (consistent.keyed.fold_eq found).symm)
  rw [Handler.partOne_of_member found member] at handled
  refine gives.linesFor_once orderly consistent handled rfl sound.distinct ?_ rfl other
  have users : (network.server.leaveChannel name client.user.nick).users = network.server.users := rfl
  rw [relay_congr users, Channel.leave_snd sound.distinct, nicks_dropped]

theorem linesFor_topic {title : Text} {rest : List Text}
    (gives : network.Gives number client message .topic name (title :: rest))
    (present : network.isIn number (network.server.channelFor name) = true) (other : Nat) :
    let channel := network.server.channelFor name
    let line := client.user.line .topic [.word channel.name] (some title)
    (network.step (.said number message)).linesFor other =
      if other = number ∨ network.isIn other channel = true ∧ network.isListening other = true then
        [line]
      else [] := by
  intro channel line
  obtain ⟨found, member⟩ := gives.listed_of_isIn present
  have handled := gives.handle_topic
  rw [Handler.topic_of_member found member] at handled
  exact gives.linesFor_once orderly consistent handled rfl (consistent.sound found).distinct rfl rfl
    other

end Announced

end Gives

/-- A JOIN, a PART or a TOPIC is read once by the client that gives it and once by every other
client in the channel, and by nobody else.  One that has entered then reads the topic, if there is
one, and the names of all members, itself among them.  A JOIN of a channel that the client is in
says nothing to anybody. -/
theorem channel_changes_are_announced (profile : Profile) (events : List Event) (number : Nat)
    (client : Client) (message : Message) (command : Command) (name : Text) (more : List Text)
    (found : ((new profile).after events).client? number = some client)
    (live : client.live = true) (registered : client.user.registered = true)
    (listening : client.listening = true) (asked : message.verb = .command command)
    (params : message.params = name :: more) :
    let network := (new profile).after events
    let server := network.server
    let user := client.user
    let outcome := network.step (.said number message)
    let read := fun other => (outcome.linesFor other).map Line.wire
    let channel := server.channelFor name
    let hears := fun other =>
      network.isIn other channel = true ∧ network.isListening other = true
    let label := channel.name.trim
    let domain := Line.rawOrigin profile.domain
    let front := fun code : Text => domain ++ code ++ ' ' :: user.nick ++ ' ' :: label ++ " :"
    (command = .join → ChannelName.isValid profile.channelLimit name = true →
      network.isIn number channel = false →
      ∃ groups : List (List Member),
        groups.flatten =
          channel.members ++ [⟨user.nick, (server.channels.find? name).isNone⟩] ∧
        (∀ group ∈ groups, group ≠ []) ∧
        ∀ other, read other =
          if other = number then
            user.announcement .join channel none ::
              ((channel.topic.toList.map fun title => Line.cut (front "332" ++ title) ++ crlf) ++
                (groups.map fun group =>
                  Line.cut (domain ++ "353 " ++ user.nick ++ " = " ++ label ++ " :" ++
                    shownTogether group) ++ crlf) ++
                [Line.cut (front "366" ++ "End of NAMES list") ++ crlf])
          else if hears other then [user.announcement .join channel none] else []) ∧
    (command = .join → network.isIn number channel = true → ∀ other, read other = []) ∧
    (command = .part → network.isIn number channel = true → ∀ other,
      read other =
        if other = number ∨ hears other then
          [user.announcement .part channel
            (if message.param 1 = [] then none else some (message.param 1))]
        else []) ∧
    (command = .topic → network.isIn number channel = true → ∀ title rest,
      more = title :: rest → ∀ other,
        read other =
          if other = number ∨ hears other then [user.announcement .topic channel (some title)]
          else []) := by
  intro network server user outcome read channel hears label domain front
  have consistent : Consistent profile server network.roster := consistent_after profile events
  have orderly : network.Orderly := orderly_after profile events
  have gives : network.Gives number client message command name more :=
    ⟨found, live, registered, listening, asked, params⟩
  refine ⟨?_, ?_, ?_, ?_⟩
  · rintro rfl valid absent
    obtain ⟨validName, _, _, _, known⟩ := consistent.joinable valid (rfl : _ = channel)
    have visible : channel.name.trim ≠ [] :=
      Text.trim_ne_nil_of_head (ChannelName.head?_of_isValid validName) (by decide)
    have isWord := Nickname.isWord_of_isValid
      (consistent.registry.valid_nick (roster_of_client found live) registered)
    have named : ∀ member ∈ (channel.enteredBy user (server.channels.find? name).isNone).members,
        member.nick ≠ [] := by
      intro member present
      rcases List.mem_append.mp present with old | new
      · obtain ⟨_, holder, there, registered, same⟩ := known member old
        exact same ▸ Nickname.ne_nil_of_isValid (consistent.registry.valid_nick there registered)
      · rw [List.mem_singleton.mp new]
        exact isWord.ne_nil
    obtain ⟨groups, flat, some, wires⟩ := server.wires_entered
      (channel.enteredBy user (server.channels.find? name).isNone) registered isWord visible named
    have written := user.wire_word .join none visible
    have same : server.profile = profile := consistent.registry.profileEq
    simp only [Server.namesFront, Server.replyFront, same] at wires
    refine ⟨groups, flat, some, fun other => ?_⟩
    change ((network.step (.said number message)).linesFor other).map Line.wire = _
    rw [gives.linesFor_join orderly consistent valid absent, apply_ite (List.map Line.wire),
      apply_ite (List.map Line.wire), List.map_cons, List.map_map, List.map_singleton, List.map_nil,
      written]
    exact if_congr Iff.rfl (congrArg (_ :: ·) wires) rfl
  · rintro rfl present other
    exact congrArg (List.map Line.wire) (gives.linesFor_rejoin orderly consistent present other)
  · rintro rfl present other
    obtain ⟨listed, _⟩ := gives.listed_of_isIn present
    have written := user.wire_word .part
      (if message.param 1 = [] then none else some (message.param 1)) (consistent.sound listed).visible
    change ((network.step (.said number message)).linesFor other).map Line.wire = _
    rw [gives.linesFor_part orderly consistent present, apply_ite (List.map Line.wire),
      List.map_singleton, List.map_nil, Handler.partLine, written]
    rfl
  · rintro rfl present title rest rfl other
    obtain ⟨listed, _⟩ := gives.listed_of_isIn present
    have written := user.wire_word .topic (some title) (consistent.sound listed).visible
    change ((network.step (.said number message)).linesFor other).map Line.wire = _
    rw [gives.linesFor_topic orderly consistent present, apply_ite (List.map Line.wire),
      List.map_singleton, List.map_nil, written]
    rfl

/-- The one that stays and the one that goes read the same. -/
theorem announcement_of_teaRun :
    let network := (new teaProfile).after teaRun
    let outcome := network.step (.said 1 ⟨none, .command .part, ["#TEA", "bye"], true⟩)
    (outcome.linesFor 0).map Line.wire = [(":Bert!b@west PART #tea :bye\r\n" : Text)] ∧
      (outcome.linesFor 1).map Line.wire = [(":Bert!b@west PART #tea :bye\r\n" : Text)] := by
  intro network outcome
  have speaker : (network.client? 1).map (fun client =>
      (client.live, client.listening, client.user.registered, client.user.fullName)) =
      some (true, true, true, ("Bert!b@west" : Text)) := by decide +kernel
  obtain ⟨client, found, same⟩ := Option.map_eq_some_iff.mp speaker
  simp only [Prod.mk.injEq] at same
  obtain ⟨live, listening, registered, fullName⟩ := same
  have room : network.isIn 1 (network.server.channelFor "#TEA") = true ∧
      network.isIn 0 (network.server.channelFor "#TEA") = true ∧
      network.isListening 0 = true := by decide +kernel
  have shown : (network.server.channelFor "#TEA").name = "#tea" := by decide +kernel
  have reached : network = (new teaProfile).after teaRun := rfl
  have told := channel_changes_are_announced teaProfile teaRun 1 client
    ⟨none, .command .part, ["#TEA", "bye"], true⟩ .part "#TEA" ["bye"] found live registered
    listening rfl rfl
  rw [← reached] at told
  -- The run itself is not computed again.
  clear_value network
  have read := told.2.2.1 rfl room.1
  refine ⟨(read 0).trans ?_, (read 1).trans ?_⟩
  · rw [if_pos (.inr room.2), User.announcement, fullName, shown]
    decide
  · rw [if_pos (.inl rfl), User.announcement, fullName, shown]
    decide

/-- White space at the end of a channel's name is not announced. -/
theorem join_hides_blank_end :
    let network := (new teaProfile).after
      ([.connected "east"] ++ spoken [(0, "NICK ann"), (0, "USER a 0 * Ann")])
    let outcome := network.step (.said 0 ⟨none, .command .join, ["#a\t"], false⟩)
    spoken [(0, "JOIN #a\t")] = [.said 0 ⟨none, .command .join, ["#a\t"], false⟩] ∧
      (outcome.network.server.channels.find? "#a\t").map Channel.name = some ("#a\t" : Text) ∧
      ((outcome.linesFor 0).map Line.wire).head? = some (":ann!a@east JOIN #a\r\n" : Text) ∧
      ((outcome.linesFor 0).map Line.wire).contains ":ann!a@east JOIN #a\t\r\n" = false := by
  decide +kernel

end Network

end IrcServer
