import IrcServer.Proofs.Announced

namespace IrcServer

/-! What comes of a MODE.

Its changes are looked at as a whole before the first is made: one fault, or a client that may not
make them, and none is made.  Made one after another, they leave each member with the flag that the
last change naming it has given.  A change that names nobody in the channel is told to the client
alone and holds up none of the others. -/

namespace Mode

/-- Either every item is a change, or there is a first fault. -/
theorem validate_cases (items : List (Except Fault Change)) :
    (∃ (valid : List Change) (fault : Fault) (rest : List (Except Fault Change)),
        items = valid.map .ok ++ .error fault :: rest ∧ validate items = .error fault) ∨
      ∃ changes : List Change, items = changes.map .ok ∧ validate items = .ok changes := by
  induction items with
  | nil => exact .inr ⟨[], rfl, rfl⟩
  | cons item rest inductionHypothesis =>
      cases item with
      | error fault => exact .inl ⟨[], fault, rest, rfl, rfl⟩
      | ok change =>
          rcases inductionHypothesis with ⟨valid, fault, others, rfl, known⟩ | ⟨changes, rfl, known⟩
          · exact .inl ⟨change :: valid, fault, others, rfl, by rw [validate, known]⟩
          · exact .inr ⟨change :: changes, rfl, by rw [validate, known]⟩

/-- The flag that some changes leave a member: what the last one that names it says. -/
def flagAfter (changes : List Change) (member : Member) : Bool :=
  ((changes.reverse.find? fun change => change.nick.fold = member.key).map Change.enabled).getD
    member.operator

theorem flagAfter_cons (change : Change) (rest : List Change) (member : Member) :
    flagAfter (change :: rest) member =
      flagAfter rest
        (if member.key = change.nick.fold then { member with operator := change.enabled }
        else member) := by
  have sameKey : (if member.key = change.nick.fold then { member with operator := change.enabled }
      else member).key = member.key := by
    split <;> rfl
  unfold flagAfter
  rw [List.reverse_cons, List.find?_append, sameKey]
  cases rest.reverse.find? fun other => decide (other.nick.fold = member.key) with
  | some later => rfl
  | none =>
      by_cases named : member.key = change.nick.fold
      · simp [named]
      · simp [named, Ne.symm named]

theorem raw_modeString (change : Change) :
    Param.raw (.word change.modeString) = ' ' :: change.modeString := by
  unfold Change.modeString Change.symbol
  cases change.enabled
  · decide
  · decide

end Mode

namespace Channel

variable {channel : Channel}

/-- The channel once some changes have been made to it. -/
def changedBy (changes : List Mode.Change) (channel : Channel) : Channel :=
  { channel with
    members := channel.members.map fun member =>
      { member with operator := Mode.flagAfter changes member } }

theorem changedBy_nil (channel : Channel) : channel.changedBy [] = channel := by
  simp [changedBy, Mode.flagAfter]

theorem changedBy_cons (distinct : DistinctMembers channel.members) (change : Mode.Change)
    (rest : List Mode.Change) :
    channel.changedBy (change :: rest) =
      (channel.setOperator change.nick change.enabled).2.changedBy rest := by
  rw [setOperator_snd distinct, changedBy, changedBy, List.map_map]
  refine congrArg (fun members => { channel with members }) (List.map_congr_left fun member _ => ?_)
  rw [Function.comp_apply, Mode.flagAfter_cons]
  split <;> rfl

theorem changedBy_singleton (distinct : DistinctMembers channel.members) (change : Mode.Change) :
    channel.changedBy [change] = (channel.setOperator change.nick change.enabled).2 := by
  rw [changedBy_cons distinct, changedBy_nil]

theorem setOperator_absent {nick : Text} (distinct : DistinctMembers channel.members)
    (absent : channel.isMember nick = false) (operator : Bool) :
    (channel.setOperator nick operator).2 = channel := by
  rw [setOperator_snd distinct, map_of_absent (any_isNamed_eq_false_iff.mp absent)]

theorem nicks_setOperator (distinct : DistinctMembers channel.members) (nick : Text)
    (operator : Bool) : (channel.setOperator nick operator).2.nicks = channel.nicks := by
  rw [setOperator_snd distinct, nicks, nicks, List.map_map]
  refine List.map_congr_left fun member _ => ?_
  rw [Function.comp_apply]
  split <;> rfl

/-- Who is a member is told by the nicknames alone. -/
theorem isMember_congr {changed : Channel} (nicks : changed.nicks = channel.nicks) (nick : Text) :
    changed.isMember nick = channel.isMember nick := by
  have told (channel : Channel) :
      channel.isMember nick = channel.nicks.any fun other => other.fold = nick.fold := by
    rw [Channel.nicks, List.any_map]
    rfl
  rw [told, told, nicks]

end Channel

namespace Server

/-- What a client that makes a change is answered. -/
def changeAnswer (server : Server) (user : User) (channel : Channel) (change : Mode.Change) : Line :=
  if channel.isMember change.nick then Handler.changeLine user channel change
  else server.reply user (.userNotInChannel change.nick channel.name)

/-- What the others of the channel are sent when a client makes a change. -/
def changeNews (server : Server) (user : User) (channel : Channel) (change : Mode.Change) :
    List Delivery :=
  if channel.isMember change.nick then
    server.relay (channel.others user.nick) (Handler.changeLine user channel change)
  else []

variable {server later : Server} {name : Text} {channel changed : Channel}

theorem changeAnswer_congr (beside : server.SameBeside name later) (user : User)
    (label : changed.name = channel.name) (nicks : changed.nicks = channel.nicks) :
    later.changeAnswer user changed = server.changeAnswer user channel := by
  funext change
  unfold changeAnswer Handler.changeLine
  rw [Channel.isMember_congr nicks, label, reply_congr beside.profile rfl fun _ => rfl]

theorem changeNews_congr (beside : server.SameBeside name later) (user : User)
    (label : changed.name = channel.name) (nicks : changed.nicks = channel.nicks) :
    later.changeNews user changed = server.changeNews user channel := by
  funext change
  unfold changeNews Handler.changeLine Channel.others
  rw [Channel.isMember_congr nicks, label, nicks, relay_congr beside.users]

end Server

/-- The reaction comes of some changes to the channel of that name, made one after another. -/
structure Reaction.Makes (server : Server) (user : User) (name : Text) (channel : Channel)
    (changes : List Mode.Change) (reaction : Reaction) : Prop where
  unchanged : reaction.user = user
  beside : server.SameBeside name reaction.server
  found : reaction.server.channels.find? name = some (channel.changedBy changes)
  relayed : reaction.relayed = changes.flatMap (server.changeNews user channel)
  replies : reaction.replies = changes.map (server.changeAnswer user channel)

namespace Handler

variable {server : Server} {user : User} {name : Text} {channel : Channel}

theorem mode_of_fault (found : server.channels.find? name = some channel) {modes : Text}
    {params : List Text} {fault : Mode.Fault}
    (known : Mode.validate (Mode.channelChanges modes params) = .error fault) :
    mode name modes params server user = refuse [modeFault channel.name fault] server user := by
  simp only [mode, found, known]

theorem mode_of_changes (found : server.channels.find? name = some channel) {modes : Text}
    {params : List Text} {changes : List Mode.Change}
    (known : Mode.validate (Mode.channelChanges modes params) = .ok changes) :
    mode name modes params server user =
      if user.operator = true ∨ channel.isOperator user.nick = true then
        forEach changes (changeMode name) server user
      else refuse [.notChannelOperator channel.name] server user := by
  simp only [mode, found, known, Bool.or_eq_true]

theorem changeMode_makes (found : server.channels.find? name = some channel)
    (distinct : DistinctMembers channel.members) (change : Mode.Change) :
    (changeMode name change server user).Makes server user name channel [change] := by
  have changed := Channel.changedBy_singleton distinct change
  have others : Channel.others (channel.setOperator change.nick change.enabled).2 user.nick =
      channel.others user.nick := by
    rw [Channel.others, Channel.nicks_setOperator distinct]
    rfl
  cases present : channel.isMember change.nick with
  | true =>
      simp only [changeMode, found, present, Bool.not_true, Bool.false_eq_true, if_false]
      refine ⟨rfl, .setChannel _ _ _, ?_, ?_, ?_⟩
      · rw [changed, Server.find?_setChannel_self]
      · simp only [List.flatMap_singleton, Server.changeNews, present, if_true, others]
        rfl
      · simp only [List.map_singleton, Server.changeAnswer, present, if_true]
        rfl
  | false =>
      simp only [changeMode, found, present, Bool.not_false, if_true]
      refine ⟨rfl, .refl _ _, ?_, ?_, ?_⟩
      · rw [changed, Channel.setOperator_absent distinct present]
        exact found
      · simp [Server.changeNews, present, say, answer]
      · simp [Server.changeAnswer, present, say, answer]

/-- Each change is made to what the ones before it have left, and the names stay the same. -/
theorem forEach_makes (found : server.channels.find? name = some channel)
    (distinct : DistinctMembers channel.members) (changes : List Mode.Change) :
    (forEach changes (changeMode name) server user).Makes server user name channel changes := by
  induction changes generalizing server channel with
  | nil => exact ⟨rfl, .refl _ _, by rw [Channel.changedBy_nil]; exact found, rfl, rfl⟩
  | cons change rest inductionHypothesis =>
      have first : (changeMode name change server user).Makes server user name channel [change] :=
        changeMode_makes found distinct change
      have found := first.found
      rw [Channel.changedBy_singleton distinct] at found
      have label : (channel.setOperator change.nick change.enabled).2.name = channel.name := rfl
      have nicks := Channel.nicks_setOperator distinct change.nick change.enabled
      have later := inductionHypothesis found (Channel.distinct_setOperator distinct _ _)
      rw [forEach_cons first.unchanged]
      refine ⟨later.unchanged, first.beside.trans later.beside, ?_, ?_, ?_⟩
      · rw [Channel.changedBy_cons distinct]
        exact later.found
      · have told := congrArg₂ (· ++ ·) first.relayed later.relayed
        rw [Server.changeNews_congr first.beside user label nicks] at told
        exact told.trans List.flatMap_append.symm
      · have answered := congrArg₂ (· ++ ·) first.replies later.replies
        rw [Server.changeAnswer_congr first.beside user label nicks] at answered
        exact answered.trans List.map_append.symm

end Handler

section Told

variable {profile : Profile} {network : Network} {number : Nat} {user : User} {channel : Channel}

theorem linesTo_flatMap {α : Type} (queue : QueueId) (items : List α) (send : α → List Delivery) :
    linesTo queue (items.flatMap send) = items.flatMap fun item => linesTo queue (send item) := by
  rw [linesTo, List.filter_flatMap, List.map_flatMap]
  rfl

theorem Consistent.linesTo_changeNews
    (consistent : Consistent profile network.server network.roster)
    (here : network.roster number = some user) (registered : user.registered = true)
    (distinct : DistinctMembers channel.members) (change : Mode.Change) (other : Nat) :
    linesTo other (network.server.changeNews user channel change) =
      if channel.isMember change.nick = true ∧ other ≠ number ∧ network.isIn other channel = true then
        [Handler.changeLine user channel change]
      else [] := by
  unfold Server.changeNews
  by_cases present : channel.isMember change.nick = true
  · rw [if_pos present, consistent.linesTo_others_of_distinct here registered distinct]
    exact if_congr (and_iff_right present).symm rfl rfl
  · rw [if_neg present, if_neg fun both => present both.1]
    rfl

/-- Who is in a channel is named by a single word, in whatever case. -/
theorem Consistent.isWord_of_isMember {server : Server} {roster : Roster}
    (consistent : Consistent profile server roster) {name nick : Text}
    (found : server.channels.find? name = some channel) (present : channel.isMember nick = true) :
    nick.IsWord := by
  obtain ⟨member, there, named⟩ := any_isNamed_iff.mp present
  obtain ⟨_, holder, here, registered, same⟩ := (consistent.sound found).known member there
  rw [Member.key, ← same] at named
  exact Nickname.isWord_of_fold_eq (consistent.registry.valid_nick here registered) named.symm

theorem User.wire_change (user : User) {change : Mode.Change} (named : change.nick.IsWord)
    (visible : channel.name.trim ≠ []) :
    (Handler.changeLine user channel change).wire =
      Line.cut (':' :: user.fullName ++ " MODE " ++ channel.name.trim ++
        ' ' :: change.modeString ++ ' ' :: change.nick) ++ crlf := by
  have label : Param.raw (.word channel.name) = ' ' :: channel.name.trim := if_neg visible
  have space : (" MODE " : Text) = ' ' :: Command.mode.name ++ [' '] := by decide
  rw [Line.wire, Handler.changeLine, user.raw_line, space]
  simp [label, named.raw_eq, Mode.raw_modeString change, Line.rawText]

namespace Server

variable (server : Server) (registered : user.registered = true) (isWord : user.nick.IsWord)

include registered isWord

theorem raw_said {reply : Reply} {code ending : Text} (numbered : reply.code = code)
    (said : reply.params.flatMap Param.raw ++ Line.rawText reply.text = ending) :
    (server.reply user reply).raw =
      Line.rawOrigin server.profile.domain ++ code ++ ' ' :: user.nick ++ ending := by
  rw [server.raw_reply registered isWord, numbered, List.append_assoc, said]

theorem raw_modeFault (label : Text) (fault : Mode.Fault) :
    (server.reply user (Handler.modeFault label fault)).raw =
      match fault with
      | .unknown letter =>
          Line.rawOrigin server.profile.domain ++ "472" ++ ' ' :: user.nick ++
            (Param.raw (.word [letter.symbol]) ++ " :is unknown mode char to me for " ++ label)
      | .missingParam _ =>
          Line.rawOrigin server.profile.domain ++ "461" ++ ' ' :: user.nick ++
            " MODE :Not enough parameters" := by
  cases fault with
  | unknown letter =>
      refine server.raw_said registered isWord rfl ?_
      change [Param.word [letter.symbol]].flatMap Param.raw ++ _ = _
      rw [List.flatMap_singleton, List.append_assoc]
      rfl
  | missingParam letter => exact server.raw_said registered isWord rfl rfl

theorem raw_notChannelOperator (visible : channel.name.trim ≠ []) :
    (server.reply user (.notChannelOperator channel.name)).raw =
      Line.rawOrigin server.profile.domain ++ "482" ++ ' ' :: user.nick ++
        (' ' :: channel.name.trim ++ " :You're not channel operator") := by
  have label : Param.raw (.word channel.name) = ' ' :: channel.name.trim := if_neg visible
  refine server.raw_said registered isWord rfl ?_
  change [Param.word channel.name].flatMap Param.raw ++ _ = _
  rw [List.flatMap_singleton, label]
  rfl

theorem raw_userNotInChannel (nick : Text) (visible : channel.name.trim ≠ []) :
    (server.reply user (.userNotInChannel nick channel.name)).raw =
      Line.rawOrigin server.profile.domain ++ "441" ++ ' ' :: user.nick ++
        (Param.raw (.word nick) ++ ' ' :: channel.name.trim ++ " :They aren't on that channel") := by
  have label : Param.raw (.word channel.name) = ' ' :: channel.name.trim := if_neg visible
  refine server.raw_said registered isWord rfl ?_
  change [Param.word nick, Param.word channel.name].flatMap Param.raw ++ _ = _
  rw [List.flatMap_cons, List.flatMap_singleton, label]
  rfl

end Server

end Told

namespace Network

variable {profile : Profile} {network : Network} {number : Nat} {client : Client}
  {message : Message} {target modes param : Text} {more : List Text} {channel : Channel}

namespace Gives

theorem handle_mode
    (gives : network.Gives number client message .mode target (modes :: param :: more)) :
    Handler.handle message network.server client.user =
      Handler.mode target modes (param :: more) network.server client.user := by
  have second : message.param 1 = modes := by
    rw [Message.param, gives.params]
    rfl
  have enough : Command.mode.minParams ≤ message.params.length := by
    rw [gives.params]
    exact Nat.le_add_left 3 _
  rw [Handler.handle_eq_run gives.asked gives.registered (by decide) enough]
  change Handler.mode (message.param 0) (message.param 1) (message.params.drop 2) _ _ = _
  rw [gives.first, second, gives.params]
  rfl

/-- What a MODE comes to whose changes may all be made. -/
theorem step_mode (gives : network.Gives number client message .mode target (modes :: param :: more))
    (orderly : network.Orderly) (consistent : Consistent profile network.server network.roster)
    (found : network.server.channels.find? target = some channel) {changes : List Mode.Change}
    (valid : Mode.validate (Mode.channelChanges modes (param :: more)) = .ok changes)
    (authority : client.user.operator = true ∨ channel.isOperator client.user.nick = true) :
    let outcome := network.step (.said number message)
    outcome.closed = false ∧
      (∃ server, outcome.network = { network with server } ∧
        network.server.SameBeside target server ∧
        server.channels.find? target = some (channel.changedBy changes)) ∧
      ∀ reader, outcome.linesFor reader = changes.flatMap fun change =>
        if channel.isMember change.nick = true then
          if reader = number ∨ network.isIn reader channel = true ∧
              network.isListening reader = true then
            [Handler.changeLine client.user channel change]
          else []
        else if reader = number then
          [network.server.reply client.user (.userNotInChannel change.nick channel.name)]
        else [] := by
  intro outcome
  have distinct := (consistent.sound found).distinct
  have makes : (Handler.forEach changes (Handler.changeMode target) network.server
      client.user).Makes network.server client.user target channel changes :=
    Handler.forEach_makes found distinct changes
  have handled : Handler.handle message network.server client.user =
      Handler.forEach changes (Handler.changeMode target) network.server client.user := by
    rw [gives.handle_mode, Handler.mode_of_changes found valid, if_pos authority]
  obtain ⟨after, stays, lines⟩ := step_unchanged orderly gives.found gives.live gives.listening
    handled makes.unchanged
  refine ⟨stays, ⟨_, after, makes.beside, makes.found⟩, fun reader => (lines reader).trans ?_⟩
  rw [makes.relayed, makes.replies, linesTo_flatMap]
  simp only [consistent.linesTo_changeNews gives.here gives.registered distinct]
  by_cases own : reader = number
  · -- Nothing that others are told comes to the client itself.
    have quiet : (if network.isListening reader = true then changes.flatMap fun change =>
        if channel.isMember change.nick = true ∧ reader ≠ number ∧
            network.isIn reader channel = true then
          [Handler.changeLine client.user channel change]
        else [] else []) = [] := by
      simp [own]
    rw [quiet, List.nil_append, if_pos own, List.map_eq_flatMap]
    congr 1
    funext change
    simp only [Server.changeAnswer, own, true_or, if_true]
    split <;> rfl
  · rw [if_neg own, List.append_nil]
    by_cases hears : network.isListening reader = true
    · simp only [hears, own, if_true, false_or, and_true, ne_eq, not_false_eq_true, true_and,
        if_false, ite_and]
    · simp [hears, own]

theorem read_refusal {command : Command} {name : Text} {rest : List Text}
    (gives : network.Gives number client message command name rest) (orderly : network.Orderly)
    {reply : Reply} {text : Text}
    (handled : Handler.handle message network.server client.user =
      Handler.refuse [reply] network.server client.user)
    (raw : (network.server.reply client.user reply).raw = text) :
    let outcome := network.step (.said number message)
    outcome.closed = false ∧ outcome.network = network ∧
      ∀ reader, (outcome.linesFor reader).map Line.wire =
        if reader = number then [Line.cut text ++ crlf] else [] := by
  obtain ⟨after, stays, lines⟩ :=
    step_answer orderly gives.found gives.live gives.listening handled
  refine ⟨stays, after, fun reader => ?_⟩
  rw [lines, apply_ite (List.map Line.wire), List.map_singleton, List.map_singleton, Line.wire, raw]
  rfl

end Gives

/-- A MODE with a fault is answered with the first one, and a MODE of a client without authority
with a refusal; neither changes anything or tells anybody else.  Any other MODE makes its changes in
order: they leave every member in its place, with the flag that the last change naming it gives, and
each one that names a member is read once by everybody in the channel and by the client itself.  A
change that names somebody else is told to the client alone. -/
theorem modes_are_changed_in_order (profile : Profile) (events : List Event) (number : Nat)
    (client : Client) (message : Message) (target modes param : Text) (more : List Text)
    (channel : Channel) (found : ((new profile).after events).client? number = some client)
    (live : client.live = true) (registered : client.user.registered = true)
    (listening : client.listening = true) (asked : message.verb = .command .mode)
    (params : message.params = target :: modes :: param :: more)
    (listed : ((new profile).after events).server.channels.find? target = some channel) :
    let network := (new profile).after events
    let user := client.user
    let outcome := network.step (.said number message)
    let items := Mode.channelChanges modes (param :: more)
    let read := fun reader => (outcome.linesFor reader).map Line.wire
    let hears := fun reader =>
      network.isIn reader channel = true ∧ network.isListening reader = true
    let label := channel.name.trim
    let front := fun code : Text => Line.rawOrigin profile.domain ++ code ++ ' ' :: user.nick
    let refused := fun answer : Text => outcome.network = network ∧ ∀ reader, read reader =
      if reader = number then [Line.cut answer ++ crlf] else []
    outcome.closed = false ∧
      ((∃ (valid : List Mode.Change) (fault : Mode.Fault) (rest : List (Except Mode.Fault Mode.Change)),
          items = valid.map .ok ++ .error fault :: rest ∧
          refused (match fault with
            | .unknown letter => front "472" ++ (Param.raw (.word [letter.symbol]) ++
                " :is unknown mode char to me for " ++ channel.name)
            | .missingParam _ => front "461" ++ " MODE :Not enough parameters")) ∨
        ∃ changes : List Mode.Change, items = changes.map .ok ∧
          (user.operator = false → channel.isOperator user.nick = false →
            refused (front "482" ++ (' ' :: label ++ " :You're not channel operator"))) ∧
          (user.operator = true ∨ channel.isOperator user.nick = true →
            (∃ server, outcome.network = { network with server } ∧
              network.server.SameBeside target server ∧
              server.channels.find? target = some { channel with
                members := channel.members.map fun member =>
                  { member with operator := Mode.flagAfter changes member } }) ∧
            ∀ reader, read reader = changes.flatMap fun change =>
              if channel.isMember change.nick = true then
                if reader = number ∨ hears reader then
                  [Line.cut (':' :: user.fullName ++ " MODE " ++ label ++ ' ' :: change.modeString ++
                    ' ' :: change.nick) ++ crlf]
                else []
              else if reader = number then
                [Line.cut (front "441" ++ (Param.raw (.word change.nick) ++ ' ' :: label ++
                  " :They aren't on that channel")) ++ crlf]
              else [])) := by
  intro network user outcome items read hears label front refused
  have consistent : Consistent profile network.server network.roster := consistent_after profile events
  have orderly : network.Orderly := orderly_after profile events
  have gives : network.Gives number client message .mode target (modes :: param :: more) :=
    ⟨found, live, registered, listening, asked, params⟩
  have sound := consistent.sound listed
  have isWord := Nickname.isWord_of_isValid (consistent.registry.valid_nick gives.here registered)
  have same : network.server.profile = profile := consistent.registry.profileEq
  have handled := gives.handle_mode
  rcases Mode.validate_cases items with ⟨valid, fault, rest, shape, known⟩ | ⟨changes, shape, known⟩
  · rw [Handler.mode_of_fault listed known] at handled
    have raw := network.server.raw_modeFault registered isWord channel.name fault
    rw [same] at raw
    obtain ⟨stays, refusal⟩ := gives.read_refusal orderly handled raw
    exact ⟨stays, .inl ⟨valid, fault, rest, shape, refusal⟩⟩
  rw [Handler.mode_of_changes listed known] at handled
  by_cases authority : user.operator = true ∨ channel.isOperator user.nick = true
  · obtain ⟨stays, changed, lines⟩ := gives.step_mode orderly consistent listed known authority
    refine ⟨stays, .inr ⟨changes, shape, fun powerless stranger => ?_, fun _ =>
      ⟨changed, fun reader => ?_⟩⟩⟩
    · simp [powerless, stranger] at authority
    · change ((network.step (.said number message)).linesFor reader).map Line.wire = _
      rw [lines, List.map_flatMap]
      congr 1
      funext change
      by_cases present : channel.isMember change.nick = true
      · have written := user.wire_change (consistent.isWord_of_isMember listed present) sound.visible
        rw [if_pos present, if_pos present, apply_ite (List.map Line.wire), List.map_singleton,
          written]
        rfl
      · have raw := network.server.raw_userNotInChannel registered isWord change.nick sound.visible
        rw [if_neg present, if_neg present, apply_ite (List.map Line.wire), List.map_singleton,
          Line.wire, raw, same]
        rfl
  · rw [if_neg authority] at handled
    have raw := network.server.raw_notChannelOperator registered isWord sound.visible
    rw [same] at raw
    obtain ⟨stays, refusal⟩ := gives.read_refusal orderly handled raw
    exact ⟨stays, .inr ⟨changes, shape, fun _ _ => refusal, fun some => absurd some authority⟩⟩

/-- An operator that gives up its own flag still makes the changes that follow. -/
theorem modes_of_teaRun :
    let network := (new teaProfile).after teaRun
    let outcome := network.step
      (.said 0 ⟨none, .command .mode, ["#TEA", "-oo+o", "ann", "nobody", "BERT"], false⟩)
    (outcome.network.server.channels.find? "#TEA").map Channel.members =
        some [⟨"ann", false⟩, ⟨"Bert", true⟩] ∧
      (outcome.linesFor 0).map Line.wire = ([":ann!a@east MODE #tea -o ann\r\n",
        ":irc.test 441 ann nobody #tea :They aren't on that channel\r\n",
        ":ann!a@east MODE #tea +o BERT\r\n"] : List Text) ∧
      (outcome.linesFor 1).map Line.wire = ([":ann!a@east MODE #tea -o ann\r\n",
        ":ann!a@east MODE #tea +o BERT\r\n"] : List Text) := by
  intro network outcome
  have speaker : (network.client? 0).map (fun client => (client.live, client.listening,
      client.user.registered, client.user.nick, client.user.fullName)) =
      some (true, true, true, ("ann" : Text), ("ann!a@east" : Text)) := by decide +kernel
  obtain ⟨client, found, same⟩ := Option.map_eq_some_iff.mp speaker
  simp only [Prod.mk.injEq] at same
  obtain ⟨live, listening, registered, nick, fullName⟩ := same
  have listed : network.server.channels.find? "#TEA" =
      some ⟨"#tea", [⟨"ann", true⟩, ⟨"Bert", true⟩], none, false⟩ := by decide +kernel
  have heard : network.isIn 1 ⟨"#tea", [⟨"ann", true⟩, ⟨"Bert", true⟩], none, false⟩ = true ∧
      network.isListening 1 = true := by decide +kernel
  have asked : Mode.channelChanges "-oo+o" ["ann", "nobody", "BERT"] =
      ([⟨false, "ann"⟩, ⟨false, "nobody"⟩, ⟨true, "BERT"⟩] : List Mode.Change).map .ok := by decide
  have operator : Channel.isOperator ⟨"#tea", [⟨"ann", true⟩, ⟨"Bert", true⟩], none, false⟩
      client.user.nick = true := by
    rw [nick]
    decide
  have reached : network = (new teaProfile).after teaRun := rfl
  rw [reached] at listed
  have told := modes_are_changed_in_order teaProfile teaRun 0 client
    ⟨none, .command .mode, ["#TEA", "-oo+o", "ann", "nobody", "BERT"], false⟩ "#TEA" "-oo+o" "ann"
    ["nobody", "BERT"] _ found live registered listening rfl rfl listed
  rw [asked, ← reached] at told
  -- The run itself is not computed again.
  clear_value network
  obtain ⟨_, ⟨valid, fault, rest, shape, _⟩ | ⟨changes, shape, _, made⟩⟩ := told
  · have faulty : Except.error fault ∈ (_ : List (Except Mode.Fault Mode.Change)) :=
      shape ▸ List.mem_append_right _ List.mem_cons_self
    obtain ⟨_, _, same⟩ := List.mem_map.mp faulty
    cases same
  obtain rfl := List.map_injective_iff.mpr (fun _ _ => Except.ok.inj) shape
  obtain ⟨⟨server, after, _, changed⟩, read⟩ := made (.inr operator)
  refine ⟨?_, (read 0).trans ?_, (read 1).trans ?_⟩
  · rw [after, changed]
    decide
  · simp only [true_or, if_true, fullName, nick]
    decide
  · simp only [heard, and_self, or_true, if_true, fullName, nick]
    decide

/-- White space at the end of a channel's name is not told with a change. -/
theorem mode_hides_blank_end :
    let network := (new teaProfile).after
      ([.connected "east"] ++
        spoken [(0, "NICK ann"), (0, "USER a 0 * Ann"), (0, "JOIN #a\t")])
    let outcome := network.step (.said 0 ⟨none, .command .mode, ["#a\t", "+o", "ann"], false⟩)
    spoken [(0, "MODE #a\t +o ann")] =
        [.said 0 ⟨none, .command .mode, ["#a\t", "+o", "ann"], false⟩] ∧
      (network.server.channels.find? "#a\t").map Channel.name = some ("#a\t" : Text) ∧
      (outcome.linesFor 0).map Line.wire = [(":ann!a@east MODE #a +o ann\r\n" : Text)] ∧
      ((outcome.linesFor 0).map Line.wire).contains ":ann!a@east MODE #a\t +o ann\r\n" = false := by
  decide +kernel

end Network

end IrcServer
