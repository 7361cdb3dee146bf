import IrcServer.Proofs.ChannelDirectory
import IrcServer.Proofs.Rooms
import IrcServer.Proofs.Sent

namespace IrcServer

/-! Who hears a PRIVMSG or a NOTICE.

A text for a channel goes to its other members and a text for a nickname to the client that holds
it, whatever names they have had before.  Nothing else comes of it but what the speaker is
answered. -/

namespace Network

/-- The client is in the channel. -/
def isIn (network : Network) (number : Nat) (channel : Channel) : Bool :=
  (network.roster number).any fun user => user.registered && channel.isMember user.nick

theorem isIn_of_roster {network : Network} {number : Nat} {user : User}
    (here : network.roster number = some user) (registered : user.registered = true)
    (channel : Channel) : network.isIn number channel = channel.isMember user.nick := by
  rw [isIn, here, Option.any_some, registered, Bool.true_and]

end Network

section Talk

variable {profile : Profile} {network : Network} {number : Nat} {user : User}

/-- What goes to the others of a channel reaches every other client in it, once. -/
theorem Consistent.linesTo_others_of_distinct
    (consistent : Consistent profile network.server network.roster)
    (here : network.roster number = some user) (registered : user.registered = true)
    {channel : Channel} (distinct : DistinctMembers channel.members) (line : Line) (other : Nat) :
    linesTo other (network.server.relay (channel.others user.nick) line) =
      if other ≠ number ∧ network.isIn other channel = true then [line] else [] := by
  have queue := consistent.registry.numbered here
  cases there : network.roster other with
  | none =>
      rw [consistent.registry.linesTo_relay_absent there, if_neg]
      rintro ⟨_, present⟩
      rw [Network.isIn, there] at present
      cases present
  | some own =>
      rw [consistent.registry.linesTo_relay there (distinct_others distinct user.nick)]
      refine if_congr ?_ rfl rfl
      rw [mem_others_iff, Network.isIn, there, Option.any_some, Bool.and_eq_true]
      constructor
      · rintro ⟨known, present, differs⟩
        refine ⟨?_, known, present⟩
        rintro rfl
        cases here.symm.trans there
        exact differs rfl
      · rintro ⟨differs, known, present⟩
        exact ⟨known, present, consistent.fold_ne there (queue ▸ here) (queue ▸ differs) registered
          known⟩

theorem Consistent.linesTo_others (consistent : Consistent profile network.server network.roster)
    (here : network.roster number = some user) (registered : user.registered = true) {name : Text}
    {channel : Channel} (found : network.server.channels.find? name = some channel) (line : Line)
    (other : Nat) :
    linesTo other (network.server.relay (channel.others user.nick) line) =
      if other ≠ number ∧ network.isIn other channel = true then [line] else [] :=
  consistent.linesTo_others_of_distinct here registered (consistent.sound found).distinct line other

end Talk

namespace Handler

variable {message : Message} {server : Server} {user : User} {command : Command}
  {target text : Text} {more : List Text}

theorem handle_talk (asked : message.verb = .command command)
    (spoken : command = .privmsg ∨ command = .notice)
    (params : message.params = target :: text :: more) (registered : user.registered = true)
    (given : text ≠ []) :
    handle message server user =
      if target.head? = some '#' then sayToChannel command target text server user
      else sayToUser command target text server user := by
  have first : message.param 0 = target := Message.param_zero params
  have second : message.param 1 = text := by rw [Message.param, params]; rfl
  have enough : 2 ≤ message.params.length := by simp [params]
  have talked : handle message server user = talk command target text server user := by
    rw [← first, ← second]
    rcases spoken with rfl | rfl
    · exact handle_eq_run asked registered (by decide) enough
    · exact handle_eq_run asked registered (by decide) enough
  rw [talked, talk, if_neg given]

theorem sayToChannel_of_member {channel : Channel}
    (found : server.channels.find? target = some channel)
    (present : channel.isMember user.nick = true) :
    sayToChannel command target text server user =
      { server
        user
        relayed := server.relay (channel.others user.nick)
          (user.line command [.word target] (some text))
        replies := []
        verdict := .accepted } := by
  simp only [sayToChannel, found, present, Bool.not_true, Bool.false_eq_true, if_false]

theorem sayToChannel_of_absent
    (absent : ∀ channel, server.channels.find? target = some channel →
      channel.isMember user.nick = false) :
    ∃ reply, (reply = .noSuchNick target ∨ reply = .cannotSend target) ∧
      sayToChannel command target text server user =
        refuse (answers command reply) server user := by
  unfold sayToChannel
  cases found : server.channels.find? target with
  | none => exact ⟨_, .inl rfl, rfl⟩
  | some channel => exact ⟨_, .inr rfl, by simp [absent channel found]⟩

theorem sayToUser_of_found {recipient : User} (found : server.users.find? target = some recipient)
    (spoken : command = .privmsg ∨ command = .notice) :
    sayToUser command target text server user =
      { server
        user
        relayed := [⟨recipient.queue, user.line command [.word target] (some text)⟩]
        replies :=
          if command = .privmsg then
            recipient.away.toList.map fun away => server.reply user (.away recipient.nick away)
          else []
        verdict := .accepted } := by
  unfold sayToUser
  rw [found]
  rcases spoken with rfl | rfl
  · cases away : recipient.away <;> simp [answers, away]
  · cases away : recipient.away <;> simp [answers, away]

theorem sayToUser_of_absent (absent : server.users.find? target = none) :
    sayToUser command target text server user =
      refuse (answers command (.noSuchNick target)) server user := by
  rw [sayToUser, absent]

theorem map_answers (spoken : command = .privmsg ∨ command = .notice) (reply : Reply)
    (write : Reply → Line) :
    (answers command reply).map write = if command = .privmsg then [write reply] else [] := by
  rcases spoken with rfl | rfl
  · rfl
  · rfl

end Handler

theorem User.raw_line (user : User) (command : Command) (params : List Param)
    (text : Option Text) :
    (user.line command params text).raw =
      ':' :: user.fullName ++ ' ' :: command.name ++ params.flatMap Param.raw ++
        Line.rawText text := by
  have named : user.fullName ≠ [] := by simp [User.fullName]
  simp [Line.raw, User.line, Line.rawOrigin, named]

theorem Server.raw_reply (server : Server) {user : User} (registered : user.registered = true)
    (isWord : user.nick.IsWord) (reply : Reply) :
    (server.reply user reply).raw =
      Line.rawOrigin server.profile.domain ++ reply.code ++ ' ' :: user.nick ++
        reply.params.flatMap Param.raw ++ Line.rawText reply.text := by
  simp [Line.raw, Server.reply, Addressee.reply, Addressee.line, addressee, registered,
    isWord.raw_eq]

/-- What stands before the text of a reply to this client about a nickname or a channel. -/
def Server.replyFront (server : Server) (user : User) (code label : Text) : Text :=
  Line.rawOrigin server.profile.domain ++ code ++ ' ' :: user.nick ++ ' ' :: label ++ " :"

theorem Server.raw_about (server : Server) {user : User} (registered : user.registered = true)
    (isWord : user.nick.IsWord) {reply : Reply} {label text : Text}
    (params : reply.params = [.word label]) (given : reply.text = some text)
    (visible : label.trim ≠ []) :
    (server.reply user reply).raw = server.replyFront user reply.code label.trim ++ text := by
  rw [server.raw_reply registered isWord, params, given, replyFront]
  simp [Line.rawText, Param.raw, visible]

/-- What a client does to a target, as it is written for others. -/
theorem User.wire_word (user : User) (command : Command) {target : Text} (text : Option Text)
    (visible : target.trim ≠ []) :
    (user.line command [.word target] text).wire =
      Line.cut (':' :: user.fullName ++ ' ' :: command.name ++ ' ' :: target.trim ++
        Line.rawText text) ++ crlf := by
  rw [Line.wire, user.raw_line]
  simp [Param.raw, visible]

/-- A text as it is written for others. -/
theorem User.wire_talk (user : User) (command : Command) {target : Text} (text : Text)
    (visible : target.trim ≠ []) :
    (user.line command [.word target] (some text)).wire =
      Line.cut (':' :: user.fullName ++ ' ' :: command.name ++ ' ' :: target.trim ++
        ' ' :: ':' :: text) ++ crlf :=
  user.wire_word command (some text) visible

theorem Text.trim_ne_nil_of_head {text : Text} {c : Char} (head : text.head? = some c)
    (visible : isBlank c = false) : text.trim ≠ [] := by
  obtain ⟨rest, rfl⟩ := List.head?_eq_some_iff.mp head
  have kept : Text.trimEndWhile isBlank [c] = [c] := Text.trimEndWhile_of_last rfl visible
  rw [Text.trim, Text.trimStart_cons visible, Text.trimEnd, ← List.singleton_append,
    Text.trimEndWhile_append kept]
  exact List.cons_ne_nil _ _

namespace Network

/-- A text for `target` goes to the channel, as the client is in it. -/
structure SpeaksIn (network : Network) (number : Nat) (target : Text) (channel : Channel) : Prop where
  marked : target.head? = some '#'
  found : network.server.channels.find? target = some channel
  present : network.isIn number channel = true

/-- A text for `target` goes to the client, which holds that nickname. -/
structure SpeaksTo (network : Network) (target : Text) (number : Nat) (user : User) : Prop where
  unmarked : target.head? ≠ some '#'
  here : network.roster number = some user
  registered : user.registered = true
  named : user.nick.fold = target.fold

/-- A registered client says a text for `target`, and its queue is open. -/
structure Talks (network : Network) (number : Nat) (client : Client) (message : Message)
    (command : Command) (target text : Text) : Prop where
  found : network.client? number = some client
  live : client.live = true
  registered : client.user.registered = true
  listening : client.listening = true
  asked : message.verb = .command command
  spoken : command = .privmsg ∨ command = .notice
  params : ∃ more, message.params = target :: text :: more
  given : text ≠ []

namespace Talks

variable {profile : Profile} {network : Network} {number : Nat} {client : Client}
  {message : Message} {command : Command} {target text : Text}

theorem here (talks : network.Talks number client message command target text) :
    network.roster number = some client.user :=
  roster_of_client talks.found talks.live

theorem handled (talks : network.Talks number client message command target text) :
    Handler.handle message network.server client.user =
      if target.head? = some '#' then
        Handler.sayToChannel command target text network.server client.user
      else Handler.sayToUser command target text network.server client.user := by
  obtain ⟨more, params⟩ := talks.params
  exact Handler.handle_talk talks.asked talks.spoken params talks.registered talks.given

/-- Whatever a text is answered, nothing changes. -/
theorem step (talks : network.Talks number client message command target text)
    (orderly : network.Orderly) :
    (network.step (.said number message)).network = network ∧
      (network.step (.said number message)).closed = false ∧
      ∀ other, (network.step (.said number message)).linesFor other =
        (if network.isListening other then
          linesTo other (Handler.handle message network.server client.user).relayed else []) ++
          if other = number then (Handler.handle message network.server client.user).replies
          else [] := by
  have still : (Handler.handle message network.server client.user).server = network.server ∧
      (Handler.handle message network.server client.user).user = client.user := by
    rw [talks.handled]
    unfold Handler.sayToChannel Handler.sayToUser
    split
    · split
      · exact ⟨rfl, rfl⟩
      · split <;> exact ⟨rfl, rfl⟩
    · split <;> exact ⟨rfl, rfl⟩
  have staying : (Handler.handle message network.server client.user).user.quitReason = none := by
    rw [still.2]
    exact (orderly number client talks.found).2 talks.live
  obtain ⟨after, stays, lines⟩ :=
    step_answered orderly talks.found talks.live talks.listening rfl staying
  exact ⟨after.trans (reacted_of_still talks.found still.1 still.2), stays, lines⟩

theorem linesFor_channel (talks : network.Talks number client message command target text)
    (orderly : network.Orderly)
    (consistent : Consistent profile network.server network.roster) {channel : Channel}
    (speaks : network.SpeaksIn number target channel) (other : Nat) :
    (network.step (.said number message)).linesFor other =
      if other ≠ number ∧ network.isIn other channel = true ∧ network.isListening other = true then
        [client.user.line command [.word target] (some text)]
      else [] := by
  have present := speaks.present
  have handled := talks.handled
  rw [isIn_of_roster talks.here talks.registered] at present
  rw [if_pos speaks.marked, Handler.sayToChannel_of_member speaks.found present] at handled
  rw [(talks.step orderly).2.2, handled,
    consistent.linesTo_others talks.here talks.registered speaks.found]
  by_cases hears : network.isListening other = true
  · simp [hears]
  · simp [hears]

theorem linesFor_user (talks : network.Talks number client message command target text)
    (orderly : network.Orderly)
    (consistent : Consistent profile network.server network.roster) {recipient : Nat}
    {holder : User} (speaks : network.SpeaksTo target recipient holder) (other : Nat) :
    (network.step (.said number message)).linesFor other =
      (if other = recipient ∧ network.isListening other = true then
        [client.user.line command [.word target] (some text)] else []) ++
        if other = number ∧ command = .privmsg then
          holder.away.toList.map fun away =>
            network.server.reply client.user (.away holder.nick away)
        else [] := by
  have listed := consistent.registry.found speaks.here speaks.registered speaks.named
  have handled := talks.handled
  rw [if_neg speaks.unmarked, Handler.sayToUser_of_found listed talks.spoken] at handled
  have sent : linesTo other
      [⟨recipient, client.user.line command [.word target] (some text)⟩] =
        if other = recipient then [client.user.line command [.word target] (some text)] else [] := by
    by_cases same : other = recipient
    · simp [linesTo, same]
    · simp [linesTo, same, Ne.symm same]
  rw [(talks.step orderly).2.2, handled, consistent.registry.numbered speaks.here]
  by_cases hears : network.isListening other = true
  · simp [hears, sent, ite_and]
  · simp [hears, ite_and]

theorem linesFor_nobody (talks : network.Talks number client message command target text)
    (orderly : network.Orderly)
    (consistent : Consistent profile network.server network.roster)
    (nowhere : ∀ channel, ¬ network.SpeaksIn number target channel)
    (nobody : ∀ recipient holder, ¬ network.SpeaksTo target recipient holder) :
    ∃ reply, (reply = .noSuchNick target ∨ reply = .cannotSend target) ∧
      ∀ other, (network.step (.said number message)).linesFor other =
        if other = number ∧ command = .privmsg then [network.server.reply client.user reply]
        else [] := by
  have refused : ∃ reply, (reply = .noSuchNick target ∨ reply = .cannotSend target) ∧
      Handler.handle message network.server client.user =
        Handler.refuse (Handler.answers command reply) network.server client.user := by
    by_cases marked : target.head? = some '#'
    · rw [talks.handled, if_pos marked]
      refine Handler.sayToChannel_of_absent fun channel listed => ?_
      rw [← isIn_of_roster talks.here talks.registered]
      exact eq_false_of_ne_true fun present => nowhere channel ⟨marked, listed, present⟩
    · rw [talks.handled, if_neg marked]
      refine ⟨_, .inl rfl, Handler.sayToUser_of_absent ?_⟩
      refine Option.eq_none_iff_forall_ne_some.mpr fun holder listed => ?_
      obtain ⟨there, known, named⟩ := consistent.registry.listed.mp listed
      exact nobody holder.queue holder ⟨marked, there, known, named⟩
  obtain ⟨reply, chosen, refused⟩ := refused
  refine ⟨reply, chosen, fun other => ?_⟩
  have replies := Handler.map_answers talks.spoken reply (network.server.reply client.user)
  rw [(talks.step orderly).2.2, refused]
  simp [Handler.refuse, Handler.answer, replies, linesTo, ite_and]

end Talks

/-- PRIVMSG and NOTICE change nothing.  A text reaches, once and as it was said, every other client
in the channel that its speaker is in, or else the client that holds the nickname.  The speaker of
a PRIVMSG is told that this client is away, or that the text went nowhere. -/
theorem talk_is_delivered (profile : Profile) (events : List Event) (number : Nat)
    (client : Client) (message : Message) (command : Command) (target text : Text)
    (more : List Text) (found : ((new profile).after events).client? number = some client)
    (live : client.live = true) (registered : client.user.registered = true)
    (listening : client.listening = true) (asked : message.verb = .command command)
    (spoken : command = .privmsg ∨ command = .notice)
    (params : message.params = target :: text :: more) (given : text ≠ []) :
    let network := (new profile).after events
    let outcome := network.step (.said number message)
    let line := Line.cut (':' :: client.user.fullName ++ ' ' :: command.name ++
      ' ' :: target.trim ++ ' ' :: ':' :: text) ++ crlf
    let read := fun other => (outcome.linesFor other).map Line.wire
    outcome.network = network ∧ outcome.closed = false ∧
      (∀ channel, network.SpeaksIn number target channel → ∀ other,
        read other =
          if other ≠ number ∧ network.isIn other channel = true ∧
            network.isListening other = true then [line] else []) ∧
      (∀ recipient holder, network.SpeaksTo target recipient holder → ∀ other,
        read other =
          (if other = recipient ∧ network.isListening other = true then [line] else []) ++
            if other = number ∧ command = .privmsg then
              holder.away.toList.map fun away =>
                (network.server.reply client.user (.away holder.nick away)).wire
            else []) ∧
      ((∀ channel, ¬ network.SpeaksIn number target channel) →
        (∀ recipient holder, ¬ network.SpeaksTo target recipient holder) →
        ∃ reply, (reply = .noSuchNick target ∨ reply = .cannotSend target) ∧ ∀ other,
          read other =
            if other = number ∧ command = .privmsg then
              [(network.server.reply client.user reply).wire]
            else []) := by
  intro network outcome line read
  have consistent := consistent_after profile events
  have orderly := orderly_after profile events
  have talks : network.Talks number client message command target text :=
    ⟨found, live, registered, listening, asked, spoken, ⟨more, params⟩, given⟩
  refine ⟨(talks.step orderly).1, (talks.step orderly).2.1, ?_, ?_, ?_⟩
  · intro channel speaks other
    have written := client.user.wire_talk command text
      (Text.trim_ne_nil_of_head speaks.marked (by decide))
    change ((network.step (.said number message)).linesFor other).map Line.wire = _
    rw [talks.linesFor_channel orderly consistent speaks, apply_ite (List.map Line.wire),
      List.map_singleton, List.map_nil, written]
  · intro recipient holder speaks other
    have word := Nickname.isWord_of_fold_eq
      (consistent.registry.valid_nick speaks.here speaks.registered) speaks.named.symm
    have written := client.user.wire_talk command text (word.trim_eq.symm ▸ word.ne_nil)
    change ((network.step (.said number message)).linesFor other).map Line.wire = _
    rw [talks.linesFor_user orderly consistent speaks, List.map_append,
      apply_ite (List.map Line.wire), apply_ite (List.map Line.wire), List.map_singleton,
      List.map_nil, written, List.map_map]
    rfl
  · intro nowhere nobody
    obtain ⟨reply, chosen, lines⟩ := talks.linesFor_nobody orderly consistent nowhere nobody
    refine ⟨reply, chosen, fun other => ?_⟩
    change ((network.step (.said number message)).linesFor other).map Line.wire = _
    rw [lines, apply_ite (List.map Line.wire), List.map_singleton, List.map_nil]

/-- A client that has changed its nickname is found under the new one, and is away. -/
theorem talk_of_teaRun :
    let network := (new teaProfile).after (teaRun ++ spoken [(1, "AWAY :lunch")])
    let outcome := network.step (.said 0 ⟨none, .command .privmsg, ["BERT", "hi"], true⟩)
    outcome.network = network ∧
      (outcome.linesFor 1).map Line.wire = [(":ann!a@east PRIVMSG BERT :hi\r\n" : Text)] ∧
      (outcome.linesFor 0).map Line.wire = [(":irc.test 301 ann Bert :lunch\r\n" : Text)] := by
  intro network outcome
  have speaker : (network.client? 0).map (fun client =>
      (client.live, client.listening, client.user.registered, client.user.fullName,
        (network.server.reply client.user (.away "Bert" "lunch")).wire)) =
      some (true, true, true, ("ann!a@east" : Text),
        (":irc.test 301 ann Bert :lunch\r\n" : Text)) := by decide +kernel
  obtain ⟨client, found, same⟩ := Option.map_eq_some_iff.mp speaker
  simp only [Prod.mk.injEq] at same
  obtain ⟨live, listening, registered, fullName, told⟩ := same
  have recipient : (network.roster 1).map (fun user =>
      (user.registered, user.nick, user.away)) =
      some (true, ("Bert" : Text), some ("lunch" : Text)) := by decide +kernel
  obtain ⟨holder, there, same⟩ := Option.map_eq_some_iff.mp recipient
  simp only [Prod.mk.injEq] at same
  obtain ⟨known, named, away⟩ := same
  have hears : network.isListening 1 = true := by decide +kernel
  obtain ⟨still, _, _, read, _⟩ := talk_is_delivered teaProfile _ 0 client
    ⟨none, .command .privmsg, ["BERT", "hi"], true⟩ .privmsg "BERT" "hi" [] found live registered
    listening rfl (.inl rfl) rfl (by decide)
  have speaks : network.SpeaksTo "BERT" 1 holder :=
    ⟨by decide, there, known, by rw [named]; decide⟩
  refine ⟨still, (read 1 holder speaks 1).trans ?_, (read 1 holder speaks 0).trans ?_⟩
  · rw [fullName, if_pos ⟨rfl, hears⟩, if_neg (by decide)]
    decide
  · rw [if_neg (by decide), if_pos ⟨rfl, rfl⟩, away, named]
    exact congrArg (fun line => [line]) told

end Network

end IrcServer
