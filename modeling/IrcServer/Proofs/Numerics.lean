import IrcServer.Proofs.Grounded
import IrcServer.Proofs.Relayed

namespace IrcServer

/-! How numbered replies are read.

A reply is read with the domain as its origin, its code, the nickname of its addressee, its
parameters and its text, one parameter after the other for as long as they can be told from each
other on the wire.  That fails only for what others have chosen: the domain, a username or a host,
and what the client has just sent (`Network.numeric_replies_keep_shape`). -/

namespace Param

/-- What is read of a parameter: one word, or nothing if it is blank. -/
def words : Param → List Text
  | word text => if text.trim = [] then [] else [text.trim]
  | exact text => [text]

/-- On the wire the parameter can be told from what follows it. -/
def Single (param : Param) : Prop :=
  ∀ word ∈ param.words, ' ' ∉ word ∧ word.head? ≠ some ':'

theorem raw_eq_words (param : Param) : param.raw = param.words.flatMap fun word => ' ' :: word := by
  cases param with
  | exact text => simp [raw, words]
  | word text =>
      rw [raw, words]
      split <;> simp

theorem flatMap_raw (params : List Param) :
    params.flatMap raw = (params.flatMap words).flatMap fun word => ' ' :: word := by
  rw [List.flatMap_assoc]
  exact List.flatMap_congr fun param _ => param.raw_eq_words

theorem single_of_isWord_trim {text : Text} (isWord : text.trim.IsWord) : (word text).Single := by
  obtain ⟨c, rest, shape, _, plain⟩ := isWord.head
  intro word member
  rw [words, if_neg isWord.ne_nil, List.mem_singleton] at member
  rw [member]
  exact ⟨isWord.single, by simpa [shape] using plain⟩

theorem single_of_isWord {text : Text} (isWord : text.IsWord) : (word text).Single :=
  single_of_isWord_trim (isWord.trim_eq.symm ▸ isWord)

end Param

/-- A final text is read as it is. -/
theorem Message.parseParams_text (slots : Nat) (text : Option Text) :
    parseParams slots ((written [] text).dropWhile (· = ' ')) = (text.toList, text.isSome) := by
  cases text <;> cases slots <;> rfl

namespace Line

variable {line : Line} {front back : List Param}

/-- Line endings are dropped behind the parameters in front. -/
theorem trimmed_tail (params : line.params = front ++ back)
    (each : ∀ word ∈ front.flatMap Param.words, word.IsWord) :
    line.tail.trimEndWhile Message.isLineEnd =
      ((front.flatMap Param.words).flatMap fun word => ' ' :: word) ++
        Text.trimEndWhile Message.isLineEnd (tail { line with params := back }) := by
  have kept := trimEndWhile_written each none
  simp only [written, rawText, List.append_nil, Option.map_none] at kept
  rw [tail, params, List.flatMap_append, Param.flatMap_raw, List.append_assoc]
  exact Text.trimEndWhile_append kept _

/-- The parameters in front are read as they were meant, whatever comes after them. -/
theorem parse?_front (uncut : line.Uncut) (verb : line.command.IsWord) (origin : line.origin ≠ [])
    (single : ' ' ∉ line.origin) (clean : Char.ofNat 0 ∉ line.raw)
    (params : line.params = front ++ back)
    (each : ∀ word ∈ front.flatMap Param.words, word.IsWord)
    (few : (front.flatMap Param.words).length ≤ maxParams - 1) :
    ∃ more trailing,
      Message.parse? line.wire =
        some { origin := some line.origin
               verb := .ofWord line.command
               params := front.flatMap Param.words ++ more
               trailing } ∧
      (back = [] → trailing = line.text.isSome ∧
        more = (line.text.map fun text => text.trimEndWhile Message.isLineEnd).toList) := by
  let rest : Line := { line with params := back }
  have body := body_wire uncut verb
  have inside : Message.body line.wire <+: line.raw := by
    rw [body, raw, List.append_assoc _ _ (rawText _), List.prefix_append_right_inj]
    exact Text.trimEndWhile_begins _ _
  rw [trimmed_tail params each] at body
  have read := Message.paramsOf_words each rest.trimmed_apart few
    (Message.paramsOf_parseParams _ _)
  refine ⟨_, _, Message.parse?_of_body verb ?_ ?_ single ?_ read, ?_⟩
  · rw [body, rawOrigin, if_neg origin]
    simp [rest]
  · exact fun member => clean (inside.subset member)
  · cases front.flatMap Param.words with
    | nil => exact rest.trimmed_apart
    | cons first others => exact .inr ⟨_, rfl⟩
  · rintro rfl
    have last : rest.tail.trimEndWhile Message.isLineEnd = written [] _ :=
      trimEndWhile_written (List.forall_mem_nil _) line.text
    rw [last, Message.parseParams_text]
    exact ⟨Option.isSome_map, rfl⟩

end Line

/-- A text that a client has just sent, or a part of one. -/
def Message.Brings (message : Message) (text : Text) : Prop :=
  message.verb = .other text ∨ text ∈ message.params ∨ text ∈ (message.param 0).pieces ∨
    ∃ letter ∈ message.param 1, text = [letter]

/-- The domain, or what a registered user is called beside its nickname. -/
def Server.Bears (server : Server) (text : Text) : Prop :=
  text = server.profile.domain ∨
    ∃ label holder, server.users.find? label = some holder ∧
      (text = holder.username ∨ text = holder.host)

theorem Text.isWord_of_digits {digits : Text} (filled : digits ≠ [])
    (each : ∀ c ∈ digits, c.isDigit = true) : digits.IsWord := by
  refine Nickname.isWord_of_all_isChar filled (List.all_eq_true.mpr fun c member => ?_)
  simp [Nickname.isChar, Char.isAlphanum, each c member]

theorem Text.isWord_ofNat (n : Nat) : (Text.ofNat n).IsWord :=
  isWord_of_digits Nat.toDigits_ne_nil fun _ member =>
    Nat.isDigit_of_mem_toDigits (by decide) (by decide) member

namespace Reply

theorem isWord_of_single (reply : Reply) : ∀ param ∈ reply.params, param.Single →
    ∀ word ∈ param.words, word.IsWord := by
  intro param member single word shown
  obtain ⟨noSpace, plain⟩ := single word shown
  rcases reply.params_of_data param member with ⟨text, rfl, _⟩ | ⟨n, rfl⟩
  · rw [Param.words] at shown
    split at shown
    · cases shown
    · rename_i filled
      obtain rfl := List.mem_singleton.mp shown
      exact Text.isWord_of_trim filled plain noSpace
  · rw [List.mem_singleton.mp shown]
    exact Text.isWord_ofNat n

theorem length_params_le (reply : Reply) : reply.params.length ≤ 4 := by
  cases reply <;> simp [params]

end Reply

theorem Param.length_words_le (params : List Param) :
    (params.flatMap words).length ≤ params.length := by
  induction params with
  | nil => simp
  | cons param rest inductionHypothesis =>
      have one : param.words.length ≤ 1 := by
        cases param with
        | exact text => simp [words]
        | word text =>
            rw [words]
            split <;> simp
      rw [List.flatMap_cons, List.length_append, List.length_cons]
      omega

theorem Addressee.parse?_reply {addressee : Addressee} {reply : Reply} {front back : List Param}
    (uncut : (addressee.reply reply).Uncut) (domain : addressee.domain ≠ [])
    (single : ' ' ∉ addressee.domain) (nick : addressee.nick.IsWord)
    (clean : Char.ofNat 0 ∉ (addressee.reply reply).raw) (params : reply.params = front ++ back)
    (each : ∀ param ∈ front, param.Single) :
    ∃ more trailing,
      Message.parse? (addressee.reply reply).wire =
        some { origin := some addressee.domain
               verb := .other reply.code
               params := addressee.nick :: front.flatMap Param.words ++ more
               trailing } ∧
      (back = [] → trailing = reply.text.isSome ∧
        more = (reply.text.map fun text => text.trimEndWhile Message.isLineEnd).toList) := by
  have shown : (Param.word addressee.nick :: front).flatMap Param.words =
      addressee.nick :: front.flatMap Param.words := by
    rw [List.flatMap_cons, Param.words, nick.trim_eq, if_neg nick.ne_nil, List.singleton_append]
  have words : ∀ word ∈ addressee.nick :: front.flatMap Param.words, word.IsWord := by
    refine List.forall_mem_cons.mpr ⟨nick, fun word member => ?_⟩
    obtain ⟨param, held, inside⟩ := List.mem_flatMap.mp member
    have known : param ∈ reply.params := params ▸ List.mem_append_left back held
    exact reply.isWord_of_single param known (each param held) word inside
  have few : (addressee.nick :: front.flatMap Param.words).length ≤ maxParams - 1 := by
    have length := reply.length_params_le
    have fewer := Param.length_words_le front
    rw [params, List.length_append] at length
    rw [List.length_cons, maxParams]
    omega
  have whole : (addressee.reply reply).params = (.word addressee.nick :: front) ++ back :=
    congrArg (List.cons _) params
  rw [← shown] at words few ⊢
  have code : Verb.other reply.code = .ofWord reply.code := by
    rw [Verb.ofWord, reply.ofName?_code]
  rw [code]
  exact Line.parse?_front uncut reply.isWord_code domain single clean whole words few

namespace Consistent

variable {profile : Profile} {server : Server} {roster : Roster}

theorem isWord_of_knows (consistent : Consistent profile server roster) {nick : Text}
    (known : server.Knows nick) : nick.IsWord := by
  obtain ⟨label, holder, found, same⟩ := known
  obtain ⟨here, registered, named⟩ := consistent.registry.listed.mp found
  have valid := consistent.registry.valid_nick here registered
  rcases same with rfl | rfl
  · exact Nickname.isWord_of_fold_eq valid named.symm
  · exact Nickname.isWord_of_isValid valid

theorem isTarget_of_lists (consistent : Consistent profile server roster) {name : Text}
    (listed : server.Lists name) : profile.IsTarget name := by
  obtain ⟨label, channel, found, same⟩ := listed
  have valid := (consistent.sound found).valid
  rcases same with rfl | rfl
  · exact .inl (ChannelName.isValid_of_fold_eq valid (consistent.keyed.fold_eq found).symm)
  · exact .inl valid

/-- What cannot be told from what follows it was chosen by others, or has just been sent. -/
theorem single_of_grounded (consistent : Consistent profile server roster) {message : Message}
    {reply : Reply} (grounded : reply.Grounded message server) :
    ∀ param ∈ reply.params, param.Single ∨
      ∃ text, param = .word text ∧ (message.Brings text ∨ server.Bears text) := by
  have known : ∀ {nick}, server.Knows nick → (Param.word nick).Single := fun known =>
    Param.single_of_isWord (consistent.isWord_of_knows known)
  have listed : ∀ {name}, server.Lists name → (Param.word name).Single := fun listed =>
    Param.single_of_isWord_trim (consistent.isTarget_of_lists listed).isWord_trim
  have number : ∀ n, (Param.exact (Text.ofNat n)).Single := by
    intro n word member
    obtain ⟨c, rest, shape, _, plain⟩ := (Text.isWord_ofNat n).head
    rw [List.mem_singleton.mp member]
    exact ⟨(Text.isWord_ofNat n).single, by simpa [shape] using plain⟩
  have constant : ∀ text ∈ [Program.release, Mode.userModes, Mode.channelModes, "*", "="],
      (Param.word text).Single := by
    unfold Param.Single
    decide
  have name : ∀ command : Command, (Param.word command.name).Single := fun command =>
    Param.single_of_isWord command.isWord_name
  -- Each parameter is one that can be told apart, or comes with a reason why it need not be.
  let Told : Param → Prop := fun param => param.Single ∨
    ∃ text, param = .word text ∧ (message.Brings text ∨ server.Bears text)
  have brought : ∀ {text}, message.Brings text → Told (.word text) := fun brings =>
    .inr ⟨_, rfl, .inl brings⟩
  have borne : ∀ {text}, server.Bears text → Told (.word text) := fun bears =>
    .inr ⟨_, rfl, .inr bears⟩
  have first : ∀ {text}, text = message.param 0 → Told (.word text) := by
    rintro text rfl
    rw [Message.param, List.getD_eq_getElem?_getD]
    cases given : message.params[0]? with
    | none => exact .inl fun word member => by cases member
    | some param => exact brought (.inr (.inl (List.mem_of_getElem? given)))
  rw [← List.forall_iff_forall_mem]
  cases reply with
  | myInfo =>
      refine ⟨borne (.inl grounded), .inl (constant _ ?_), .inl (constant _ ?_),
        .inl (constant _ ?_)⟩ <;> simp
  | operatorCount | unknownCount | channelCount => exact .inl (number _)
  | away | whoisOperator | endOfWhois | whoisChannels | nicknameInUse => exact .inl (known grounded)
  | whoisUser =>
      obtain ⟨label, holder, found, rfl, rfl, rfl⟩ := grounded
      exact ⟨.inl (known (Server.Knows.of_found found).2),
        borne (.inr ⟨label, holder, found, .inl rfl⟩),
        borne (.inr ⟨label, holder, found, .inr rfl⟩), .inl (constant _ (by simp))⟩
  | whoisServer => exact ⟨.inl (known grounded.1), borne (.inl grounded.2)⟩
  | listItem => exact ⟨.inl (listed grounded), .inl (number _)⟩
  | noTopic | topic | cannotSend | notOnChannel | notChannelOperator =>
      exact .inl (listed grounded)
  | names => exact ⟨.inl (constant _ (by simp)), .inl (listed grounded)⟩
  | endOfNames =>
      rcases grounded with here | asked
      · exact .inl (listed here)
      · exact brought (.inr (.inr (.inl asked)))
  | noSuchNick | erroneousNickname => exact first grounded
  | noSuchChannel =>
      rcases grounded with same | asked
      · exact first same
      · exact brought (.inr (.inr (.inl asked)))
  | unknownCommand => exact brought (.inl grounded)
  | userNotInChannel =>
      exact ⟨brought (.inr (.inl grounded.1)), .inl (listed grounded.2)⟩
  | needMoreParams command => exact .inl (name command)
  | unknownMode letter => exact brought (.inr (.inr (.inr ⟨letter, grounded.1, rfl⟩)))
  | _ => exact trivial

end Consistent

section Spoken

variable {message : Message} {server : Server} {user : User} {reaction : Reaction}

/-- What others are told is told on behalf of a client. -/
theorem Act.relayed_line (act : Act message server user reaction) :
    ∀ delivery ∈ reaction.relayed, ∃ command params text,
      delivery.line = user.line command params text := by
  intro delivery member
  cases act with
  | still talk =>
      obtain ⟨_, command, params, text, _, spoken⟩ := talk delivery member
      exact ⟨command, params, text, spoken⟩
  | joined | parted | changed | titled | renamed =>
      exact ⟨_, _, _, (Server.of_mem_relay member).1⟩
  | marked | empowered | named | introduced | enrolled => cases member

theorem Acts.relayed_line (acts : Acts message server user reaction) :
    ∀ delivery ∈ reaction.relayed, ∃ speaker command params text,
      delivery.line = User.line speaker command params text := by
  induction acts with
  | quit => exact fun _ member => absurd member List.not_mem_nil
  | last act => exact fun delivery member => ⟨_, act.relayed_line delivery member⟩
  | next act _ inductionHypothesis =>
      exact List.forall_mem_append.mpr
        ⟨fun delivery member => ⟨_, act.relayed_line delivery member⟩, inductionHypothesis⟩

end Spoken

/-- What is read from lines holds no NUL. -/
theorem Event.Readable.lacks {event : Event} (readable : event.Readable) :
    event.Lacks (Char.ofNat 0) := by
  cases event with
  | connected => exact readable.2.1
  | said =>
      obtain ⟨line, parsed⟩ := readable
      exact Message.lacks_nul parsed
  | left => exact readable
  | lostQueue => trivial

namespace Network

variable {profile : Profile} {events : List Event} {network : Network} {event : Event}

/-- A numbered line is sent to the client whose message it answers, and by its handler. -/
theorem numbered_of_sent (reached : (new profile).after events = network) {delivery : Delivery}
    (sent : delivery ∈ network.sent event) {numeric : Reply}
    (numbered : delivery.line.command = numeric.code) :
    ∃ client message, event = .said delivery.queue message ∧
      network.client? delivery.queue = some client ∧ client.live = true ∧
      delivery.line ∈ (Handler.handle message network.server client.user).replies := by
  have orderly : network.Orderly := reached ▸ orderly_after profile events
  have unspoken : ∀ {speaker : User} {command : Command} {params : List Param}
      {text : Option Text}, delivery.line ≠ speaker.line command params text := by
    intro speaker command params text same
    exact numeric.code_ne command (numbered.symm.trans (congrArg Line.command same))
  rcases sent_cases sent with ⟨number, client, message, rfl, found, live, told⟩ | ⟨_, _, departed⟩
  · have acts := Handler.handle_acts message network.server client.user
    rcases List.mem_append.mp told with others | own
    · obtain ⟨speaker, command, params, text, spoken⟩ := acts.relayed_line delivery others
      exact absurd spoken unspoken
    · obtain ⟨line, written, rfl⟩ := List.mem_map.mp own
      have queue : (Handler.handle message network.server client.user).user.queue = number :=
        acts.queue.trans (orderly number client found).1
      dsimp only
      rw [queue]
      exact ⟨client, message, rfl, found, live, written⟩
  · exact absurd departed unspoken

/-- The server keeps what it knows consistent while it reacts. -/
theorem consistent_reaction (reached : (new profile).after events = network) {number : Nat}
    {client : Client} (found : network.client? number = some client) (live : client.live = true)
    (message : Message) :
    let reaction := Handler.handle message network.server client.user
    Consistent profile reaction.server
      (Function.update network.roster number (some reaction.user.settled)) :=
  (Consistent.kept profile fun _ => True).reacted reached found live message

/-- A numbered line that a client receives and that is not cut is a reply to the client's own
message.  It is read with the domain as its origin, its code, and the client's nickname, or `*`
before registration, in front of the parameters of the reply, blank ones left out, as far as these
hold no space and do not start with a colon once they are trimmed; and if that is so of all of them,
with just these, and with the text that the reply has, without line endings at its end.  Only a
domain, a username, a host, or what the client has just sent can be another parameter. -/
theorem numeric_replies_keep_shape (profile : Profile) (events : List Event) (event : Event)
    (named : profile.domain ≠ []) (single : ' ' ∉ profile.domain)
    (clean : profile.Lacks (Char.ofNat 0))
    (permitted : ∀ earlier ∈ events, earlier.Lacks (Char.ofNat 0))
    (allowed : event.Lacks (Char.ofNat 0)) :
    let network := (new profile).after events
    ∀ delivery ∈ (network.step event).received,
      ∀ numeric : Reply, delivery.line.command = numeric.code → delivery.line.Uncut →
        ∃ client message reply, event = .said delivery.queue message ∧
          network.client? delivery.queue = some client ∧
          let reaction := Handler.handle message network.server client.user
          let nick := if reaction.user.registered then reaction.user.nick else User.unnamed
          let read := fun params trailing => Message.parse? delivery.line.wire =
            some { origin := some profile.domain, verb := .other reply.code
                   params := nick :: params, trailing }
          delivery.line = Addressee.reply ⟨profile.domain, nick⟩ reply ∧
          (∀ front back, reply.params = front ++ back → (∀ param ∈ front, param.Single) →
            ∃ more trailing, read (front.flatMap Param.words ++ more) trailing) ∧
          ((∀ param ∈ reply.params, param.Single) →
            read (reply.params.flatMap Param.words ++
              (reply.text.map fun text => text.trimEndWhile Message.isLineEnd).toList)
              reply.text.isSome) ∧
          ∀ param ∈ reply.params, param.Single ∨ ∃ text, param = .word text ∧
            (message.Brings text ∨ ∃ stage, (stage = network.server ∨ stage = reaction.server) ∧
              stage.Bears text) := by
  intro network delivery received numeric numbered uncut
  rw [received_step] at received
  have sent := (List.mem_filter.mp received).1
  obtain ⟨client, message, asked, found, live, written⟩ := numbered_of_sent rfl sent numbered
  have before : Consistent profile network.server network.roster := consistent_after profile events
  have after := consistent_reaction rfl found live message
  obtain ⟨stage, known, grounded⟩ := Handler.grounded_handle before.keyed message client.user
  obtain ⟨reply, source, line⟩ :=
    (grounded delivery.line (List.mem_append_right _ written)).numbered numeric numbered
  refine ⟨client, message, reply, asked, found, ?_⟩
  intro reaction nick read
  have addressed : network.server.addressee reaction.user = ⟨profile.domain, nick⟩ := by
    rw [Server.addressee, before.registry.profileEq]
  have isWord : nick.IsWord := by
    by_cases registered : reaction.user.registered = true
    · have valid := after.nick_isWord (Function.update_self _ _ _) registered
      rwa [show nick = reaction.user.nick from if_pos registered]
    · rw [show nick = User.unnamed from if_neg registered]
      exact ⟨⟨'*', [], rfl, by decide, by decide⟩, ⟨'*', rfl, by decide⟩, by decide⟩
  have written : Char.ofNat 0 ∉ delivery.line.raw :=
    (Lacks.after (by decide) clean events permitted).sent (by decide) allowed delivery sent
  rw [addressed] at line
  have parsed : ∀ front back, reply.params = front ++ back → (∀ param ∈ front, param.Single) → _ :=
    fun front back params each => @Addressee.parse?_reply ⟨profile.domain, nick⟩ reply front back
      (line ▸ uncut) named single isWord (line ▸ written) params each
  refine ⟨line, ?_, ?_, ?_⟩
  · intro front back params each
    obtain ⟨more, trailing, whole, _⟩ := parsed front back params each
    refine ⟨more, trailing, ?_⟩
    dsimp only [read]
    rw [line]
    exact whole
  · intro each
    obtain ⟨more, trailing, whole, ending⟩ := parsed reply.params [] (List.append_nil _).symm each
    obtain ⟨rfl, rfl⟩ := ending rfl
    dsimp only [read]
    rw [line]
    exact whole
  · intro param member
    have told : param.Single ∨
        ∃ text, param = .word text ∧ (message.Brings text ∨ stage.Bears text) := by
      rcases known with rfl | rfl
      · exact before.single_of_grounded source param member
      · exact after.single_of_grounded source param member
    rcases told with alone | ⟨text, same, brings | bears⟩
    · exact .inl alone
    · exact .inr ⟨text, same, .inl brings⟩
    · exact .inr ⟨text, same, .inr ⟨stage, known, bears⟩⟩

/-- A user is described in as many parameters as it has names. -/
theorem shape_of_teaRun :
    let asked := Event.said 0 ⟨none, .command .whois, ["BERT"], false⟩
    ((((new teaProfile).after teaRun).step asked).received.head?.map fun delivery =>
      Message.parse? delivery.line.wire) =
        some (some ⟨some "irc.test", .other "311", ["ann", "Bert", "b", "west", "*", "Bob"],
          true⟩) := by
  intro asked
  let line : Line := Addressee.reply ⟨"irc.test", "ann"⟩ (.whoisUser "Bert" "b" "west" "Bob")
  have first : (((new teaProfile).after teaRun).step asked).received.head? = some ⟨0, line⟩ := by
    decide +kernel
  have hosts : ∀ event ∈ [Event.connected "east", .connected "west"], event.Readable := by
    simp [Event.Readable]
    decide
  have past : ∀ event ∈ teaRun, event.Lacks (Char.ofNat 0) := fun event member =>
    (List.forall_mem_append.mpr ⟨hosts, readable_spoken _⟩ event member).lacks
  have present : asked.Lacks (Char.ofNat 0) := ⟨by decide, by decide⟩
  have clean : teaProfile.Lacks (Char.ofNat 0) :=
    ⟨by decide, by decide, fun _ given => by cases given⟩
  have member : ⟨0, line⟩ ∈ (((new teaProfile).after teaRun).step asked).received :=
    List.mem_of_mem_head? first
  obtain ⟨client, message, reply, _, _, same, _, whole, _⟩ :=
    numeric_replies_keep_shape teaProfile teaRun asked (by decide) (by decide) clean past present
      ⟨0, line⟩ member (.whoisUser "Bert" "b" "west" "Bob") rfl (by unfold Line.Uncut; decide)
  have code : reply.code = "311" := (congrArg Line.command same).symm
  have text : reply.text = some "Bob" := (congrArg Line.text same).symm
  obtain ⟨nick, params⟩ := List.cons.inj (congrArg Line.params same).symm
  have single : ∀ param ∈ reply.params, param.Single := by
    rw [params]
    unfold Param.Single
    decide
  have addressed := Param.word.inj nick
  have read := whole single
  dsimp only at addressed read
  rw [code, text, params, addressed] at read
  rw [first, Option.map_some, read]
  rfl

/-- A blank parameter is left out, one that holds a space is read as two, and one that starts with a
colon as all that is left of the line.  A CR at the end of a text is lost, and with a NUL in the
message of the day nothing can be read. -/
theorem params_change_shape :
    let greeted := [Event.connected "east"]
    let nick := fun name : Text => Event.said 0 ⟨none, .command .nick, [name], true⟩
    let join := Event.said 0 ⟨none, .command .join, [":x"], true⟩
    let talk := Event.said 0 ⟨none, .command .privmsg, ["Bert", "hi"], true⟩
    let refused := fun name : Text => Addressee.reply ⟨"irc.test", "*"⟩ (.erroneousNickname name)
    let missing := Addressee.reply ⟨"irc.test", "ann"⟩ (.noSuchChannel ":x")
    let away := Addressee.reply ⟨"irc.test", "ann"⟩ (.away "Bert" "gone\r")
    let news := Addressee.reply ⟨"irc.test", "ann"⟩ (.motdLine "a\x00b")
    (teaProfile.domain = "irc.test" ∧
        spoken [(0, "NICK :\t"), (0, "NICK :a b"), (0, "JOIN ::x"), (0, "PRIVMSG Bert :hi")] =
          [nick "\t", nick "a b", join, talk]) ∧
      ((((new teaProfile).after greeted).step (nick "\t")).received = [⟨0, refused "\t"⟩] ∧
        (refused "\t").Uncut ∧ Message.parse? (refused "\t").wire =
          some ⟨some "irc.test", .other "432", ["*", "Erroneous nickname"], true⟩) ∧
      ((((new teaProfile).after greeted).step (nick "a b")).received = [⟨0, refused "a b"⟩] ∧
        (refused "a b").Uncut ∧ Message.parse? (refused "a b").wire =
          some ⟨some "irc.test", .other "432", ["*", "a", "b", "Erroneous nickname"], true⟩) ∧
      ((((new teaProfile).after teaRun).step join).received = [⟨0, missing⟩] ∧
        missing.Uncut ∧ Message.parse? missing.wire =
          some ⟨some "irc.test", .other "403", ["ann", "x :No such channel"], true⟩) ∧
      (⟨0, away⟩ ∈ (((new teaProfile).after
          (teaRun ++ spoken [(1, "AWAY gone\r now")])).step talk).received ∧
        away.Uncut ∧ Message.parse? away.wire =
          some ⟨some "irc.test", .other "301", ["ann", "Bert", "gone"], true⟩) ∧
      (⟨0, news⟩ ∈ (((new { teaProfile with motd := some "a\x00b" }).after teaRun).step
          (.said 0 ⟨none, .command .motd, [], false⟩)).received ∧
        news.Uncut ∧ Message.parse? news.wire = none) := by
  unfold Line.Uncut
  decide +kernel

end Network

end IrcServer
