import IrcServer.Proofs.Changes
import IrcServer.Proofs.Deeds
import IrcServer.Proofs.Holdings
import IrcServer.Proofs.Shortened
import IrcServer.Proofs.Tidy

namespace IrcServer

/-! What the server writes on behalf of a client.

An `Utterance` says which words and which text a message has the server write, so that the lines
that others are sent can be read without looking at a command again (`Handler.voiced_handle`). -/

namespace Text

theorem utf8Size_toLower (c : Char) : c.toLower.utf8Size = c.utf8Size := by
  have code := Nickname.toNat_toLower c
  split at code
  · have small : ∀ d : Char, d.toNat ≤ 127 → d.utf8Size = 1 := by
      intro d bound
      exact Char.utf8Size_eq_one_iff.mpr (UInt32.le_iff_toNat_le.mpr bound)
    rw [small c.toLower (by omega), small c (by omega)]
  · exact congrArg Char.utf8Size (Char.toNat_inj.mp code)

theorem byteLength_fold (text : Text) : text.fold.byteLength = text.byteLength := by
  induction text with
  | nil => rfl
  | cons c rest inductionHypothesis =>
      change c.toLower.utf8Size + byteLength (fold rest) = c.utf8Size + byteLength rest
      rw [utf8Size_toLower, inductionHypothesis]

/-- Folding changes letters only. -/
theorem toLower_eq_iff {c : Char} (plain : c.toNat < 0x41) {d : Char} : d.toLower = c ↔ d = c := by
  have code := Nickname.toNat_toLower d
  rw [← Char.toNat_inj, ← Char.toNat_inj]
  split at code <;> omega

theorem mem_fold_iff {c : Char} (plain : c.toNat < 0x41) {text : Text} :
    c ∈ text.fold ↔ c ∈ text := by
  simp [fold, toLower_eq_iff plain]

theorem lacks_of_fold_eq {bad : Char} (control : bad.toNat < 32) {left right : Text}
    (same : left.fold = right.fold) (clean : bad ∉ right) : bad ∉ left := by
  rwa [← mem_fold_iff (by omega), same, mem_fold_iff (by omega)]

end Text

theorem Param.byteLength_raw_le (text : Text) :
    (Param.word text).raw.byteLength ≤ 1 + text.byteLength := by
  have trimmed := text.byteLength_trim_le
  rw [raw]
  split
  · exact Nat.zero_le _
  · exact Nat.add_le_add_left trimmed 1

/-! Names in another spelling. -/

namespace Nickname

theorem isFirstChar_iff {c : Char} : isFirstChar c = true ↔ 0x41 ≤ c.toNat ∧ c.toNat ≤ 0x7D := by
  have dash : c = '-' ↔ c.toNat = 0x2D := Char.toNat_inj.symm
  have digit : c.isDigit = true ↔ 0x30 ≤ c.toNat ∧ c.toNat ≤ 0x39 := by
    simp only [Char.isDigit, Bool.and_eq_true, decide_eq_true_eq, ge_iff_le, UInt32.le_iff_toNat_le,
      Char.reduceVal, UInt32.reduceToNat, Char.toNat]
  simp only [isFirstChar, Bool.and_eq_true, isChar_iff, decide_eq_true_eq, ne_eq, dash,
    Bool.not_eq_true', ← Bool.not_eq_true, digit]
  omega

theorem byteLength_le_of_isValid {limit : Nat} {name : Text} (valid : isValid limit name = true) :
    name.byteLength ≤ limit := by
  simp only [isValid, Bool.and_eq_true, decide_eq_true_eq] at valid
  exact valid.2

theorem isValid_of_fold_eq {limit : Nat} {name other : Text} (valid : isValid limit name = true)
    (same : other.fold = name.fold) : isValid limit other = true := by
  have folded : ∀ name : Text, isValid limit name.fold = isValid limit name := by
    intro name
    have first : ∀ c : Char, isFirstChar c.toLower = isFirstChar c := by
      intro c
      rw [Bool.eq_iff_iff, isFirstChar_iff, isFirstChar_iff, toNat_toLower]
      split <;> omega
    rw [isValid, isValid, all_isChar_fold, Text.byteLength_fold]
    cases name with
    | nil => rfl
    | cons c rest => simp [Text.fold, first]
  rw [← folded, same, folded, valid]

end Nickname

theorem ChannelName.byteLength_le_of_isValid {limit : Nat} {name : Text}
    (valid : isValid limit name = true) : name.byteLength ≤ limit := by
  simp only [isValid, Bool.and_eq_true, decide_eq_true_eq] at valid
  exact valid.1.2

theorem ChannelName.head?_of_isValid {limit : Nat} {name : Text} (valid : isValid limit name = true) :
    name.head? = some '#' := by
  simp only [isValid, Bool.and_eq_true, decide_eq_true_eq] at valid
  exact valid.1.1.1

theorem ChannelName.ne_nil_of_isValid {limit : Nat} {name : Text}
    (valid : isValid limit name = true) : name ≠ [] := by
  rintro rfl
  cases head?_of_isValid valid

theorem ChannelName.not_mem_of_isValid {limit : Nat} {name : Text}
    (valid : isValid limit name = true) {c : Char} (strange : isChar c = false) : c ∉ name := by
  simp only [isValid, Bool.and_eq_true] at valid
  intro member
  cases strange.symm.trans (List.all_eq_true.mp valid.2 c member)

theorem ChannelName.isValid_of_fold_eq {limit : Nat} {name other : Text}
    (valid : isValid limit name = true) (same : other.fold = name.fold) :
    isValid limit other = true := by
  have folded : ∀ name : Text, isValid limit name.fold = isValid limit name := by
    intro name
    have letter : ∀ c : Char, isChar c.toLower = isChar c := by
      intro c
      have bell : c.toLower.toNat = 7 ↔ c.toNat = 7 := by
        rw [Nickname.toNat_toLower]
        split <;> omega
      simp [isChar, Text.toLower_eq_iff, bell]
    have hash : ∀ c : Char, c.toLower = '#' ↔ c = '#' := fun c => Text.toLower_eq_iff (by decide)
    rw [isValid, isValid, Text.byteLength_fold]
    cases name with
    | nil => rfl
    | cons c rest => simp [Text.fold, letter, hash, Function.comp_def]
  rw [← folded, same, folded, valid]

/-- The form of a name of a channel or of a client. -/
def Profile.IsTarget (profile : Profile) (name : Text) : Prop :=
  ChannelName.isValid profile.channelLimit name = true ∨
    Nickname.isValid profile.nickLimit name = true

namespace Profile.IsTarget

variable {profile : Profile} {name : Text}

theorem isWord_trim (target : profile.IsTarget name) : name.trim.IsWord := by
  rcases target with channel | nick
  · simp only [ChannelName.isValid, Bool.and_eq_true, decide_eq_true_eq] at channel
    obtain ⟨⟨⟨hash, _⟩, _⟩, letters⟩ := channel
    obtain ⟨rest, rfl⟩ := List.head?_eq_some_iff.mp hash
    apply Text.isWord_trim (by decide) (by decide)
    exact fun space => absurd (List.all_eq_true.mp letters _ space) (by decide)
  · have isWord := Nickname.isWord_of_isValid nick
    rwa [isWord.trim_eq]

theorem byteLength_le (target : profile.IsTarget name) :
    name.byteLength ≤ profile.channelLimit + profile.nickLimit := by
  rcases target with channel | nick
  · exact Nat.le_add_right_of_le (ChannelName.byteLength_le_of_isValid channel)
  · exact Nat.le_add_left_of_le (Nickname.byteLength_le_of_isValid nick)

end Profile.IsTarget

/-- The commands whose lines are written on behalf of clients. -/
def Command.relayed : List Command := [join, part, quit, nick, mode, topic, privmsg, notice]

/-- What a message of a client has the server write on its behalf. -/
inductive Utterance (profile : Profile) (message : Message) :
    Command → List Text → Option Text → Prop
  | join {name channel : Text} (listed : name ∈ (message.param 0).pieces)
      (valid : ChannelName.isValid profile.channelLimit channel = true)
      (same : channel.fold = name.fold) : Utterance profile message .join [channel] none
  | part {name channel : Text} (listed : name ∈ (message.param 0).pieces)
      (valid : ChannelName.isValid profile.channelLimit channel = true)
      (same : channel.fold = name.fold) :
      Utterance profile message .part [channel]
        (if message.param 1 = [] then none else some (message.param 1))
  | mode {channel : Text} {change : Mode.Change}
      (valid : ChannelName.isValid profile.channelLimit channel = true)
      (same : channel.fold = (message.param 0).fold) (asked : change.nick ∈ message.params)
      (member : Nickname.isValid profile.nickLimit change.nick = true) :
      Utterance profile message .mode [channel, change.modeString, change.nick] none
  | topic {channel title : Text} (given : message.params[1]? = some title)
      (valid : ChannelName.isValid profile.channelLimit channel = true)
      (same : channel.fold = (message.param 0).fold) :
      Utterance profile message .topic [channel] (some title)
  | nick (valid : Nickname.isValid profile.nickLimit (message.param 0) = true) :
      Utterance profile message .nick [message.param 0] none
  | talk {command : Command} (spoken : command = .privmsg ∨ command = .notice)
      (target : profile.IsTarget (message.param 0)) :
      Utterance profile message command [message.param 0] (some (message.param 1))

namespace Utterance

variable {profile : Profile} {message : Message} {command : Command} {words : List Text}
  {text : Option Text}

theorem targets (utterance : Utterance profile message command words text) :
    ∀ word ∈ words, profile.IsTarget word ∨ ∃ change : Mode.Change, word = change.modeString := by
  cases utterance with
  | join _ valid | part _ valid | topic _ valid => simp [Profile.IsTarget, valid]
  | @mode channel change valid _ _ member =>
      rw [List.forall_mem_cons, List.forall_mem_cons, List.forall_mem_singleton]
      exact ⟨.inl (.inl valid), .inr ⟨change, rfl⟩, .inl (.inr member)⟩
  | nick valid => simp [Profile.IsTarget, valid]
  | talk _ target => simp [target]

theorem isWord_trim (utterance : Utterance profile message command words text) :
    ∀ word ∈ words, word.trim.IsWord := by
  intro word member
  rcases utterance.targets word member with target | ⟨change, rfl⟩
  · exact target.isWord_trim
  · have isWord := change.isWord_modeString
    rwa [isWord.trim_eq]

theorem length_words (utterance : Utterance profile message command words text) :
    0 < words.length ∧ words.length ≤ 3 := by
  cases utterance <;> simp

theorem lacks {bad : Char} (control : bad.toNat < 32) (clean : message.Lacks bad)
    (utterance : Utterance profile message command words text) :
    (∀ word ∈ words, bad ∉ word) ∧ ∀ last ∈ text, bad ∉ last := by
  have first := clean.param 0
  have second := clean.param 1
  have piece : ∀ {name : Text}, name ∈ (message.param 0).pieces → bad ∉ name :=
    fun listed inside => first (Text.subset_of_mem_pieces listed inside)
  cases utterance with
  | join listed _ same =>
      have channel := Text.lacks_of_fold_eq control same (piece listed)
      simpa using channel
  | part listed _ same =>
      have channel := Text.lacks_of_fold_eq control same (piece listed)
      split <;> simp [channel, second]
  | @mode channel change _ same asked =>
      have channel := Text.lacks_of_fold_eq control same first
      have sign := change.lacks_modeString control
      simp [channel, sign, clean.params _ asked]
  | @topic channel title given _ same =>
      have channel := Text.lacks_of_fold_eq control same first
      have title := clean.params title (List.mem_of_getElem? given)
      simp [channel, title]
  | nick => simpa using first
  | talk => simp [first, second]

/-- The longest of them is a change of a member's flag. -/
theorem byteLength_le (utterance : Utterance profile message command words text) :
    command.name.byteLength + Text.byteLength ((words.map Param.word).flatMap Param.raw) ≤
      profile.channelLimit + profile.nickLimit + 9 := by
  have names : ∀ command : Command, command.name.byteLength ≤ 7 := by
    intro command
    cases command <;> decide
  have alone : ∀ {name : Text}, profile.IsTarget name → command.name.byteLength +
      Text.byteLength ([Param.word name].flatMap Param.raw) ≤
        profile.channelLimit + profile.nickLimit + 9 := by
    intro name target
    have verb := names command
    have short := Param.byteLength_raw_le name
    have limit := target.byteLength_le
    rw [List.flatMap_singleton]
    omega
  cases utterance with
  | join _ valid | part _ valid | topic _ valid => exact alone (.inl valid)
  | nick valid => exact alone (.inr valid)
  | talk _ target => exact alone target
  | @mode channel change valid _ _ member =>
      have verb : Command.mode.name.byteLength = 4 := by decide
      have sign : change.modeString.byteLength = 2 := by
        rw [Mode.Change.modeString]
        cases change.enabled <;> rfl
      have first := Param.byteLength_raw_le channel
      have second := Param.byteLength_raw_le change.modeString
      have third := Param.byteLength_raw_le change.nick
      have channelFits := ChannelName.byteLength_le_of_isValid valid
      have nickFits := Nickname.byteLength_le_of_isValid member
      simp only [List.map_cons, List.map_nil, List.flatMap_cons, List.flatMap_nil,
        Text.byteLength_append, Text.byteLength_nil]
      omega

end Utterance

/-- A line that a message of a client can have the server write: one on its behalf, or one in the
server's own name. -/
inductive Voice (profile : Profile) (message : Message) (user : User) : Line → Prop
  | own {line : Line} (unspoken : ∀ command ∈ Command.relayed, line.command ≠ command.name) :
      Voice profile message user line
  | spoken {command : Command} {words : List Text} {text : Option Text}
      (utterance : Utterance profile message command words text) :
      Voice profile message user (user.line command (words.map .word) text)

structure Reaction.Voiced (profile : Profile) (message : Message) (user : User)
    (reaction : Reaction) : Prop where
  relayed : ∀ delivery ∈ reaction.relayed, Voice profile message user delivery.line
  replies : ∀ line ∈ reaction.replies, Voice profile message user line

namespace Voice

variable {profile : Profile} {message : Message} {server : Server} {user : User}

theorem reply (server : Server) (present : User) (reply : Reply) :
    Voice profile message user (server.reply present reply) :=
  .own fun command _ => reply.code_ne command

theorem utterance {line : Line} (voice : Voice profile message user line) {command : Command}
    (relayed : command ∈ Command.relayed) (named : line.command = command.name) :
    ∃ words text, Utterance profile message command words text ∧
      line = user.line command (words.map .word) text := by
  cases voice with
  | own unspoken => exact absurd named (unspoken command relayed)
  | spoken utterance =>
      cases Command.name_injective named
      exact ⟨_, _, utterance, rfl⟩

theorem relay (server : Server) (nicks : List Text) {line : Line}
    (voice : Voice profile message user line) :
    ∀ delivery ∈ server.relay nicks line, Voice profile message user delivery.line := by
  intro delivery member
  rwa [(Server.of_mem_relay member).1]

end Voice

namespace Handler

variable {profile : Profile} {message : Message} {server : Server} {roster : Roster} {user : User}

theorem voiced_answer (verdict : Verdict) (replies : List Reply) (later : Server) (present : User) :
    (answer verdict replies later present).Voiced profile message user := by
  constructor
  · simp [answer]
  · intro line member
    obtain ⟨reply, _, rfl⟩ := List.mem_map.mp member
    exact .reply later present reply

/-- A line for others that the client is told as well. -/
theorem voiced_announced {later teller : Server} {present : User} {nicks : List Text} {line : Line}
    (voice : Voice profile message user line) :
    Reaction.Voiced profile message user
      { server := later, user := present, relayed := teller.relay nicks line, replies := [line]
        verdict := .accepted } := by
  constructor
  · exact Voice.relay teller nicks voice
  · simpa using voice

/-- Every step of a list finds the server consistent, as the steps before it are acts. -/
theorem voiced_forEach {α : Type} {items : List α} {step : α → Handler}
    (consistent : Consistent profile server roster) (here : roster user.queue = some user)
    (each : ∀ item ∈ items, ∀ server, Consistent profile server roster →
      (Act message server user (step item server user) ∧ (step item server user).user = user) ∧
        (step item server user).Voiced profile message user) :
    (forEach items step server user).Voiced profile message user := by
  induction items generalizing server with
  | nil => exact voiced_answer _ _ _ _
  | cons item rest inductionHypothesis =>
      obtain ⟨first, others⟩ := List.forall_mem_cons.mp each
      obtain ⟨⟨act, same⟩, voiced⟩ := first server consistent
      have next := consistent.act here act
      rw [same, ← here, Function.update_eq_self] at next
      have later : (forEach rest step (step item server user).server
          (step item server user).user).Voiced profile message user := by
        rw [same]
        exact inductionHypothesis next others
      constructor
      · exact List.forall_mem_append.mpr ⟨voiced.relayed, later.relayed⟩
      · exact List.forall_mem_append.mpr ⟨voiced.replies, later.replies⟩

theorem voiced_join (consistent : Consistent profile server roster)
    (here : roster user.queue = some user) (registered : user.registered = true)
    (asked : message.verb = .command .join) :
    (join (message.param 0) server user).Voiced profile message user := by
  apply voiced_forEach consistent here
  intro name listed server consistent
  use joinOne_act asked listed registered
  rw [joinOne]
  split
  · exact voiced_answer _ _ _ _
  · rename_i valid
    rw [consistent.registry.profileEq] at valid
    obtain ⟨named, _, same, _⟩ := consistent.joinable (by simpa using valid) rfl
    dsimp only
    split
    · rename_i channel entered
      have kept := Channel.name_of_join entered
      have voice := @Voice.spoken profile message user _ _ _ (.join listed named same)
      rw [← kept] at voice
      constructor
      · exact Voice.relay _ _ voice
      · rw [List.forall_mem_cons]
        refine ⟨voice, fun line member => ?_⟩
        obtain ⟨reply, _, rfl⟩ := List.mem_map.mp member
        exact .reply _ _ reply
    · exact voiced_answer _ _ _ _
    · exact voiced_answer _ _ _ _

theorem voiced_part (consistent : Consistent profile server roster)
    (here : roster user.queue = some user) (registered : user.registered = true)
    (asked : message.verb = .command .part) :
    (part (message.param 0) (message.param 1) server user).Voiced profile message user := by
  apply voiced_forEach consistent here
  intro name listed server consistent
  use partOne_act asked registered _ name
  rw [partOne]
  split
  · exact voiced_answer _ _ _ _
  · rename_i channel found
    split
    · exact voiced_answer _ _ _ _
    · have same : channel.name.fold = name.fold := consistent.keyed.fold_eq found
      exact voiced_announced (.spoken (.part listed (consistent.sound found).valid same))

theorem voiced_mode (consistent : Consistent profile server roster)
    (here : roster user.queue = some user) (registered : user.registered = true)
    (asked : message.verb = .command .mode) :
    (mode (message.param 0) (message.param 1) (message.params.drop 2) server user).Voiced
      profile message user := by
  rw [mode]
  split
  · exact voiced_answer _ _ _ _
  split
  · exact voiced_answer _ _ _ _
  rename_i changes valid
  split
  · apply voiced_forEach consistent here
    intro change chosen server consistent
    use changeMode_act asked registered change
    rw [changeMode]
    split
    · exact voiced_answer _ _ _ _
    · rename_i channel found
      split
      · exact voiced_answer _ _ _ _
      · rename_i present
        have same : channel.name.fold = (message.param 0).fold := consistent.keyed.fold_eq found
        have given := Mode.nick_of_channelChanges (Mode.of_validate valid change chosen)
        have present : channel.isMember change.nick = true := by simpa using present
        obtain ⟨member, held, named⟩ := any_isNamed_iff.mp present
        have nick := Nickname.isValid_of_fold_eq (consistent.member_valid found held) named.symm
        exact voiced_announced (.spoken (.mode (consistent.sound found).valid same
          (List.mem_of_mem_drop given) nick))
  · exact voiced_answer _ _ _ _

theorem voiced_topic (consistent : Consistent profile server roster) :
    (topic (message.param 0) message.params[1]? server user).Voiced profile message user := by
  rw [topic]
  split
  · exact voiced_answer _ _ _ _
  · rename_i channel found
    split
    · rename_i title given
      rw [setTopic]
      split
      · exact voiced_answer _ _ _ _
      · have same : channel.name.fold = (message.param 0).fold := consistent.keyed.fold_eq found
        exact voiced_announced (.spoken (.topic given (consistent.sound found).valid same))
    · split <;> exact voiced_answer _ _ _ _

theorem voiced_talk (consistent : Consistent profile server roster) {command : Command}
    (spoken : command = .privmsg ∨ command = .notice) :
    (talk command (message.param 0) (message.param 1) server user).Voiced profile message user := by
  rw [talk]
  split
  · exact voiced_answer _ _ _ _
  split
  · rw [sayToChannel]
    split
    · exact voiced_answer _ _ _ _
    · rename_i channel found
      split
      · exact voiced_answer _ _ _ _
      · have target : profile.IsTarget (message.param 0) :=
          .inl (ChannelName.isValid_of_fold_eq (consistent.sound found).valid
            (consistent.keyed.fold_eq found).symm)
        exact ⟨Voice.relay _ _ (.spoken (.talk spoken target)), by simp⟩
  · rw [sayToUser]
    split
    · exact voiced_answer _ _ _ _
    · rename_i recipient found
      obtain ⟨there, known, same⟩ := consistent.registry.listed.mp found
      have target : profile.IsTarget (message.param 0) :=
        .inr (Nickname.isValid_of_fold_eq (consistent.registry.valid_nick there known) same.symm)
      constructor
      · intro delivery member
        rw [List.mem_singleton.mp member]
        exact .spoken (.talk spoken target)
      · intro line member
        obtain ⟨reply, _, rfl⟩ := List.mem_map.mp member
        exact .reply server user reply

theorem voiced_register (server : Server) (present : User) :
    (register server present).Voiced profile message user := by
  rw [register]
  split
  · split <;> exact voiced_answer _ _ _ _
  · exact voiced_answer _ _ _ _

theorem voiced_nick (consistent : Consistent profile server roster) :
    (nick (message.param 0) server user).Voiced profile message user := by
  rw [nick]
  split
  · exact voiced_answer _ _ _ _
  split
  · exact voiced_answer _ _ _ _
  rename_i valid
  rw [consistent.registry.profileEq] at valid
  split
  · rw [nextNick]
    split
    · exact voiced_answer _ _ _ _
    split
    · exact voiced_answer _ _ _ _
    · exact voiced_announced (.spoken (.nick (by simpa using valid)))
  · rw [firstNick]
    split
    · exact voiced_answer _ _ _ _
    · exact voiced_register _ _

theorem voiced_names (consistent : Consistent profile server roster)
    (here : roster user.queue = some user) (targets : Text) :
    (names targets server user).Voiced profile message user := by
  rw [names]
  split
  · exact voiced_answer _ _ _ _
  · apply voiced_forEach consistent here
    intro name _ server _
    use namesOne_act name
    rw [namesOne]
    split <;> exact voiced_answer _ _ _ _

theorem voiced_oper (password : Text) (server : Server) (present : User) :
    (oper password server present).Voiced profile message user := by
  rw [oper]
  split
  · have refused := @voiced_answer profile message user .refused [.passwordMismatch] server present
    exact ⟨refused.relayed, refused.replies⟩
  · exact voiced_answer _ _ _ _

theorem voiced_own {later : Server} {present : User} {line : Line}
    (unspoken : ∀ command ∈ Command.relayed, line.command ≠ command.name) :
    Reaction.Voiced profile message user
      { server := later, user := present, relayed := [], replies := [line], verdict := .accepted } := by
  constructor
  · simp
  · simpa using Voice.own unspoken

theorem voiced_run (consistent : Consistent profile server roster)
    (here : roster user.queue = some user) {command : Command}
    (admits : Admits message user command) :
    (run command message server user).Voiced profile message user := by
  have asked := admits.asked
  have registered := admits.registered
  cases command with
  | join => exact voiced_join consistent here (registered rfl) asked
  | part => exact voiced_part consistent here (registered rfl) asked
  | mode => exact voiced_mode consistent here (registered rfl) asked
  | topic => exact voiced_topic consistent
  | nick => exact voiced_nick consistent
  | notice => exact voiced_talk consistent (.inr rfl)
  | privmsg => exact voiced_talk consistent (.inl rfl)
  | user => exact voiced_register _ _
  | names => exact voiced_names consistent here _
  | oper => exact voiced_oper _ _ _
  | whois =>
      rw [run, whois]
      split <;> exact voiced_answer _ _ _ _
  | ping =>
      have unspoken : ∀ command ∈ Command.relayed, Command.pong.name ≠ command.name := by decide
      exact voiced_own unspoken
  | quit =>
      have unspoken : ∀ command ∈ Command.relayed, ("ERROR" : Text) ≠ command.name := by decide
      exact voiced_own unspoken
  | away | list | lusers | motd | pong => exact voiced_answer _ _ _ _

/-- Every line that a message has the server write is in the server's own name, or is one of the
utterances of its client. -/
theorem voiced_handle (consistent : Consistent profile server roster)
    (here : roster user.queue = some user) :
    (handle message server user).Voiced profile message user := by
  rcases handle_cases message server user with ⟨_, _, same, _⟩ | ⟨_, admits, same⟩
  · rw [same]
    exact voiced_answer _ _ _ _
  · rw [same]
    exact voiced_run consistent here admits

end Handler

end IrcServer
