import IrcServer.Proofs.Act
import IrcServer.Proofs.Heard
import Mathlib.Data.List.Forall2
import Mathlib.Data.List.Induction

namespace IrcServer

/-! The news in the lines of the server: what each kind of line says to a client that reads it. -/

/-- A client whose name is read as it is written. -/
structure User.Legible (user : User) : Prop where
  single : ' ' ∉ user.fullName
  plain : '!' ∉ user.nick

namespace User.Legible

variable {user : User}

@[simp] theorem nick_heard (legible : user.Legible) (verb : Text) (params : List Text) :
    Heard.nick ⟨user.fullName, verb, params⟩ = user.nick := by
  have letters : ∀ c ∈ user.nick, decide (c ≠ '!') = true := by
    intro c member
    exact decide_eq_true fun same => legible.plain (same ▸ member)
  rw [Heard.nick, User.fullName, List.append_assoc, List.takeWhile_append_of_pos letters]
  simp

theorem heard_line (legible : user.Legible) {command : Command} {params : List Param}
    {text : Option Text} (uncut : (user.line command params text).Uncut) :
    ∃ read, (user.line command params text).heard = ⟨user.fullName, command.name, read⟩ :=
  ⟨_, Line.heard_eq legible.single command.isWord_name uncut⟩

theorem heard_words (legible : user.Legible) {command : Command} (words : List Text)
    {text : Option Text} (uncut : (user.line command (words.map .word) text).Uncut)
    (each : ∀ word ∈ words, word.IsWord) (fits : words.length ≤ maxParams - 1) :
    (user.line command (words.map .word) text).heard =
      ⟨user.fullName, command.name,
        words ++ (text.map fun text => text.trimEndWhile Message.isLineEnd).toList⟩ :=
  Line.heard_words legible.single command.isWord_name uncut rfl each fits

theorem heard_word (legible : user.Legible) {command : Command} {word : Text}
    (isWord : word.IsWord) {text : Option Text}
    (uncut : (user.line command [.word word] text).Uncut) :
    ∃ read, (user.line command [.word word] text).heard =
      ⟨user.fullName, command.name, word :: read⟩ :=
  ⟨_, legible.heard_words [word] uncut (by simpa using isWord) (Nat.le_of_ble_eq_true rfl)⟩

theorem news_join (legible : user.Legible) {channel : Text} (isWord : channel.IsWord)
    (uncut : (user.line .join [.word channel] none).Uncut) :
    (user.line .join [.word channel] none).heard.news = .joined user.nick channel := by
  obtain ⟨read, heard⟩ := legible.heard_word isWord uncut
  rw [heard, Heard.news, Command.ofName?_name, legible.nick_heard]

theorem news_part (legible : user.Legible) {channel : Text} (isWord : channel.IsWord)
    {reason : Text} (uncut : (Handler.partLine user channel reason).Uncut) :
    (Handler.partLine user channel reason).heard.news = .parted user.nick channel := by
  obtain ⟨read, heard⟩ := legible.heard_word isWord uncut
  rw [Handler.partLine, heard, Heard.news, Command.ofName?_name, legible.nick_heard]

theorem news_nick (legible : user.Legible) {nick : Text} (isWord : nick.IsWord)
    (uncut : (user.line .nick [.word nick] none).Uncut) :
    (user.line .nick [.word nick] none).heard.news = .renamed user.nick nick := by
  obtain ⟨read, heard⟩ := legible.heard_word isWord uncut
  rw [heard, Heard.news, Command.ofName?_name, legible.nick_heard]

theorem news_mode (legible : user.Legible) {channel : Channel} (isWord : channel.name.IsWord)
    {change : Mode.Change} (target : change.nick.IsWord)
    (uncut : (Handler.changeLine user channel change).Uncut) :
    (Handler.changeLine user channel change).heard.news =
      .changed channel.name change.nick change.enabled := by
  have heard := legible.heard_words [channel.name, change.modeString, change.nick] uncut
    (by simp [isWord, change.isWord_modeString, target]) (Nat.le_of_ble_eq_true rfl)
  have read : (Handler.changeLine user channel change).heard =
      ⟨user.fullName, Command.mode.name, [channel.name, change.modeString, change.nick]⟩ := heard
  rw [read, Heard.news, Command.ofName?_name]
  obtain ⟨enabled, nick⟩ := change
  cases enabled <;> rfl

theorem news_quit (legible : user.Legible) {params : List Param} {text : Option Text}
    (uncut : (user.line .quit params text).Uncut) :
    (user.line .quit params text).heard.news = .quit user.nick := by
  obtain ⟨read, heard⟩ := legible.heard_line uncut
  rw [heard, Heard.news, Command.ofName?_name, legible.nick_heard]

theorem news_other (legible : user.Legible) {command : Command} {params : List Param}
    {text : Option Text} (spoken : command = .privmsg ∨ command = .notice ∨ command = .topic)
    (uncut : (user.line command params text).Uncut) :
    (user.line command params text).heard.news = .other := by
  obtain ⟨read, heard⟩ := legible.heard_line uncut
  rw [heard, Heard.news]
  rcases spoken with rfl | rfl | rfl <;> simp

end User.Legible

namespace Server

variable {server : Server} {user : User}

theorem heard_reply (single : ' ' ∉ server.profile.domain) {reply : Reply}
    (uncut : (server.reply user reply).Uncut) :
    ∃ read, (server.reply user reply).heard = ⟨server.profile.domain, reply.code, read⟩ :=
  ⟨_, Line.heard_eq single reply.isWord_code uncut⟩

theorem heard_reply_words (single : ' ' ∉ server.profile.domain)
    (registered : user.registered = true) (nick : user.nick.IsWord) {reply : Reply}
    (words : List Text) (params : reply.params = words.map .word)
    (each : ∀ word ∈ words, word.IsWord) (fits : words.length + 1 ≤ maxParams - 1)
    (uncut : (server.reply user reply).Uncut) :
    (server.reply user reply).heard =
      ⟨server.profile.domain, reply.code, user.nick :: words ++
        (reply.text.map fun text => text.trimEndWhile Message.isLineEnd).toList⟩ := by
  have written : (server.reply user reply).params = (user.nick :: words).map .word := by
    rw [List.map_cons, ← params, Server.reply, Addressee.reply, addressee, if_pos registered]
    rfl
  exact Line.heard_words single reply.isWord_code uncut written
    (List.forall_mem_cons.mpr ⟨nick, each⟩) fits

theorem news_welcome (single : ' ' ∉ server.profile.domain) (registered : user.registered = true)
    (nick : user.nick.IsWord) {fullName : Text}
    (uncut : (server.reply user (.welcome fullName)).Uncut) :
    (server.reply user (.welcome fullName)).heard.news = .welcomed user.nick := by
  rw [heard_reply_words single registered nick [] rfl (by simp) (Nat.le_of_ble_eq_true rfl) uncut,
    Heard.news, Reply.ofName?_code]
  rfl

theorem news_endOfNames (single : ' ' ∉ server.profile.domain)
    (registered : user.registered = true) (nick : user.nick.IsWord) {channel : Text}
    (isWord : channel.IsWord) (uncut : (server.reply user (.endOfNames channel)).Uncut) :
    (server.reply user (.endOfNames channel)).heard.news = .listEnded channel := by
  rw [heard_reply_words single registered nick [channel] rfl (by simpa using isWord)
      (Nat.le_of_ble_eq_true rfl) uncut, Heard.news, Reply.ofName?_code]
  rfl

end Server

/-- News that mean nothing to a client that is not entering a channel. -/
def News.Idle (news : News) : Prop :=
  news = .other ∨ (∃ channel members, news = .listed channel members) ∨
    ∃ channel, news = .listEnded channel

theorem Heard.idle_newsOfReply {code : Text} (unwelcoming : code ≠ "001") (params : List Text) :
    (newsOfReply code params).Idle := by
  unfold newsOfReply
  split
  · rw [if_neg unwelcoming]
    exact .inl rfl
  · split
    · exact .inr (.inr ⟨_, rfl⟩)
    · exact .inl rfl
  · split
    · exact .inr (.inl ⟨_, _, rfl⟩)
    · exact .inl rfl
  · exact .inl rfl

theorem Reply.code_ne_welcome {reply : Reply} (unwelcoming : ∀ fullName, reply ≠ .welcome fullName) :
    reply.code ≠ "001" := by
  cases reply with
  | welcome fullName => exact absurd rfl (unwelcoming fullName)
  | _ => exact of_decide_eq_false rfl

/-- An answer says nothing of changes. -/
theorem Answer.idle_news {server : Server} {user : User} {line : Line}
    (answer : Answer server user line) (single : ' ' ∉ server.profile.domain)
    (uncut : line.Uncut) : line.heard.news.Idle := by
  cases answer with
  | @reply reply unwelcoming =>
      obtain ⟨read, heard⟩ := Server.heard_reply single uncut
      rw [heard, Heard.news, reply.ofName?_code]
      exact Heard.idle_newsOfReply (Reply.code_ne_welcome unwelcoming) _
  | pong params text =>
      have heard : ∃ read, ((server.addressee user).plainLine Command.pong.name params text).heard =
          ⟨server.profile.domain, Command.pong.name, read⟩ :=
        ⟨_, Line.heard_eq single (Command.isWord_name .pong) uncut⟩
      obtain ⟨read, heard⟩ := heard
      rw [heard, Heard.news, Command.ofName?_name]
      exact .inl rfl

/-! Lists of names, as they are written and read. -/

/-- A text of names that is read as these members. -/
structure Shows (text : Text) (members : List Member) : Prop where
  read : (text.splitOn ' ').map Member.ofShown = members
  kept : text.trimEndWhile Message.isLineEnd = text
  ne_nil : text ≠ []

namespace Shows

theorem shown_cases (member : Member) :
    member.shown = member.nick ∨ member.shown = '@' :: member.nick := by
  unfold Member.shown
  split
  · exact .inr rfl
  · exact .inl rfl

theorem shown_ne_nil_of_named {member : Member} (named : member.nick ≠ []) : member.shown ≠ [] := by
  rcases shown_cases member with same | same <;> simp [same, named]

variable {limit : Nat} {member : Member} (valid : Nickname.isValid limit member.nick = true)

include valid

theorem ofShown_shown : Member.ofShown member.shown = member := by
  obtain ⟨nick, operator⟩ := member
  cases operator with
  | true => rfl
  | false =>
      have unmarked : ∀ rest, nick ≠ '@' :: rest := by
        rintro rest rfl
        exact Nickname.not_mem_of_isValid valid (c := '@') (by decide) (by simp)
      change Member.ofShown nick = _
      unfold Member.ofShown
      split
      · rename_i rest
        exact absurd rfl (unmarked rest)
      · rfl

theorem space_not_mem_shown : ' ' ∉ member.shown := by
  have single := (Nickname.isWord_of_isValid valid).single
  rcases shown_cases member with same | same <;> simp [same, single]

theorem shown_kept : member.shown.trimEndWhile Message.isLineEnd = member.shown := by
  obtain ⟨c, last, visible⟩ := (Nickname.isWord_of_isValid valid).last
  have final : member.shown.getLast? = some c := by
    rcases shown_cases member with same | same
    · rw [same, last]
    · rw [same, List.getLast?_cons, last]
      rfl
  exact Text.trimEndWhile_of_last final (Text.isLineEnd_of_visible visible)

theorem shown_ne_nil : member.shown ≠ [] :=
  shown_ne_nil_of_named (Nickname.ne_nil_of_isValid valid)

theorem single : Shows member.shown [member] := by
  refine ⟨?_, shown_kept valid, shown_ne_nil valid⟩
  rw [List.splitOn_eq_singleton (space_not_mem_shown valid), List.map_singleton,
    ofShown_shown valid]

theorem append {text : Text} {members : List Member} (shows : Shows text members) :
    Shows (text ++ ' ' :: member.shown) (members ++ [member]) := by
  refine ⟨?_, ?_, by simp⟩
  · rw [List.splitOn_append_cons_self, List.map_append, shows.read,
      List.splitOn_eq_singleton (space_not_mem_shown valid), List.map_singleton,
      ofShown_shown valid]
  · have kept : Text.trimEndWhile Message.isLineEnd [' '] = [' '] := by decide
    have tail : Text.trimEndWhile Message.isLineEnd (' ' :: member.shown) = ' ' :: member.shown := by
      rw [← List.singleton_append, Text.trimEndWhile_append kept, shown_kept valid]
    rw [Text.trimEndWhile_append shows.kept, tail]

end Shows

/-- The names of members as they stand on one line. -/
def shownTogether (members : List Member) : Text :=
  [' '].intercalate (members.map Member.shown)

theorem shownTogether_singleton (member : Member) : shownTogether [member] = member.shown :=
  List.intercalate_singleton

theorem shownTogether_append {left right : List Member} (before : left ≠ []) (after : right ≠ []) :
    shownTogether (left ++ right) = shownTogether left ++ ' ' :: shownTogether right := by
  rw [shownTogether, List.map_append, Text.intercalate_append _ (mt List.map_eq_nil_iff.mp before)
    (mt List.map_eq_nil_iff.mp after), List.append_assoc, List.singleton_append]
  rfl

theorem byteLength_shown_le (member : Member) :
    member.shown.byteLength ≤ member.nick.byteLength + 1 := by
  have mark : '@'.utf8Size = 1 := by decide
  rcases Shows.shown_cases member with same | same
  · simp [same]
  · simp [same, mark, Nat.add_comm]

theorem Shows.together {limit : Nat} {members : List Member} (filled : members ≠ [])
    (valid : ∀ member ∈ members, Nickname.isValid limit member.nick = true) :
    Shows (shownTogether members) members := by
  induction members using List.reverseRecOn with
  | nil => exact absurd rfl filled
  | append_singleton members member inductionHypothesis =>
      obtain ⟨validRest, validMember⟩ := List.forall_mem_append.mp valid
      have validMember := List.forall_mem_singleton.mp validMember
      rcases eq_or_ne members [] with rfl | before
      · rw [List.nil_append, shownTogether_singleton]
        exact Shows.single validMember
      · rw [shownTogether_append before (List.cons_ne_nil _ _), shownTogether_singleton]
        exact (inductionHypothesis before validRest).append validMember

/-- Members on one line: somebody is there, and only one who is alone may be too long for it. -/
def FitTogether (budget : Nat) (members : List Member) : Prop :=
  members ≠ [] ∧ (members.length = 1 ∨ (shownTogether members).byteLength ≤ budget)

theorem FitTogether.alone (budget : Nat) (member : Member) : FitTogether budget [member] :=
  ⟨List.cons_ne_nil _ _, .inl rfl⟩

/-- The names that are left go on the line that was begun or on new ones. -/
theorem nameTexts_of_begun {budget : Nat} {begun members : List Member}
    (fit : FitTogether budget begun) (some : shownTogether begun ≠ [])
    (named : ∀ member ∈ members, member.nick ≠ []) :
    ∃ groups : List (List Member), nameTexts budget (shownTogether begun) members = groups.map shownTogether ∧
      groups.flatten = begun ++ members ∧ ∀ group ∈ groups, FitTogether budget group := by
  induction members generalizing begun with
  | nil =>
      rw [nameTexts, if_neg some]
      exact ⟨[begun], rfl, by simp, by simpa using fit⟩
  | cons member rest inductionHypothesis =>
      obtain ⟨name, names⟩ := List.forall_mem_cons.mp named
      rw [nameTexts, if_neg some]
      -- The name begins a new line if it does not fit on this one.
      split
      · obtain ⟨groups, texts, flat, each⟩ :=
          inductionHypothesis (FitTogether.alone budget member)
            (shownTogether_singleton member ▸ Shows.shown_ne_nil_of_named name) names
        rw [shownTogether_singleton] at texts
        exact ⟨begun :: groups, congrArg _ texts, by simp [flat],
          List.forall_mem_cons.mpr ⟨fit, each⟩⟩
      · rename_i small
        have longer := shownTogether_append fit.1 (List.cons_ne_nil member [])
        have space : ' '.utf8Size = 1 := by decide
        rw [shownTogether_singleton] at longer
        have bytes : (shownTogether (begun ++ [member])).byteLength ≤ budget := by
          have own := byteLength_shown_le member
          rw [longer, Text.byteLength_append, Text.byteLength_cons, space]
          omega
        obtain ⟨groups, texts, flat, each⟩ :=
          inductionHypothesis ⟨by simp, .inr bytes⟩ (by simp [longer]) names
        rw [longer] at texts
        exact ⟨groups, texts, by simp [flat], each⟩

/-- The members are spread over lines in their order, and nobody is left out. -/
theorem nameTexts_eq_map (budget : Nat) {members : List Member}
    (named : ∀ member ∈ members, member.nick ≠ []) :
    ∃ groups : List (List Member), nameTexts budget [] members = groups.map shownTogether ∧
      groups.flatten = members ∧ ∀ group ∈ groups, FitTogether budget group := by
  cases members with
  | nil => exact ⟨[], rfl, rfl, by simp⟩
  | cons member rest =>
      obtain ⟨name, names⟩ := List.forall_mem_cons.mp named
      rw [nameTexts, if_pos rfl, ← shownTogether_singleton]
      exact nameTexts_of_begun (FitTogether.alone budget member)
        (shownTogether_singleton member ▸ Shows.shown_ne_nil_of_named name) names

/-- However names are spread over lines, the lines together show all of them in order. -/
theorem nameTexts_show {limit budget : Nat} {members : List Member}
    (valid : ∀ member ∈ members, Nickname.isValid limit member.nick = true) :
    ∃ groups, List.Forall₂ Shows (nameTexts budget [] members) groups ∧
      groups.flatten = members := by
  obtain ⟨groups, texts, flat, fit⟩ := nameTexts_eq_map budget fun member present =>
    Nickname.ne_nil_of_isValid (valid member present)
  refine ⟨groups, ?_, flat⟩
  rw [texts, List.forall₂_map_left_iff, List.forall₂_same]
  intro group present
  refine Shows.together (fit group present).1 fun member inside => valid member ?_
  rw [← flat]
  exact List.mem_flatten_of_mem present inside

theorem Server.news_names {server : Server} {user : User} (single : ' ' ∉ server.profile.domain)
    (registered : user.registered = true) (nick : user.nick.IsWord) {channel shown : Text}
    {members : List Member} (isWord : channel.IsWord) (shows : Shows shown members)
    (uncut : (server.reply user (.names channel shown)).Uncut) :
    (server.reply user (.names channel shown)).heard.news = .listed channel members := by
  have equals : Text.IsWord ['='] :=
    ⟨⟨'=', [], rfl, by decide, by decide⟩, ⟨'=', rfl, by decide⟩, by decide⟩
  have kept : (Reply.names channel shown).text.map
      (fun text => text.trimEndWhile Message.isLineEnd) = some shown := congrArg some shows.kept
  rw [heard_reply_words single registered nick [['='], channel] rfl (by simp [equals, isWord])
      (Nat.le_of_ble_eq_true rfl) uncut, Heard.news, Reply.ofName?_code, kept, ← shows.read]
  rfl

end IrcServer
