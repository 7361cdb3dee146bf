import IrcServer.Proofs.Words
import IrcServer.Server.Report

namespace IrcServer

/-! Control characters that nothing holds.

A control character is in no word that the server writes of its own.  If it is in none of the texts
that a reply carries, it is not in the line that is written for the reply. -/

variable {bad : Char}

namespace Text

def isPrintable (text : Text) : Bool :=
  text.all fun c => 32 ≤ c.toNat

theorem lacks_printable (control : bad.toNat < 32) {text : Text}
    (printable : text.isPrintable = true) : bad ∉ text := by
  intro member
  have visible := List.all_eq_true.mp printable bad member
  simp at visible
  omega

theorem lacks_ofNat (control : bad.toNat < 32) (n : Nat) : bad ∉ ofNat n := by
  intro member
  have digit := Nat.isDigit_of_mem_toDigits (by decide) (by decide) member
  simp only [Char.isDigit, Bool.and_eq_true, decide_eq_true_eq] at digit
  have number : 48 ≤ bad.toNat := UInt32.le_iff_toNat_le.mp digit.1
  omega

theorem takeBytes_prefix (limit : Nat) (text : Text) : text.takeBytes limit <+: text := by
  induction text generalizing limit with
  | nil => exact List.prefix_refl _
  | cons c rest inductionHypothesis =>
      rw [takeBytes]
      split
      · exact List.cons_prefix_cons.mpr ⟨rfl, inductionHypothesis _⟩
      · exact List.nil_prefix

theorem trim_sublist (text : Text) : text.trim.Sublist text :=
  (trimEndWhile_begins _ _).sublist.trans (List.dropWhile_sublist _)

theorem not_mem_of_mem_splitOn {separator : Char} {text piece : Text}
    (member : piece ∈ text.splitOn separator) : separator ∉ piece := by
  by_cases inside : separator ∈ text
  · obtain ⟨front, back, shape, clean⟩ := List.eq_append_cons_of_mem inside
    have shorter : back.length < text.length := by
      simp [shape]
      omega
    rw [shape, List.splitOn_append_cons_self, List.splitOn_eq_singleton clean, List.mem_append,
      List.mem_singleton] at member
    rcases member with same | later
    · exact same ▸ clean
    · exact not_mem_of_mem_splitOn later
  · rw [List.splitOn_eq_singleton inside, List.mem_singleton] at member
    exact member ▸ inside
termination_by text.length

theorem subset_of_mem_splitOn {separator : Char} {text piece : Text}
    (member : piece ∈ text.splitOn separator) : piece ⊆ text := by
  have whole : [separator].intercalate (text.splitOn separator) = text :=
    List.intercalate_splitOn separator
  intro c inside
  have differs : c ≠ separator := fun same => not_mem_of_mem_splitOn member (same ▸ inside)
  rw [← whole, mem_intercalate differs]
  exact ⟨piece, member, inside⟩

/-- A line of a text holds no LF. -/
theorem lineFeed_not_mem_lines {text line : Text} (member : line ∈ text.lines) : '\n' ∉ line := by
  have pieces : ∀ piece ∈ text.splitOn '\n', '\n' ∉ piece := fun _ => not_mem_of_mem_splitOn
  have ended : ∀ line ∈ (text.splitOn '\n').dropLast.map (fun line =>
      if line.getLast? = some '\r' then line.dropLast else line), '\n' ∉ line := by
    intro line known
    obtain ⟨piece, held, rfl⟩ := List.mem_map.mp known
    have clean := pieces piece ((List.dropLast_sublist _).subset held)
    split
    · exact fun inside => clean ((List.dropLast_sublist _).subset inside)
    · exact clean
  simp only [lines] at member
  split at member
  · exact ended line member
  · exact ended line member
  · rename_i last _ found
    rcases List.mem_append.mp member with known | same
    · exact ended line known
    · rw [List.mem_singleton.mp same]
      exact pieces _ (List.mem_of_getLast? found)

theorem subset_of_mem_pieces {text piece : Text} (member : piece ∈ text.pieces) : piece ⊆ text :=
  subset_of_mem_splitOn (List.mem_filter.mp member).1

end Text

theorem Param.lacks_raw (control : bad.toNat < 32) {text : Text} (clean : bad ∉ text) :
    bad ∉ (Param.word text).raw ∧ bad ∉ (Param.exact text).raw := by
  have space : bad ≠ ' ' := by
    intro same
    simp [same] at control
  have trimmed : bad ∉ text.trim := fun member => clean (text.trim_sublist.subset member)
  constructor
  · rw [Param.raw]
    split <;> simp [space, trimmed]
  · simp [Param.raw, space, clean]

theorem Command.lacks_name (control : bad.toNat < 32) (command : Command) : bad ∉ command.name := by
  apply Text.lacks_printable control
  cases command <;> rfl

theorem Mode.Change.lacks_modeString (control : bad.toNat < 32) (change : Mode.Change) :
    bad ∉ change.modeString := by
  apply Text.lacks_printable control
  rw [modeString]
  cases change.enabled <;> rfl

namespace Reply

/-- The texts that a reply carries. -/
def data : Reply → List Text
  | welcome text | yourHost text | created text | myInfo text | whoisOperator text
  | endOfWhois text | noTopic text | endOfNames text | motdStart text | motdLine text
  | noSuchNick text | noSuchChannel text | cannotSend text | unknownCommand text
  | erroneousNickname text | nicknameInUse text | notOnChannel text | notChannelOperator text =>
      [text]
  | away first second | whoisServer first second | whoisChannels first second
  | listItem first _ second | topic first second | names first second
  | userNotInChannel first second => [first, second]
  | whoisUser nick user host real => [nick, user, host, real]
  | unknownMode letter channel => [[letter], channel]
  | _ => []

/-- None of the texts that a reply carries holds the character. -/
def Lacks (bad : Char) (reply : Reply) : Prop :=
  ∀ text ∈ reply.data, bad ∉ text

theorem lacks_code (control : bad.toNat < 32) (reply : Reply) : bad ∉ reply.code := by
  apply Text.lacks_printable control
  cases reply <;> rfl

/-- A parameter of a reply is one of its texts, a word of the server's own, or a number. -/
theorem params_of_data (reply : Reply) : ∀ param ∈ reply.params,
    (∃ text, param = .word text ∧ (text ∈ reply.data ∨ text.isPrintable = true)) ∨
      ∃ n, param = .exact (Text.ofNat n) := by
  have names : ∀ command : Command, command.name.isPrintable = true := by
    intro command
    cases command <;> rfl
  have constants : Program.release.isPrintable = true ∧ Mode.userModes.isPrintable = true ∧
      Mode.channelModes.isPrintable = true := by decide
  have signs : Text.isPrintable ['*'] = true ∧ Text.isPrintable ['='] = true := by decide
  cases reply <;> simp [params, data, names, constants, signs]

theorem lacks_params (control : bad.toNat < 32) {reply : Reply}
    (clean : reply.Lacks bad) : ∀ param ∈ reply.params, bad ∉ param.raw := by
  intro param member
  rcases reply.params_of_data param member with ⟨text, rfl, carried | printable⟩ | ⟨n, rfl⟩
  · exact (Param.lacks_raw control (clean text carried)).1
  · exact (Param.lacks_raw control (Text.lacks_printable control printable)).1
  · exact (Param.lacks_raw control (Text.lacks_ofNat control n)).2

theorem lacks_text (control : bad.toNat < 32) {reply : Reply}
    (clean : reply.Lacks bad) : ∀ text ∈ reply.text, bad ∉ text := by
  have literal : ∀ text : Text, text.isPrintable = true → bad ∉ text := fun _ =>
    Text.lacks_printable control
  have name := Command.lacks_name control
  have number := @Text.lacks_ofNat bad control
  cases reply <;>
    simp (disch := decide) only [text, Lacks, data, List.forall_mem_cons, Option.mem_def,
      Option.some.injEq, forall_eq', List.mem_append, literal, number, name, or_false, false_or,
      not_false_eq_true, reduceCtorEq, false_imp_iff, implies_true] at clean ⊢
  all_goals try simp [clean]

end Reply

/-- A line is made of its origin, its command, its parameters and its text, and of spaces and
colons. -/
theorem Line.lacks_raw (control : bad.toNat < 32) {line : Line} (origin : bad ∉ line.origin)
    (command : bad ∉ line.command) (params : ∀ param ∈ line.params, bad ∉ param.raw)
    (text : ∀ text ∈ line.text, bad ∉ text) : bad ∉ line.raw := by
  have signs : bad ≠ ' ' ∧ bad ≠ ':' := by
    constructor <;> intro same <;> simp [same] at control
  have first : bad ∉ rawOrigin line.origin := by
    rw [rawOrigin]
    split <;> simp [signs, origin]
  have last : bad ∉ rawText line.text := by
    cases given : line.text with
    | none => simp [rawText]
    | some final => simp [rawText, signs, text final given]
  simp [raw, first, command, last]
  exact params

theorem Addressee.lacks_reply (control : bad.toNat < 32) {addressee : Addressee}
    (domain : bad ∉ addressee.domain) (nick : bad ∉ addressee.nick) {reply : Reply}
    (clean : reply.Lacks bad) : bad ∉ (addressee.reply reply).raw := by
  apply Line.lacks_raw control domain (reply.lacks_code control)
  · exact List.forall_mem_cons.mpr
      ⟨(Param.lacks_raw control nick).1, reply.lacks_params control clean⟩
  · exact reply.lacks_text control clean

/-! Lists of names. -/

theorem Member.lacks_shown (control : bad.toNat < 32) {member : Member} (clean : bad ∉ member.nick) :
    bad ∉ member.shown := by
  have sign : bad ≠ '@' := by
    intro same
    simp [same] at control
  rw [shown]
  split <;> simp [sign, clean]

theorem lacks_nameTexts (control : bad.toNat < 32) (budget : Nat) {line : Text}
    {members : List Member} (begun : bad ∉ line) (clean : ∀ member ∈ members, bad ∉ member.nick) :
    ∀ text ∈ nameTexts budget line members, bad ∉ text := by
  have space : bad ≠ ' ' := by
    intro same
    simp [same] at control
  induction members generalizing line with
  | nil =>
      rw [nameTexts]
      split <;> simp [begun]
  | cons member rest inductionHypothesis =>
      obtain ⟨first, others⟩ := List.forall_mem_cons.mp clean
      have shown := member.lacks_shown control first
      rw [nameTexts]
      split
      · exact inductionHypothesis shown others
      split
      · exact List.forall_mem_cons.mpr ⟨begun, inductionHypothesis shown others⟩
      · exact inductionHypothesis (by simp [begun, space, shown]) others

end IrcServer
