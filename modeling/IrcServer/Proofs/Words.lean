import IrcServer.Line
import IrcServer.Message.Parser
import IrcServer.Name
import Mathlib.Data.List.Basic

namespace IrcServer

/-! Words: what a writer puts between spaces and a reader takes from between them. -/

namespace Text

/-- A text that is read back as it was written: without spaces, with no white space around it, and
with no colon in front. -/
structure IsWord (word : Text) : Prop where
  head : ∃ c rest, word = c :: rest ∧ isBlank c = false ∧ c ≠ ':'
  last : ∃ c, word.getLast? = some c ∧ isBlank c = false
  single : ' ' ∉ word

theorem trimStart_cons {c : Char} {rest : Text} (visible : isBlank c = false) :
    trimStart (c :: rest) = c :: rest := by
  rw [trimStart, List.dropWhile_cons_of_neg (by simp [visible])]

theorem trimEndWhile_of_last {drops : Char → Bool} {text : Text} {c : Char}
    (last : text.getLast? = some c) (kept : drops c = false) :
    text.trimEndWhile drops = text := by
  obtain ⟨front, rfl⟩ := List.getLast?_eq_some_iff.mp last
  rw [trimEndWhile, List.reverse_append, List.reverse_singleton, List.singleton_append,
    List.dropWhile_cons_of_neg (by simp [kept])]
  simp

theorem trimEndWhile_append {drops : Char → Bool} {left : Text}
    (kept : left.trimEndWhile drops = left) (right : Text) :
    (left ++ right).trimEndWhile drops = left ++ right.trimEndWhile drops := by
  unfold trimEndWhile at kept ⊢
  rw [List.reverse_append, List.dropWhile_append]
  split
  · rename_i nothing
    rw [kept, List.isEmpty_iff.mp nothing, List.reverse_nil, List.append_nil]
  · rw [List.reverse_append, List.reverse_reverse]

theorem trimEndWhile_append_of_all {drops : Char → Bool} (left : Text) {right : Text}
    (dropped : ∀ c ∈ right, drops c = true) :
    (left ++ right).trimEndWhile drops = left.trimEndWhile drops := by
  have all : ∀ c ∈ right.reverse, drops c = true := fun c member =>
    dropped c (List.mem_reverse.mp member)
  rw [trimEndWhile, List.reverse_append, List.dropWhile_append_of_pos all, trimEndWhile]

theorem trimEndWhile_begins (drops : Char → Bool) (text : Text) :
    text.trimEndWhile drops <+: text := by
  rw [← List.reverse_suffix, trimEndWhile, List.reverse_reverse]
  exact List.dropWhile_suffix _

theorem isLineEnd_of_visible {c : Char} (visible : isBlank c = false) :
    Message.isLineEnd c = false := by
  have notReturn : c ≠ '\r' := by
    rintro rfl
    exact absurd visible (by decide)
  have notFeed : c ≠ '\n' := by
    rintro rfl
    exact absurd visible (by decide)
  simp [Message.isLineEnd, notReturn, notFeed]

theorem isLineEnd_of_mem_crlf : ∀ c ∈ (crlf : Text), Message.isLineEnd c = true := by
  simp [crlf, Message.isLineEnd]

theorem intercalate_append (separator : Text) {left right : List Text} (before : left ≠ [])
    (after : right ≠ []) :
    separator.intercalate (left ++ right) =
      separator.intercalate left ++ separator ++ separator.intercalate right := by
  induction left with
  | nil => exact absurd rfl before
  | cons piece rest inductionHypothesis =>
      cases rest with
      | nil =>
          rw [List.singleton_append, List.intercalate_cons_of_ne_nil after,
            List.intercalate_singleton]
      | cons next rest =>
          rw [List.cons_append, List.intercalate_cons_of_ne_nil (by simp),
            inductionHypothesis (List.cons_ne_nil _ _), List.intercalate_cons_cons]
          simp only [List.append_assoc]

/-- What is in a list of names is in one of the names, unless it stands between them. -/
theorem mem_intercalate {separator c : Char} (differs : c ≠ separator) (pieces : List Text) :
    c ∈ [separator].intercalate pieces ↔ ∃ piece ∈ pieces, c ∈ piece := by
  induction pieces with
  | nil => simp
  | cons piece rest inductionHypothesis =>
      cases rest with
      | nil => simp
      | cons next rest =>
          rw [List.intercalate_cons_cons, List.mem_append, List.mem_append, inductionHypothesis]
          simp [differs]

namespace IsWord

variable {word : Text}

theorem ne_nil (isWord : word.IsWord) : word ≠ [] := by
  obtain ⟨c, rest, rfl, _⟩ := isWord.head
  exact List.cons_ne_nil _ _

theorem trim_eq (isWord : word.IsWord) : word.trim = word := by
  obtain ⟨c, rest, shape, visible, _⟩ := isWord.head
  obtain ⟨final, last, shown⟩ := isWord.last
  have started : word.trimStart = word := by rw [shape, trimStart_cons visible]
  rw [trim, started, trimEnd, trimEndWhile_of_last last shown]

theorem raw_eq (isWord : word.IsWord) : Param.raw (.word word) = ' ' :: word := by
  rw [Param.raw, isWord.trim_eq, if_neg isWord.ne_nil]

end IsWord

theorem splitWord_append {word tail : Text} (single : ' ' ∉ word)
    (apart : tail = [] ∨ ∃ rest, tail = ' ' :: rest) :
    splitWord (word ++ tail) = (word, tail.dropWhile (· = ' ')) := by
  have letters : ∀ c ∈ word, decide (c ≠ ' ') = true := by
    intro c member
    exact decide_eq_true fun same => single (same ▸ member)
  have stop : tail.takeWhile (· ≠ ' ') = [] ∧ tail.dropWhile (· ≠ ' ') = tail := by
    rcases apart with rfl | ⟨rest, rfl⟩ <;> simp
  rw [splitWord, List.takeWhile_append_of_pos letters, List.dropWhile_append_of_pos letters,
    stop.1, stop.2, List.append_nil]

end Text

/-- Parameters and a final text as a writer puts them after a command. -/
def written (words : List Text) (text : Option Text) : Text :=
  (words.flatMap fun word => ' ' :: word) ++ Line.rawText text

/-- Line endings are dropped from the final text only. -/
theorem trimEndWhile_written {words : List Text} (each : ∀ word ∈ words, word.IsWord)
    (text : Option Text) :
    (written words text).trimEndWhile Message.isLineEnd =
      written words (text.map fun text => text.trimEndWhile Message.isLineEnd) := by
  induction words with
  | nil =>
      cases text with
      | none => rfl
      | some text =>
          have kept : Text.trimEndWhile Message.isLineEnd [' ', ':'] = [' ', ':'] := by decide
          exact Text.trimEndWhile_append kept text
  | cons word rest inductionHypothesis =>
      obtain ⟨isWord, others⟩ := List.forall_mem_cons.mp each
      obtain ⟨c, last, visible⟩ := isWord.last
      have kept : Text.trimEndWhile Message.isLineEnd (' ' :: word) = ' ' :: word :=
        Text.trimEndWhile_of_last (by rw [List.getLast?_cons, last]; rfl)
          (Text.isLineEnd_of_visible visible)
      have split : ∀ final, written (word :: rest) final = (' ' :: word) ++ written rest final :=
        fun final => by rw [written, List.flatMap_cons, List.append_assoc, written]
      rw [split, split, Text.trimEndWhile_append kept, inductionHypothesis others]

theorem written_apart (words : List Text) (text : Option Text) :
    written words text = [] ∨ ∃ rest, written words text = ' ' :: rest := by
  cases words with
  | cons word rest => exact .inr ⟨_, rfl⟩
  | nil =>
      cases text with
      | none => exact .inl rfl
      | some text => exact .inr ⟨_, rfl⟩

/-- A text that does not start with a colon gives a word, while there is room for one. -/
theorem Message.parseParams_succ {text : Text} (filled : text ≠ []) (plain : text.head? ≠ some ':')
    (slots : Nat) :
    parseParams (slots + 1) text =
      (text.splitWord.1 :: (parseParams slots text.splitWord.2).1,
        (parseParams slots text.splitWord.2).2) := by
  rw [parseParams]
  · exact filled
  · rintro other rfl
    exact plain rfl

/-- Parameters are read as they were written. -/
theorem parseParams_written {words : List Text} (each : ∀ word ∈ words, word.IsWord)
    (text : Option Text) {slots : Nat} (fits : words.length ≤ slots) :
    (Message.parseParams slots ((written words text).dropWhile (· = ' '))).1 =
      words ++ text.toList := by
  induction words generalizing slots with
  | nil =>
      cases text with
      | none => cases slots <;> rfl
      | some text => cases slots <;> rfl
  | cons word rest inductionHypothesis =>
      obtain ⟨isWord, others⟩ := List.forall_mem_cons.mp each
      obtain ⟨c, letters, shape, visible, plain⟩ := isWord.head
      cases slots with
      | zero => cases fits
      | succ slots =>
          have apart := Text.splitWord_append isWord.single (written_apart rest text)
          have first : (written (word :: rest) text).dropWhile (· = ' ') =
              word ++ written rest text := by
            have notSpace : c ≠ ' ' := fun same => isWord.single (by simp [shape, same])
            rw [written, List.flatMap_cons, List.append_assoc, List.cons_append,
              List.dropWhile_cons_of_pos (by simp), shape, List.cons_append,
              List.dropWhile_cons_of_neg (by simp [notSpace])]
            rfl
          have read := inductionHypothesis others (Nat.le_of_succ_le_succ fits)
          rw [first]
          rw [shape, List.cons_append] at apart ⊢
          rw [Message.parseParams_succ (List.cons_ne_nil _ _)
            fun colon => plain (Option.some.inj colon), apart, read, List.cons_append]

namespace Nickname

/-- The codes of the characters of a nickname: the dash, the digits, and all from `A` to `}`. -/
theorem isChar_iff {c : Char} :
    isChar c = true ↔ c.toNat = 0x2D ∨ (0x30 ≤ c.toNat ∧ c.toNat ≤ 0x39) ∨
      (0x41 ≤ c.toNat ∧ c.toNat ≤ 0x7D) := by
  have dash : c = '-' ↔ c.toNat = 0x2D := by
    rw [← Char.toNat_inj]
    rfl
  unfold isChar Char.isAlphanum Char.isAlpha Char.isUpper Char.isLower Char.isDigit
  simp only [Bool.or_eq_true, Bool.and_eq_true, decide_eq_true_eq, dash, ge_iff_le, UInt32.le_iff_toNat_le,
    Char.reduceVal, UInt32.reduceToNat, Char.toNat]
  omega

theorem toNat_toLower (c : Char) :
    c.toLower.toNat = if 0x41 ≤ c.toNat ∧ c.toNat ≤ 0x5A then c.toNat + 0x20 else c.toNat := by
  have upper : (c.val ≥ 'A'.val ∧ c.val ≤ 'Z'.val) ↔ 0x41 ≤ c.toNat ∧ c.toNat ≤ 0x5A := by
    simp only [ge_iff_le, UInt32.le_iff_toNat_le, Char.reduceVal, UInt32.reduceToNat, Char.toNat]
  unfold Char.toLower
  split
  · rename_i large
    have small : c.toNat + 0x20 < 2 ^ 32 := by
      have bound := (upper.mp large).2
      omega
    rw [if_pos (upper.mp large)]
    change (c.val + 0x20).toNat = c.toNat + 0x20
    rw [UInt32.toNat_add]
    exact Nat.mod_eq_of_lt small
  · rename_i other
    rw [if_neg (mt upper.mpr other)]

theorem isChar_toLower (c : Char) : isChar c.toLower = isChar c := by
  rw [Bool.eq_iff_iff, isChar_iff, isChar_iff, toNat_toLower]
  split <;> omega

theorem visible_of_isChar {c : Char} (letter : isChar c = true) : isBlank c = false := by
  have codes := isChar_iff.mp letter
  simp only [isBlank, Bool.or_eq_false_iff, Bool.and_eq_false_iff, decide_eq_false_iff_not,
    beq_eq_false_iff_ne]
  omega

/-- A text is made of characters of nicknames if its folded form is. -/
theorem all_isChar_fold (name : Text) : name.fold.all isChar = name.all isChar := by
  rw [Text.fold, List.all_map]
  exact congrArg name.all (funext isChar_toLower)

theorem isWord_of_all_isChar {name : Text} (some : name ≠ []) (letters : name.all isChar = true) :
    name.IsWord := by
  have letter : ∀ c ∈ name, isChar c = true := List.all_eq_true.mp letters
  have code : ∀ c ∈ name, c ≠ ':' ∧ c ≠ ' ' := by
    intro c member
    refine ⟨?_, ?_⟩ <;> rintro rfl <;> exact absurd (letter _ member) (by decide)
  refine ⟨?_, ?_, fun member => (code _ member).2 rfl⟩
  · obtain ⟨c, rest, rfl⟩ := List.exists_cons_of_ne_nil some
    exact ⟨c, rest, rfl, visible_of_isChar (letter c (by simp)), (code c (by simp)).1⟩
  · have last := List.getLast_mem some
    exact ⟨_, List.getLast?_eq_some_getLast some, visible_of_isChar (letter _ last)⟩

variable {limit : Nat} {name : Text}

theorem ne_nil_of_isValid (valid : isValid limit name = true) : name ≠ [] := by
  rintro rfl
  cases valid

theorem all_isChar_of_isValid (valid : isValid limit name = true) : name.all isChar = true := by
  simp only [isValid, Bool.and_eq_true] at valid
  exact valid.1.2

theorem isWord_of_isValid (valid : isValid limit name = true) : name.IsWord :=
  isWord_of_all_isChar (ne_nil_of_isValid valid) (all_isChar_of_isValid valid)

theorem isWord_of_fold_eq {other : Text} (valid : isValid limit name = true)
    (same : other.fold = name.fold) : other.IsWord := by
  refine isWord_of_all_isChar ?_ ?_
  · rintro rfl
    have empty : name.fold = [] := same.symm
    exact ne_nil_of_isValid valid (List.map_eq_nil_iff.mp empty)
  · rw [← all_isChar_fold, same, all_isChar_fold]
    exact all_isChar_of_isValid valid

theorem not_mem_of_isValid (valid : isValid limit name = true) {c : Char}
    (strange : isChar c = false) : c ∉ name := by
  intro member
  have letter := List.all_eq_true.mp (all_isChar_of_isValid valid) c member
  rw [strange] at letter
  cases letter

end Nickname

namespace ChannelName

/-- A channel name is a word unless white space stands at its end. -/
theorem isWord_of_isValid {limit : Nat} {name : Text} (valid : isValid limit name = true)
    (tidy : name.getLast?.any isBlank = false) : name.IsWord := by
  simp only [isValid, Bool.and_eq_true, decide_eq_true_eq] at valid
  obtain ⟨⟨⟨hash, _⟩, _⟩, letters⟩ := valid
  refine ⟨?_, ?_, ?_⟩
  · obtain ⟨rest, rfl⟩ := List.head?_eq_some_iff.mp hash
    exact ⟨'#', rest, rfl, by decide, by decide⟩
  · have some : name ≠ [] := by
      rintro rfl
      cases hash
    have last := List.getLast?_eq_some_getLast some
    rw [last, Option.any_some] at tidy
    exact ⟨_, last, tidy⟩
  · intro member
    exact absurd (List.all_eq_true.mp letters _ member) (by decide)

end ChannelName

end IrcServer
