import IrcServer.Proofs.RoundTrip
import Mathlib.Data.List.TakeWhile

namespace IrcServer

/-! The grammar of a line, said without reading it from left to right.

`Text.words` are the runs of characters between spaces, `Text.fromWord` is what a text holds from
one of them on, and `Message.ofBody?` puts a message together from these two alone.  It gives what
the reader gives for every line (`Message.parse?_eq_ofBody?`).
-/

namespace Text

/-- The maximal runs of characters other than space. -/
def words (text : Text) : List Text :=
  (text.splitOn ' ').filter (· ≠ [])

/-- The text from the start of the word at `index`, empty if there is no such word. -/
def fromWord : Nat → Text → Text
  | 0, text => text.dropWhile (· = ' ')
  | index + 1, text => fromWord index ((text.dropWhile (· = ' ')).dropWhile (· ≠ ' '))

/-- Words with spaces after each of them: one, and as many more as `gaps` says. -/
def respaced (gaps : Nat → Nat) : List Text → Text
  | [] => []
  | word :: rest =>
      word ++ (List.replicate (gaps 0 + 1) ' ' ++ respaced (fun index => gaps (index + 1)) rest)

/-- Words split at a space.  All that is said of `words` follows from this equation. -/
theorem words_append_space (left right : Text) :
    words (left ++ ' ' :: right) = words left ++ words right := by
  simp [words, List.splitOn_append_cons_self]

@[simp] theorem words_nil : words [] = [] := by
  simp [words]

@[simp] theorem words_space (text : Text) : words (' ' :: text) = words text := by
  have split := words_append_space [] text
  simpa using split

theorem words_word {word : Text} (filled : word ≠ []) (single : ' ' ∉ word) :
    words word = [word] := by
  simp [words, List.splitOn_eq_singleton single, filled]

@[simp] theorem words_spaces (gap : Nat) (text : Text) :
    words (List.replicate gap ' ' ++ text) = words text := by
  induction gap with
  | zero => rfl
  | succ gap inductionHypothesis =>
      rw [List.replicate_succ, List.cons_append, words_space, inductionHypothesis]

@[simp] theorem words_dropWhile (text : Text) : words (text.dropWhile (· = ' ')) = words text := by
  induction text with
  | nil => rfl
  | cons c rest inductionHypothesis =>
      by_cases space : c = ' '
      · simp [space, inductionHypothesis]
      · simp [space]

theorem fromWord_spaces (index gap : Nat) (text : Text) :
    fromWord index (List.replicate gap ' ' ++ text) = fromWord index text := by
  have dropped : (List.replicate gap ' ' ++ text).dropWhile (· = ' ') =
      text.dropWhile (· = ' ') :=
    List.dropWhile_append_of_pos fun c member => by simp [List.eq_of_mem_replicate member]
  cases index with
  | zero => exact dropped
  | succ index => rw [fromWord, fromWord, dropped]

@[simp] theorem fromWord_nil (index : Nat) : fromWord index [] = [] := by
  induction index with
  | zero => rfl
  | succ index inductionHypothesis => exact inductionHypothesis

theorem fromWord_zero {text : Text} (begun : text.head? ≠ some ' ') : fromWord 0 text = text :=
  dropWhile_spaces 0 begun

theorem fromWord_suffix (index : Nat) (text : Text) : fromWord index text <:+ text := by
  induction index generalizing text with
  | zero => exact List.dropWhile_suffix _
  | succ index inductionHypothesis =>
      exact (inductionHypothesis _).trans
        ((List.dropWhile_suffix _).trans (List.dropWhile_suffix _))

namespace Split

variable {text word rest : Text}

theorem begun (split : Split text word rest) (filled : word ≠ []) : text.head? ≠ some ' ' := by
  rw [split.head?_eq filled]
  exact fun space => split.single (List.mem_of_mem_head? space)

theorem words_eq (split : Split text word rest) (filled : word ≠ []) :
    words text = word :: words rest := by
  obtain ⟨gap, rfl, apart⟩ := split.shape
  rcases spaces_apart apart with nothing | ⟨others, shape⟩
  · have empty : rest = [] := (List.append_eq_nil_iff.mp nothing).2
    rw [nothing, List.append_nil, words_word filled split.single, empty, words_nil]
  · rw [shape, words_append_space, words_word filled split.single, ← words_space others, ← shape,
      words_spaces, List.singleton_append]

theorem fromWord_succ (split : Split text word rest) (filled : word ≠ []) (index : Nat) :
    fromWord (index + 1) text = fromWord index rest := by
  have letters : ∀ c ∈ word, decide (c ≠ ' ') = true := by
    intro c member
    exact decide_eq_true fun same => split.single (same ▸ member)
  have begun : text.dropWhile (· = ' ') = text := dropWhile_spaces 0 (split.begun filled)
  obtain ⟨gap, rfl, apart⟩ := split.shape
  have stop : (List.replicate gap ' ' ++ rest).dropWhile (· ≠ ' ') =
      List.replicate gap ' ' ++ rest := by
    rcases spaces_apart apart with nothing | ⟨others, shape⟩
    · simp [nothing]
    · simp [shape]
  rw [fromWord, begun, List.dropWhile_append_of_pos letters, stop, fromWord_spaces]

end Split

theorem fromWord_zero_begun (text : Text) : (fromWord 0 text).head? ≠ some ' ' := by
  intro space
  have first := List.head?_dropWhile_not (· = ' ') text
  rw [fromWord] at space
  simp [space] at first

/-- A text with something else than spaces splits after the spaces in front. -/
theorem split_fromWord_zero {text : Text} (filled : fromWord 0 text ≠ []) :
    ∃ word rest, Split (fromWord 0 text) word rest ∧ word ≠ [] := by
  have split := split_splitWord (fromWord 0 text)
  exact ⟨_, _, split, split.word_ne_nil filled (fromWord_zero_begun text)⟩

theorem fromWord_fromWord_zero (index : Nat) (text : Text) :
    fromWord index (fromWord 0 text) = fromWord index text := by
  have idle : fromWord 0 (fromWord 0 text) = fromWord 0 text :=
    fromWord_zero (fromWord_zero_begun text)
  cases index with
  | zero => exact idle
  | succ index =>
      simp only [fromWord] at idle ⊢
      rw [idle]

theorem fromWord_fromWord (first second : Nat) (text : Text) :
    fromWord second (fromWord first text) = fromWord (first + second) text := by
  induction first generalizing text with
  | zero => rw [fromWord_fromWord_zero, Nat.zero_add]
  | succ first inductionHypothesis =>
      rw [Nat.add_right_comm, fromWord, inductionHypothesis, fromWord]

/-- The word at an index is what the text from there on starts with. -/
theorem getElem?_words (index : Nat) (text : Text) :
    (words text)[index]? =
      if fromWord index text = [] then none
      else some ((fromWord index text).takeWhile (· ≠ ' ')) := by
  induction index generalizing text with
  | zero =>
      rw [← words_dropWhile]
      change (words (fromWord 0 text))[0]? = _
      by_cases nothing : fromWord 0 text = []
      · simp [nothing]
      · obtain ⟨word, rest, split, filled⟩ := split_fromWord_zero nothing
        have first : (fromWord 0 text).takeWhile (· ≠ ' ') = word :=
          congrArg Prod.fst (splitWord_eq_iff.mpr split)
        rw [split.words_eq filled, if_neg nothing, first]
        rfl
  | succ index inductionHypothesis =>
      rw [← words_dropWhile, ← fromWord_fromWord_zero]
      change (words (fromWord 0 text))[index + 1]? = _
      by_cases nothing : fromWord 0 text = []
      · simp [nothing]
      · obtain ⟨word, rest, split, filled⟩ := split_fromWord_zero nothing
        rw [split.words_eq filled, split.fromWord_succ filled, List.getElem?_cons_succ]
        exact inductionHypothesis rest

theorem fromWord_eq_nil_iff {index : Nat} {text : Text} :
    fromWord index text = [] ↔ (words text).length ≤ index := by
  rw [← List.getElem?_eq_none_iff, getElem?_words]
  split <;> simp_all

theorem words_fromWord (index : Nat) (text : Text) :
    words (fromWord index text) = (words text).drop index := by
  apply List.ext_getElem?
  intro place
  rw [List.getElem?_drop, getElem?_words, getElem?_words, fromWord_fromWord]

theorem mem_words {text word : Text} (member : word ∈ words text) : word ≠ [] ∧ ' ' ∉ word := by
  obtain ⟨index, found⟩ := List.mem_iff_getElem?.mp member
  obtain ⟨_, filled⟩ := List.mem_filter.mp member
  rw [getElem?_words] at found
  split at found
  · cases found
  · refine ⟨by simpa using filled, fun space => ?_⟩
    rw [← Option.some.inj found] at space
    have letter := List.all_eq_true.mp List.all_takeWhile _ space
    simp at letter

/-- A character other than space is in a text if it is in one of its words. -/
theorem mem_iff_mem_words {c : Char} (visible : c ≠ ' ') {text : Text} :
    c ∈ text ↔ ∃ word ∈ words text, c ∈ word := by
  have whole := mem_intercalate visible (text.splitOn ' ')
  rw [List.intercalate_splitOn] at whole
  rw [whole]
  constructor
  · rintro ⟨piece, member, inside⟩
    exact ⟨piece, List.mem_filter.mpr ⟨member, by simp [List.ne_nil_of_mem inside]⟩, inside⟩
  · rintro ⟨word, member, inside⟩
    exact ⟨word, (List.mem_filter.mp member).1, inside⟩

/-! Texts with other gaps between their words. -/

section Respaced

variable {text : Text} {given : List Text}

theorem words_respaced (each : ∀ word ∈ given, word ≠ [] ∧ ' ' ∉ word) (gaps : Nat → Nat) :
    words (respaced gaps given ++ text) = given ++ words text := by
  induction given generalizing gaps with
  | nil => rfl
  | cons word rest inductionHypothesis =>
      obtain ⟨⟨filled, single⟩, others⟩ := List.forall_mem_cons.mp each
      rw [respaced, List.append_assoc, List.append_assoc, List.replicate_succ, List.cons_append,
        words_append_space, words_spaces, words_word filled single, inductionHypothesis others,
        List.cons_append, List.nil_append, List.cons_append]

theorem fromWord_respaced (each : ∀ word ∈ given, word ≠ [] ∧ ' ' ∉ word) (gaps : Nat → Nat)
    (index : Nat) :
    fromWord (given.length + index) (respaced gaps given ++ text) = fromWord index text := by
  induction given generalizing gaps with
  | nil => rw [List.length_nil, Nat.zero_add, respaced, List.nil_append]
  | cons word rest inductionHypothesis =>
      obtain ⟨⟨filled, single⟩, others⟩ := List.forall_mem_cons.mp each
      have split := splitWord_eq_iff.mp (@splitWord_append word
        (' ' :: (List.replicate (gaps 0) ' ' ++
          (respaced (fun index => gaps (index + 1)) rest ++ text))) single (.inr ⟨_, rfl⟩))
      rw [respaced, List.append_assoc, List.append_assoc, List.replicate_succ, List.cons_append,
        List.length_cons, Nat.add_right_comm, split.fromWord_succ filled]
      change fromWord _ (fromWord 0 (' ' :: _)) = _
      rw [fromWord_fromWord_zero, ← List.cons_append, ← List.replicate_succ, fromWord_spaces,
        inductionHypothesis others]

theorem getLast?_respaced {gaps : Nat → Nat} {c : Char}
    (last : (respaced gaps given).getLast? = some c) : c = ' ' := by
  induction given generalizing gaps with
  | nil => cases last
  | cons word rest inductionHypothesis =>
      by_cases nothing : rest = []
      · simpa [respaced, nothing, List.getLast?_append, List.getLast?_replicate] using last.symm
      · have more : respaced (fun index => gaps (index + 1)) rest ≠ [] := by
          cases rest with
          | nil => exact absurd rfl nothing
          | cons => simp [respaced]
        rw [respaced, ← List.append_assoc, List.getLast?_append_of_ne_nil _ more] at last
        exact inductionHypothesis last

end Respaced

end Text

namespace Verb

/-- The command that a word names up to case, or else the word. -/
theorem ofWord_eq_command_iff {word : Text} {command : Command} :
    ofWord word = .command command ↔ command.name.fold = word.fold := by
  rw [← Command.ofName?_eq_some_iff_fold, ofWord]
  split
  · rename_i other found
    rw [found, Verb.command.injEq, Option.some.injEq]
  · rename_i unknown
    simp [unknown]

theorem ofWord_of_unknown {word : Text}
    (unknown : ∀ command : Command, command.name.fold ≠ word.fold) :
    ofWord word = .other word := by
  rcases ofWord_cases word with ⟨command, _, same⟩ | same
  · exact absurd (ofWord_eq_command_iff.mp same) (unknown command)
  · exact same

end Verb

namespace Message

open Text

/-- Where the words of a list of parameters end and the rest of the line begins: at the first word
with a colon in front, or after `slots` words. -/
def restIndex (slots : Nat) (words : List Text) : Nat :=
  (words.take slots).findIdx (·.head? = some ':')

/-- A text without the colon that may mark it. -/
def unmarked : Text → Text
  | ':' :: rest => rest
  | text => text

/-- The parameters of a text: words, and the rest of the line after them if there is one. -/
def paramsFrom (slots : Nat) (text : Text) : List Text × Bool :=
  let last := restIndex slots text.words
  if last < text.words.length then
    (text.words.take last ++ [unmarked (text.fromWord last)], true)
  else (text.words, false)

theorem unmarked_of_plain {text : Text} (plain : text.head? ≠ some ':') : unmarked text = text := by
  unfold unmarked
  split
  · exact absurd rfl plain
  · rfl

theorem restIndex_zero (words : List Text) : restIndex 0 words = 0 := by
  simp [restIndex]

theorem restIndex_marked (slots : Nat) {first : Text} (marked : first.head? = some ':')
    (words : List Text) : restIndex slots (first :: words) = 0 := by
  cases slots with
  | zero => exact restIndex_zero _
  | succ slots => simp [restIndex, List.findIdx_cons, marked]

theorem restIndex_plain (slots : Nat) {first : Text} (plain : first.head? ≠ some ':')
    (words : List Text) :
    restIndex (slots + 1) (first :: words) = restIndex slots words + 1 := by
  simp [restIndex, List.findIdx_cons, plain]

/-- Reading parameter by parameter gives the words and the rest of the line. -/
theorem parseParams_eq_paramsFrom (slots : Nat) {text : Text} (begun : text.head? ≠ some ' ') :
    parseParams slots text = paramsFrom slots text := by
  induction slots generalizing text with
  | zero =>
      by_cases nothing : text = []
      · subst nothing
        simp [parseParams, paramsFrom]
      have some : 0 < text.words.length := by
        rw [Nat.pos_iff_ne_zero, ne_eq, ← Nat.le_zero, ← fromWord_eq_nil_iff, fromWord_zero begun]
        exact nothing
      by_cases colon : text.head? = Option.some ':'
      · obtain ⟨rest, rfl⟩ := List.head?_eq_some_iff.mp colon
        simp [parseParams, paramsFrom, restIndex_zero, some, fromWord_zero begun, unmarked]
      · simp [parseParams_zero nothing colon, paramsFrom, restIndex_zero, some,
          fromWord_zero begun, unmarked_of_plain colon]
  | succ slots inductionHypothesis =>
      by_cases nothing : text = []
      · subst nothing
        simp [parseParams, paramsFrom]
      have split := split_splitWord text
      have filled := split.word_ne_nil nothing begun
      by_cases colon : text.head? = Option.some ':'
      · have marked : text.splitWord.1.head? = Option.some ':' := by
          rw [← split.head?_eq filled, colon]
        obtain ⟨rest, rfl⟩ := List.head?_eq_some_iff.mp colon
        simp [parseParams, paramsFrom, split.words_eq filled, restIndex_marked _ marked,
          fromWord_zero begun, unmarked]
      · have plain : text.splitWord.1.head? ≠ Option.some ':' := by
          rwa [← split.head?_eq filled]
        rw [parseParams_succ nothing colon, inductionHypothesis split.started, paramsFrom,
          paramsFrom, split.words_eq filled, restIndex_plain _ plain]
        simp only [List.length_cons, Nat.add_lt_add_iff_right, List.take_succ_cons,
          split.fromWord_succ filled]
        split <;> rfl

/-- The place of the verb among the words of a body. -/
def verbIndex (body : Text) : Nat :=
  if body.head? = some ':' then 1 else 0

/-- A body that holds no message: without a verb, or with a NUL. -/
def Void (body : Text) : Prop :=
  body = [] ∨ Char.ofNat 0 ∈ body ∨
    (body.head? = some ':' ∧ ∀ c ∈ body.dropWhile (· ≠ ' '), c = ' ')

instance (body : Text) : Decidable (Void body) :=
  inferInstanceAs (Decidable (_ ∨ _))

/-- The message in a body, by its words. -/
def ofBody? (body : Text) : Option Message :=
  if Void body then none
  else
    let params := paramsFrom (maxParams - 1) (body.fromWord (verbIndex body + 1))
    some
      { origin := if body.head? = some ':' then some (body.words.headD []).tail else none
        verb := .ofWord (body.words.getD (verbIndex body) [])
        params := params.1
        trailing := params.2 }

/-- A body that begins like a line's body is one word and what follows it. -/
theorem split_body {line : Text} (filled : body line ≠ []) :
    Split (body line) (body line).splitWord.1 (body line).splitWord.2 ∧
      (body line).splitWord.1 ≠ [] := by
  have split := split_splitWord (body line)
  refine ⟨split, split.word_ne_nil filled fun space => ?_⟩
  exact absurd (body_begun line ' ' space) (by decide)

/-- Behind an origin there are only spaces if there is no word. -/
theorem spaces_iff {text word rest : Text} (split : Split text word rest) :
    (∀ c ∈ text.dropWhile (· ≠ ' '), c = ' ') ↔ rest = [] := by
  have letters : ∀ c ∈ word, decide (c ≠ ' ') = true := by
    intro c member
    exact decide_eq_true fun same => split.single (same ▸ member)
  have started := split.started
  obtain ⟨gap, rfl, apart⟩ := split.shape
  have stop : (word ++ (List.replicate gap ' ' ++ rest)).dropWhile (· ≠ ' ') =
      List.replicate gap ' ' ++ rest := by
    rw [List.dropWhile_append_of_pos letters]
    rcases spaces_apart apart with nothing | ⟨others, shape⟩
    · simp [nothing]
    · simp [shape]
  rw [stop]
  constructor
  · intro spaces
    cases rest with
    | nil => rfl
    | cons c others =>
        have space := spaces c (by simp)
        exact absurd (by simp [space]) started
  · rintro rfl
    simp

/-- The reader finds in every line the message that its body holds by its words. -/
theorem parse?_eq_ofBody? (line : Text) : parse? line = ofBody? (body line) := by
  by_cases clean : body line = [] ∨ Char.ofNat 0 ∈ body line
  · have void : Void (body line) := clean.imp id .inl
    rw [parse?, if_pos clean, ofBody?, if_pos void]
  obtain ⟨split, filled⟩ := split_body fun nothing => clean (.inl nothing)
  by_cases colon : (body line).head? = some ':'
  · obtain ⟨after, shape⟩ : ∃ after : Text, body line = ':' :: after :=
      List.head?_eq_some_iff.mp colon
    have inside := split_splitWord after
    have first : (body line).splitWord = (':' :: after.splitWord.1, after.splitWord.2) := by
      rw [shape]
      simp [splitWord]
    rw [first] at split filled
    dsimp only at split filled
    have words := split.words_eq filled
    have spaces := spaces_iff split
    have origin : parseOrigin (body line) = (some after.splitWord.1, after.splitWord.2) := by
      rw [shape]
      rfl
    by_cases nothing : after.splitWord.2 = []
    · have void : Void (body line) := .inr (.inr ⟨colon, spaces.mpr nothing⟩)
      have empty : splitWord [] = ([], []) := rfl
      simp [parse?, ofBody?, if_pos void, origin, nothing, empty]
    · have void : ¬ Void (body line) := by
        rintro (empty | nul | ⟨-, blank⟩)
        · exact clean (.inl empty)
        · exact clean (.inr nul)
        · exact nothing (spaces.mp blank)
      have next := split_splitWord after.splitWord.2
      have worded := next.word_ne_nil nothing inside.started
      have params := parseParams_eq_paramsFrom (maxParams - 1) next.started
      have behind : (body line).fromWord 2 = after.splitWord.2.splitWord.2 := by
        rw [split.fromWord_succ filled, next.fromWord_succ worded, fromWord_zero next.started]
      simp [parse?, ofBody?, if_neg clean, if_neg void, origin, worded, verbIndex, colon, words,
        next.words_eq worded, behind, params]
  · have void : ¬ Void (body line) := by
      rintro (empty | nul | ⟨marked, -⟩)
      · exact clean (.inl empty)
      · exact clean (.inr nul)
      · exact colon marked
    have origin : parseOrigin (body line) = (none, body line) :=
      parseOrigin_eq_iff.mpr (.absent colon)
    have params := parseParams_eq_paramsFrom (maxParams - 1) split.started
    have behind : (body line).fromWord 1 = (body line).splitWord.2 := by
      rw [split.fromWord_succ filled, fromWord_zero split.started]
    simp [parse?, ofBody?, if_neg clean, if_neg void, origin, filled, verbIndex, colon,
      split.words_eq filled, behind, params]

/-- A line is white space, then its body, then a line ending. -/
structure BodyOf (line body : Text) : Prop where
  shape : ∃ blanks ending, line = blanks ++ (body ++ ending) ∧
    (∀ c ∈ blanks, isBlank c = true) ∧ ∀ c ∈ ending, c = '\r' ∨ c = '\n'
  begun : ∀ c ∈ body.head?, isBlank c = false
  ended : ∀ c ∈ body.getLast?, c ≠ '\r' ∧ c ≠ '\n'

theorem isLineEnd_iff {c : Char} : isLineEnd c = true ↔ c = '\r' ∨ c = '\n' := by
  simp [isLineEnd]

theorem bodyOf_iff {line text : Text} : BodyOf line text ↔ body line = text := by
  constructor
  · rintro ⟨⟨blanks, ending, rfl, blank, ends⟩, begun, ended⟩
    have dropped : ∀ c ∈ ending, isLineEnd c = true := fun c member =>
      isLineEnd_iff.mpr (ends c member)
    rw [body, ← List.append_assoc, trimEndWhile_append_of_all _ dropped]
    cases shape : text with
    | nil =>
        -- What is left of the blanks in front of an empty body is blank.
        have left : ∀ c ∈ blanks.trimEndWhile isLineEnd, isBlank c = true := by
          intro c member
          rw [trimEndWhile, List.mem_reverse] at member
          exact blank c (List.mem_reverse.mp ((List.dropWhile_sublist _).subset member))
        rw [List.append_nil, trimStart]
        exact List.dropWhile_eq_nil_iff.mpr left
    | cons c rest =>
        obtain ⟨last, final⟩ : ∃ last, text.getLast? = some last := by
          rw [shape]
          exact ⟨_, List.getLast?_eq_some_getLast (List.cons_ne_nil _ _)⟩
        have kept : isLineEnd last = false := by
          have notEnd := ended last final
          simp [isLineEnd, notEnd]
        have whole : (blanks ++ text).getLast? = some last := by
          rw [List.getLast?_append, final, Option.some_or]
        have visible := begun c (by rw [shape]; rfl)
        rw [← shape, trimEndWhile_of_last whole kept, trimStart,
          List.dropWhile_append_of_pos blank, shape, List.dropWhile_cons_of_neg (by simp [visible])]
  · rintro rfl
    refine ⟨?_, body_begun line, fun c last => ?_⟩
    · refine ⟨(line.trimEndWhile isLineEnd).takeWhile isBlank,
        (line.reverse.takeWhile isLineEnd).reverse, ?_, ?_, ?_⟩
      · rw [← List.append_assoc, body, trimStart, List.takeWhile_append_dropWhile, trimEndWhile,
          ← List.reverse_append, List.takeWhile_append_dropWhile, List.reverse_reverse]
      · exact fun c member => List.all_eq_true.mp List.all_takeWhile c member
      · intro c member
        exact isLineEnd_iff.mp (List.all_eq_true.mp List.all_takeWhile c
          (List.mem_reverse.mp member))
    · have kept := body_ended line c last
      simpa [isLineEnd] using kept

/-! The gaps between the words in front of the rest of the line. -/

section Gaps

variable {text : Text}

/-- The place among the words of a body where the rest of the line begins. -/
def restPlace (body : Text) : Nat :=
  verbIndex body + 1 +
    restIndex (maxParams - 1) (body.fromWord (verbIndex body + 1)).words

/-- A body with other gaps between its first `count` words. -/
def withGaps (gaps : Nat → Nat) (count : Nat) (body : Text) : Text :=
  respaced gaps (body.words.take count) ++ body.fromWord count

theorem words_withGaps (gaps : Nat → Nat) (count : Nat) :
    (withGaps gaps count text).words = text.words := by
  have each : ∀ word ∈ text.words.take count, word ≠ [] ∧ ' ' ∉ word := fun word member =>
    mem_words (List.mem_of_mem_take member)
  rw [withGaps, words_respaced each, words_fromWord, List.take_append_drop]

theorem fromWord_withGaps (gaps : Nat → Nat) (count : Nat) :
    (withGaps gaps count text).fromWord count = text.fromWord count := by
  have each : ∀ word ∈ text.words.take count, word ≠ [] ∧ ' ' ∉ word := fun word member =>
    mem_words (List.mem_of_mem_take member)
  have after := @fromWord_respaced (text.fromWord count) _ each gaps
    (count - (text.words.take count).length)
  have place : (text.words.take count).length + (count - (text.words.take count).length) = count := by
    rw [List.length_take]
    omega
  rw [place, fromWord_fromWord] at after
  rw [withGaps, after]
  by_cases enough : count ≤ text.words.length
  · rw [List.length_take, Nat.min_eq_left enough, Nat.sub_self, Nat.add_zero]
  · rw [fromWord_eq_nil_iff.mpr (by omega), fromWord_eq_nil_iff.mpr (by omega)]

theorem head?_withGaps (gaps : Nat → Nat) {count : Nat} (some : 0 < count)
    (begun : text.head? ≠ Option.some ' ') : (withGaps gaps count text).head? = text.head? := by
  by_cases nothing : text = []
  · simp [nothing, withGaps, respaced]
  · have split := split_splitWord text
    have filled := split.word_ne_nil nothing begun
    obtain ⟨count, rfl⟩ := Nat.exists_eq_succ_of_ne_zero (Nat.pos_iff_ne_zero.mp some)
    rw [withGaps, split.words_eq filled, List.take_succ_cons, respaced, List.append_assoc,
      List.head?_append_of_ne_nil _ filled, split.head?_eq filled]

theorem mem_withGaps {c : Char} (visible : c ≠ ' ') (gaps : Nat → Nat) (count : Nat) :
    c ∈ withGaps gaps count text ↔ c ∈ text := by
  rw [mem_iff_mem_words visible, words_withGaps, ← mem_iff_mem_words visible]

/-- Whether there is a word behind the origin shows in the number of words. -/
theorem void_iff (begun : text.head? ≠ some ' ') :
    Void text ↔ text = [] ∨ Char.ofNat 0 ∈ text ∨
      (text.head? = some ':' ∧ text.words.length ≤ 1) := by
  by_cases nothing : text = []
  · simp [Void, nothing]
  · have split := split_splitWord text
    have filled := split.word_ne_nil nothing begun
    have alone : text.splitWord.2 = [] ↔ text.words.length ≤ 1 := by
      rw [← fromWord_eq_nil_iff, split.fromWord_succ filled, fromWord_zero split.started]
    rw [Void, spaces_iff split, alone]

theorem ofBody?_withGaps (gaps : Nat → Nat) (begun : text.head? ≠ some ' ') :
    ofBody? (withGaps gaps (restPlace text) text) = ofBody? text := by
  have some : 0 < restPlace text := by
    unfold restPlace
    omega
  have words := @words_withGaps text gaps (restPlace text)
  have head := head?_withGaps gaps some begun
  have place : verbIndex (withGaps gaps (restPlace text) text) = verbIndex text := by
    rw [verbIndex, head, verbIndex]
  have empty : withGaps gaps (restPlace text) text = [] ↔ text = [] := by
    rw [← List.head?_eq_none_iff, head, List.head?_eq_none_iff]
  have void : Void (withGaps gaps (restPlace text) text) ↔ Void text := by
    rw [void_iff (head ▸ begun), void_iff begun, head, words, empty,
      mem_withGaps (by decide)]
  have params : paramsFrom (maxParams - 1)
        ((withGaps gaps (restPlace text) text).fromWord (verbIndex text + 1)) =
      paramsFrom (maxParams - 1) (text.fromWord (verbIndex text + 1)) := by
    have rest := @fromWord_withGaps text gaps (restPlace text)
    rw [paramsFrom, paramsFrom, words_fromWord, words, ← words_fromWord, fromWord_fromWord,
      fromWord_fromWord]
    rw [restPlace] at rest ⊢
    rw [rest]
  simp only [ofBody?, void, place, head, words, params]

/-- A body with other gaps is the body of a line. -/
theorem body_withGaps (gaps : Nat → Nat) {count : Nat} (some : 0 < count) {line : Text} :
    body (withGaps gaps count (body line)) = withGaps gaps count (body line) := by
  have notSpace : (body line).head? ≠ Option.some ' ' := fun space =>
    absurd (body_begun line ' ' space) (by decide)
  refine bodyOf_iff.mp ⟨⟨[], [], by simp, by simp, by simp⟩, ?_, ?_⟩
  · rw [head?_withGaps gaps some notSpace]
    exact body_begun line
  · intro c last
    by_cases nothing : (body line).fromWord count = []
    · -- The last word has spaces after it.
      rw [withGaps, nothing, List.append_nil] at last
      have space := getLast?_respaced last
      subst space
      decide
    · rw [withGaps, List.getLast?_append_of_ne_nil _ nothing] at last
      have ended := (bodyOf_iff.mpr rfl : BodyOf line (body line)).ended
      obtain ⟨front, whole⟩ := fromWord_suffix count (body line)
      refine ended c ?_
      rw [← whole, List.getLast?_append_of_ne_nil _ nothing]
      exact last

end Gaps

/-! The parts of a message that a body holds. -/

theorem verbIndex_lt {text : Text} (begun : text.head? ≠ some ' ') (holds : ¬ Void text) :
    verbIndex text < text.words.length := by
  rw [void_iff begun] at holds
  simp only [not_or, not_and, Nat.not_le] at holds
  obtain ⟨filled, -, several⟩ := holds
  unfold verbIndex
  split
  · exact several ‹_›
  · have first : ¬ text.words.length ≤ 0 := by
      rwa [← fromWord_eq_nil_iff, fromWord_zero begun]
    omega

theorem shape_of_ofBody? {text : Text} {message : Message} (begun : text.head? ≠ some ' ')
    (read : ofBody? text = some message) :
    message.origin = (if text.head? = some ':' then some (text.words.headD []).tail else none) ∧
      (∃ word, text.words[verbIndex text]? = some word ∧ message.verb = .ofWord word) ∧
      (message.params, message.trailing) =
        paramsFrom (maxParams - 1) (text.fromWord (verbIndex text + 1)) := by
  rw [ofBody?] at read
  split at read
  · cases read
  · rename_i holds
    have found := List.getElem?_eq_getElem (verbIndex_lt begun holds)
    cases read
    refine ⟨rfl, ⟨_, found, ?_⟩, rfl⟩
    rw [List.getD_eq_getElem?_getD, found, Option.getD_some]

/-- A line holds a message unless its body is empty, holds a NUL or is an origin alone.  The
message is an origin, a verb, words, and from the first word with a colon in front or the fifteenth
word on the rest of the line; the number of spaces between the words before that has no bearing on
it. -/
theorem parse?_follows_grammar (line : Text) :
    let text := body line
    let rest := text.fromWord (verbIndex text + 1)
    let last := restIndex (maxParams - 1) rest.words
    BodyOf line text ∧ (∀ other, BodyOf line other → other = text) ∧
      (parse? line = none ↔
        text = [] ∨ Char.ofNat 0 ∈ text ∨
          (text.head? = some ':' ∧ ∀ c ∈ text.dropWhile (· ≠ ' '), c = ' ')) ∧
      (∀ message ∈ parse? line,
        message.origin = (if text.head? = some ':' then some (text.words.headD []).tail else none) ∧
        (∃ word, text.words[verbIndex text]? = some word ∧
          (∀ command : Command,
            message.verb = .command command ↔ command.name.fold = word.fold) ∧
          ((∀ command : Command, command.name.fold ≠ word.fold) → message.verb = .other word)) ∧
        message.params =
          (if last < rest.words.length then
            rest.words.take last ++ [unmarked (rest.fromWord last)]
          else rest.words) ∧
        (message.trailing = true ↔ last < rest.words.length) ∧
        message.params.length ≤ maxParams ∧
        ∀ param ∈ (if message.trailing then message.params.dropLast else message.params),
          param ≠ [] ∧ ' ' ∉ param ∧ param.head? ≠ some ':') ∧
      ∀ gaps : Nat → Nat,
        parse? (respaced gaps (text.words.take (verbIndex text + 1 + last)) ++
          rest.fromWord last) = parse? line := by
  intro text rest last
  have begun : text.head? ≠ some ' ' := fun space =>
    absurd (body_begun line ' ' space) (by decide)
  refine ⟨bodyOf_iff.mpr rfl, fun other isBody => (bodyOf_iff.mp isBody).symm, ?_, ?_, ?_⟩
  · rw [parse?_eq_ofBody?, ofBody?]
    split
    · rename_i void
      exact iff_of_true rfl void
    · rename_i holds
      exact iff_of_false (by simp) holds
  · intro message parsed
    obtain ⟨-, -, _, _, _, -, split, -, -, params⟩ := parse?_eq_some_iff.mp parsed
    have few := params.length_le
    have one := Bool.toNat_le message.trailing
    obtain ⟨butLast, all⟩ := params.middle split.started
    rw [Option.mem_def, parse?_eq_ofBody?] at parsed
    obtain ⟨origin, ⟨word, found, verb⟩, given⟩ := shape_of_ofBody? begun parsed
    have words : (message.params, message.trailing) =
        if last < rest.words.length then
          (rest.words.take last ++ [unmarked (rest.fromWord last)], true)
        else (rest.words, false) := given
    refine ⟨origin, ⟨word, found, fun command => ?_, fun unknown => ?_⟩, ?_, ?_, ?_, ?_⟩
    · rw [verb, Verb.ofWord_eq_command_iff]
    · rw [verb, Verb.ofWord_of_unknown unknown]
    · have same := congrArg Prod.fst words
      rw [apply_ite Prod.fst] at same
      exact same
    · have same := congrArg Prod.snd words
      rw [apply_ite Prod.snd] at same
      dsimp only at same
      rw [same]
      simp
    · simp only [maxParams] at few ⊢
      omega
    · intro param member
      have middle : IsMiddle param := by
        split at member
        · exact butLast param member
        · rename_i plain
          exact all (eq_false_of_ne_true plain) param member
      exact ⟨middle.filled, middle.single, middle.plain⟩
  · intro gaps
    have tail : rest.fromWord last = text.fromWord (restPlace text) := fromWord_fromWord _ _ _
    have some : 0 < restPlace text := by
      unfold restPlace
      omega
    change parse? (respaced gaps (text.words.take (restPlace text)) ++ _) = _
    rw [tail, parse?_eq_ofBody?, parse?_eq_ofBody?]
    change ofBody? (body (withGaps gaps (restPlace text) text)) = _
    rw [body_withGaps gaps some, ofBody?_withGaps gaps begun]

/-- A known verb in any case behind an origin, and a text that keeps its second colon and its
spaces. -/
theorem grammar_of_greeting :
    let greeting : Text := "  :who   pRiVmsg  #c  ::)  x \r\n"
    parse? greeting = some ⟨some "who", .command .privmsg, ["#c", ":)  x "], true⟩ ∧
      (∃ word, (body greeting).words[1]? = some word ∧
        (Command.name .privmsg).fold = word.fold) ∧
      ∀ gaps : Nat → Nat,
        parse? (respaced gaps [":who", "pRiVmsg", "#c"] ++ "::)  x ") = parse? greeting := by
  intro greeting
  have parsed : parse? greeting = some ⟨some "who", .command .privmsg, ["#c", ":)  x "], true⟩ := by
    decide +kernel
  have place : verbIndex (body greeting) = 1 := by decide +kernel
  obtain ⟨-, -, -, shape, gaps⟩ := parse?_follows_grammar greeting
  obtain ⟨-, ⟨word, found, known, -⟩, -⟩ := shape _ parsed
  refine ⟨parsed, ⟨word, place ▸ found, (known .privmsg).mp rfl⟩, fun spaces => ?_⟩
  have words : (body greeting).words.take (verbIndex (body greeting) + 1 +
      restIndex (maxParams - 1) ((body greeting).fromWord (verbIndex (body greeting) + 1)).words) =
        [":who", "pRiVmsg", "#c"] := by decide +kernel
  have tail : ((body greeting).fromWord (verbIndex (body greeting) + 1)).fromWord
      (restIndex (maxParams - 1) ((body greeting).fromWord (verbIndex (body greeting) + 1)).words) =
        "::)  x " := by decide +kernel
  have same := gaps spaces
  rwa [words, tail] at same

end Message

end IrcServer
