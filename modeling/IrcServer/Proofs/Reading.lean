import IrcServer.Proofs.Words

namespace IrcServer

/-! What a reader takes from a line, as relations between a text and its parts.

`Split` is the first word of a text, `OriginOf` the origin of a line and `ParamsOf` its parameters.
Each holds of what its reader returns and of nothing else, so that facts about messages are proved
by induction on how a line is made and not by running the reader. -/

namespace Text

/-- `text` is `word`, then spaces, then `rest`. -/
structure Split (text word rest : Text) : Prop where
  shape : ∃ gap, text = word ++ (List.replicate gap ' ' ++ rest) ∧ (rest ≠ [] → 0 < gap)
  single : ' ' ∉ word
  started : rest.head? ≠ some ' '

theorem dropWhile_spaces (gap : Nat) {rest : Text} (started : rest.head? ≠ some ' ') :
    (List.replicate gap ' ' ++ rest).dropWhile (· = ' ') = rest := by
  rw [List.dropWhile_append_of_pos fun c member => by simp [List.eq_of_mem_replicate member]]
  cases rest with
  | nil => rfl
  | cons c letters =>
      have plain : c ≠ ' ' := fun same => started (congrArg some same)
      exact List.dropWhile_cons_of_neg (by simp [plain])

theorem spaces_apart {gap : Nat} {rest : Text} (apart : rest ≠ [] → 0 < gap) :
    List.replicate gap ' ' ++ rest = [] ∨
      ∃ others, List.replicate gap ' ' ++ rest = ' ' :: others := by
  cases gap with
  | succ gap => exact .inr ⟨_, rfl⟩
  | zero =>
      refine .inl ?_
      by_contra filled
      exact absurd (apart filled) (Nat.lt_irrefl 0)

theorem split_splitWord (text : Text) : Split text (splitWord text).1 (splitWord text).2 := by
  have gap : (text.dropWhile (· ≠ ' ')).takeWhile (· = ' ') =
      List.replicate ((text.dropWhile (· ≠ ' ')).takeWhile (· = ' ')).length ' ' := by
    refine List.eq_replicate_of_mem fun c member => ?_
    exact of_decide_eq_true (List.all_eq_true.mp List.all_takeWhile c member)
  refine ⟨⟨((text.dropWhile (· ≠ ' ')).takeWhile (· = ' ')).length, ?_, ?_⟩, ?_, ?_⟩
  · rw [← gap, splitWord, List.takeWhile_append_dropWhile, List.takeWhile_append_dropWhile]
  · intro more
    have first := List.head?_dropWhile_not (· ≠ ' ') text
    cases shape : text.dropWhile (· ≠ ' ') with
    | nil =>
        rw [splitWord, shape] at more
        exact absurd rfl more
    | cons c others =>
        rw [shape] at first
        have space : c = ' ' := by simpa using first
        rw [List.takeWhile_cons_of_pos (by simp [space])]
        exact Nat.succ_pos _
  · intro member
    have letter := List.all_eq_true.mp List.all_takeWhile _ member
    simp at letter
  · intro space
    have first := List.head?_dropWhile_not (· = ' ') (text.dropWhile (· ≠ ' '))
    rw [splitWord] at space
    rw [space] at first
    simp at first

theorem splitWord_eq_iff {text word rest : Text} :
    splitWord text = (word, rest) ↔ Split text word rest := by
  constructor
  · intro same
    have split := split_splitWord text
    rwa [same] at split
  · rintro ⟨⟨gap, rfl, apart⟩, single, started⟩
    rw [splitWord_append single (spaces_apart apart), dropWhile_spaces gap started]

namespace Split

variable {text word rest : Text}

theorem suffix (split : Split text word rest) : rest <:+ text := by
  obtain ⟨gap, rfl, _⟩ := split.shape
  exact ⟨word ++ List.replicate gap ' ', by rw [List.append_assoc]⟩

theorem word_subset (split : Split text word rest) : word ⊆ text := by
  obtain ⟨gap, rfl, _⟩ := split.shape
  exact List.subset_append_left _ _

theorem head?_eq (split : Split text word rest) (filled : word ≠ []) : text.head? = word.head? := by
  obtain ⟨gap, rfl, _⟩ := split.shape
  exact List.head?_append_of_ne_nil _ filled

/-- A text that does not start with a space starts with a word. -/
theorem word_ne_nil (split : Split text word rest) (filled : text ≠ [])
    (begun : text.head? ≠ some ' ') : word ≠ [] := by
  rintro rfl
  obtain ⟨gap, rfl, apart⟩ := split.shape
  cases gap with
  | succ gap => exact begun rfl
  | zero =>
      by_cases nothing : rest = []
      · exact filled nothing
      · exact absurd (apart nothing) (Nat.lt_irrefl 0)

/-- Spaces between a word and what follows it are never fewer than one. -/
theorem length_le (split : Split text word rest) (more : rest ≠ []) :
    word.length + 1 + rest.length ≤ text.length := by
  obtain ⟨gap, rfl, apart⟩ := split.shape
  have positive := apart more
  simp only [List.length_append, List.length_replicate]
  omega

theorem word_length_le (split : Split text word rest) : word.length ≤ text.length := by
  obtain ⟨gap, rfl, _⟩ := split.shape
  rw [List.length_append]
  exact Nat.le_add_right _ _

end Split

end Text

namespace Message

open Text

/-- A parameter that can stand before other parameters. -/
structure IsMiddle (param : Text) : Prop where
  filled : param ≠ []
  single : ' ' ∉ param
  plain : param.head? ≠ some ':'

theorem needsColon_eq_false_iff {param : Text} : needsColon param = false ↔ IsMiddle param := by
  simp only [needsColon, Bool.or_eq_false_iff, decide_eq_false_iff_not, List.contains_eq_mem]
  exact ⟨fun ⟨⟨filled, single⟩, plain⟩ => ⟨filled, single, plain⟩,
    fun ⟨filled, single, plain⟩ => ⟨⟨filled, single⟩, plain⟩⟩

theorem isMiddle_of_split {text word rest : Text} (split : Split text word rest)
    (filled : text ≠ []) (begun : text.head? ≠ some ' ') (plain : text.head? ≠ some ':') :
    IsMiddle word := by
  have notNil := split.word_ne_nil filled begun
  exact ⟨notNil, split.single, split.head?_eq notNil ▸ plain⟩

instance (param : Text) : Decidable (IsMiddle param) :=
  decidable_of_iff _ needsColon_eq_false_iff

/-- `text` holds `params` when `slots` more words may come before the rest of the line. -/
inductive ParamsOf : Nat → Text → List Text → Bool → Prop where
  | nothing {slots : Nat} : ParamsOf slots [] [] false
  | marked {slots : Nat} {rest : Text} : ParamsOf slots (':' :: rest) [rest] true
  | full {text : Text} (filled : text ≠ []) (plain : text.head? ≠ some ':') :
      ParamsOf 0 text [text] true
  | word {slots : Nat} {text word rest : Text} {params : List Text} {trailing : Bool}
      (filled : text ≠ []) (plain : text.head? ≠ some ':') (split : Split text word rest)
      (others : ParamsOf slots rest params trailing) :
      ParamsOf (slots + 1) text (word :: params) trailing

theorem parseParams_zero {text : Text} (filled : text ≠ []) (plain : text.head? ≠ some ':') :
    parseParams 0 text = ([text], true) := by
  obtain ⟨c, rest, rfl⟩ := List.exists_cons_of_ne_nil filled
  rw [parseParams]
  · exact List.cons_ne_nil _ _
  · intro other same
    exact plain (congrArg List.head? same)

theorem paramsOf_parseParams (slots : Nat) (text : Text) :
    ParamsOf slots text (parseParams slots text).1 (parseParams slots text).2 := by
  induction slots generalizing text with
  | zero =>
      by_cases nothing : text = []
      · subst nothing
        exact .nothing
      by_cases colon : text.head? = some ':'
      · obtain ⟨rest, rfl⟩ := List.head?_eq_some_iff.mp colon
        exact .marked
      · rw [parseParams_zero nothing colon]
        exact .full nothing colon
  | succ slots inductionHypothesis =>
      by_cases nothing : text = []
      · subst nothing
        exact .nothing
      by_cases colon : text.head? = some ':'
      · obtain ⟨rest, rfl⟩ := List.head?_eq_some_iff.mp colon
        exact .marked
      · rw [parseParams_succ nothing colon]
        exact .word nothing colon (split_splitWord text) (inductionHypothesis _)

theorem parseParams_eq_iff {slots : Nat} {text : Text} {params : List Text} {trailing : Bool} :
    parseParams slots text = (params, trailing) ↔ ParamsOf slots text params trailing := by
  constructor
  · intro same
    have read := paramsOf_parseParams slots text
    rwa [same] at read
  · intro read
    induction read with
    | nothing => cases ‹Nat› <;> rfl
    | marked => cases ‹Nat› <;> rfl
    | full filled plain => exact parseParams_zero filled plain
    | word filled plain split others inductionHypothesis =>
        rw [parseParams_succ filled plain, splitWord_eq_iff.mpr split, inductionHypothesis]

namespace ParamsOf

variable {slots : Nat} {text : Text} {params : List Text} {trailing : Bool}

theorem subset (read : ParamsOf slots text params trailing) : ∀ param ∈ params, param ⊆ text := by
  induction read with
  | nothing => exact fun _ member => absurd member List.not_mem_nil
  | marked =>
      rintro param member
      rw [List.mem_singleton.mp member]
      exact List.subset_cons_self _ _
  | full =>
      rintro param member
      rw [List.mem_singleton.mp member]
      exact List.Subset.refl _
  | word filled plain split others inductionHypothesis =>
      refine List.forall_mem_cons.mpr ⟨split.word_subset, fun param member => ?_⟩
      exact List.Subset.trans (inductionHypothesis param member) split.suffix.subset

/-- All parameters but a trailing one are words. -/
theorem middle (read : ParamsOf slots text params trailing) (begun : text.head? ≠ some ' ') :
    (∀ param ∈ params.dropLast, IsMiddle param) ∧
      (trailing = false → ∀ param ∈ params, IsMiddle param) := by
  induction read with
  | nothing => exact ⟨fun _ member => absurd member List.not_mem_nil,
      fun _ _ member => absurd member List.not_mem_nil⟩
  | marked => exact ⟨fun _ member => absurd member List.not_mem_nil, Bool.noConfusion⟩
  | full => exact ⟨fun _ member => absurd member List.not_mem_nil, Bool.noConfusion⟩
  | @word slots text word rest params trailing filled plain split others inductionHypothesis =>
      obtain ⟨butLast, all⟩ := inductionHypothesis split.started
      have first := isMiddle_of_split split filled begun plain
      refine ⟨?_, fun plain => List.forall_mem_cons.mpr ⟨first, all plain⟩⟩
      cases params with
      | nil => exact fun _ member => absurd member List.not_mem_nil
      | cons next params => exact List.forall_mem_cons.mpr ⟨first, butLast⟩

theorem length_le (read : ParamsOf slots text params trailing) :
    params.length ≤ slots + trailing.toNat := by
  induction read with
  | nothing => exact Nat.zero_le _
  | marked => simp
  | full => simp
  | word filled plain split others inductionHypothesis =>
      rw [List.length_cons]
      omega

/-- A trailing parameter is what the line ends with. -/
theorem suffix (read : ParamsOf slots text params trailing) (last : trailing = true) :
    ∃ final, params.getLast? = some final ∧ final <:+ text := by
  induction read with
  | nothing => cases last
  | @marked slots rest => exact ⟨rest, rfl, List.suffix_cons _ _⟩
  | @full text filled plain => exact ⟨text, rfl, List.suffix_refl _⟩
  | word filled plain split others inductionHypothesis =>
      obtain ⟨final, found, ending⟩ := inductionHypothesis last
      exact ⟨final, by rw [List.getLast?_cons, found]; rfl, ending.trans split.suffix⟩

/-- Written with single spaces, parameters take no more room than they had in the line. -/
theorem writeParams_length_le (read : ParamsOf slots text params trailing)
    (begun : text.head? ≠ some ' ') (plain : trailing = false) :
    (writeParams false params).length ≤ (if text = [] then 0 else 1 + text.length) := by
  induction read with
  | nothing => exact Nat.zero_le _
  | marked => cases plain
  | full => cases plain
  | @word slots text word rest params trailing filled notMarked split others inductionHypothesis =>
      have room := inductionHypothesis split.started plain
      rw [if_neg filled]
      cases others with
      | nothing =>
          have whole := needsColon_eq_false_iff.mpr
            (isMiddle_of_split split filled begun notMarked)
          have short := split.word_length_le
          simp only [writeParams, whole, Bool.or_self, Bool.false_eq_true, if_false,
            List.length_cons]
          omega
      | marked => cases plain
      | full => cases plain
      | @word slots _ next after params _ more _ _ _ =>
          have short := split.length_le more
          rw [if_neg more] at room
          rw [writeParams, List.length_append, List.length_cons]
          · omega
          · exact List.cons_ne_nil _ _

end ParamsOf

/-- `text` starts with this origin, if with any, and `rest` is what follows it. -/
inductive OriginOf : Text → Option Text → Text → Prop where
  | absent {text : Text} (plain : text.head? ≠ some ':') : OriginOf text none text
  | present {text origin rest : Text} (split : Split text origin rest) :
      OriginOf (':' :: text) (some origin) rest

theorem parseOrigin_eq_iff {text rest : Text} {origin : Option Text} :
    parseOrigin text = (origin, rest) ↔ OriginOf text origin rest := by
  by_cases colon : text.head? = some ':'
  · obtain ⟨after, rfl⟩ := List.head?_eq_some_iff.mp colon
    constructor
    · intro same
      cases same
      exact .present (split_splitWord after)
    · intro read
      cases read with
      | absent plain => exact absurd rfl plain
      | present split => rw [parseOrigin, splitWord_eq_iff.mpr split]
  · have unmarked : parseOrigin text = (none, text) := by
      rw [parseOrigin]
      rintro after rfl
      exact colon rfl
    rw [unmarked]
    constructor
    · intro same
      cases same
      exact .absent colon
    · intro read
      cases read with
      | absent => rfl
      | present => exact absurd rfl colon

namespace OriginOf

variable {text rest : Text} {origin : Option Text}

theorem suffix (read : OriginOf text origin rest) : rest <:+ text := by
  cases read with
  | absent => exact List.suffix_refl _
  | present split => exact split.suffix.trans (List.suffix_cons _ _)

theorem plain (read : OriginOf text none rest) : text.head? ≠ some ':' ∧ rest = text := by
  cases read with
  | absent plain => exact ⟨plain, rfl⟩

theorem single {name : Text} (read : OriginOf text (some name) rest) : ' ' ∉ name := by
  cases read with
  | present split => exact split.single

theorem origin_subset {name : Text} (read : OriginOf text (some name) rest) : name ⊆ text := by
  cases read with
  | present split => exact List.Subset.trans split.word_subset (List.subset_cons_self _ _)

theorem writeOrigin_length_le (read : OriginOf text origin rest) (more : rest ≠ []) :
    (writeOrigin origin).length + rest.length ≤ text.length := by
  cases read with
  | absent => exact Nat.le_of_eq (Nat.zero_add _)
  | present split =>
      have short := split.length_le more
      simp only [writeOrigin, List.length_append, List.length_cons, List.length_nil]
      omega

end OriginOf

/-- A line holds a message if its body is an origin, a verb and parameters. -/
theorem parse?_eq_some_iff {line : Text} {message : Message} :
    parse? line = some message ↔
      body line ≠ [] ∧ Char.ofNat 0 ∉ body line ∧
        ∃ afterOrigin word afterVerb, OriginOf (body line) message.origin afterOrigin ∧
          Split afterOrigin word afterVerb ∧ word ≠ [] ∧ message.verb = .ofWord word ∧
          ParamsOf (maxParams - 1) afterVerb message.params message.trailing := by
  constructor
  · intro parsed
    unfold parse? at parsed
    dsimp only at parsed
    split at parsed
    · cases parsed
    · rename_i clean
      split at parsed
      · cases parsed
      · rename_i worded
        cases parsed
        exact ⟨fun nothing => clean (.inl nothing), fun nul => clean (.inr nul), _, _, _,
          parseOrigin_eq_iff.mp rfl, split_splitWord _, worded, rfl, paramsOf_parseParams _ _⟩
  · rintro ⟨filled, clean, afterOrigin, word, afterVerb, origin, split, worded, verb, params⟩
    obtain ⟨_, _, _, _⟩ := message
    unfold parse?
    dsimp only at origin verb params ⊢
    rw [if_neg (not_or.mpr ⟨filled, clean⟩), parseOrigin_eq_iff.mpr origin]
    dsimp only
    rw [splitWord_eq_iff.mpr split]
    dsimp only
    rw [if_neg worded, parseParams_eq_iff.mpr params, verb]

/-- The body of a line does not end with a line ending. -/
theorem body_ended (line : Text) : ∀ c ∈ (body line).getLast?, isLineEnd c = false := by
  intro c last
  have ending : body line <:+ line.trimEndWhile isLineEnd := List.dropWhile_suffix _
  obtain ⟨front, whole⟩ := ending
  have final : (line.trimEndWhile isLineEnd).getLast? = some c := by
    rw [← whole, List.getLast?_append, Option.mem_def.mp last, Option.some_or]
  have first := List.head?_dropWhile_not isLineEnd line.reverse
  rw [Text.trimEndWhile, List.getLast?_reverse] at final
  rw [final] at first
  simpa using first

theorem body_begun (line : Text) : ∀ c ∈ (body line).head?, isBlank c = false := by
  intro c first
  have visible := List.head?_dropWhile_not isBlank (line.trimEndWhile isLineEnd)
  rw [body, Text.trimStart, Option.mem_def] at first
  rw [first] at visible
  simpa using visible

theorem body_sublist (line : Text) : (body line).Sublist (line.trimEndWhile isLineEnd) :=
  List.dropWhile_sublist _

end Message

end IrcServer
