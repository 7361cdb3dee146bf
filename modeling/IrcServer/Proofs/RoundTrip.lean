import IrcServer.Proofs.Heard
import IrcServer.Proofs.Reading

namespace IrcServer

/-! Messages that are written and read back.

A writer decides about the colon of the last parameter from the parameter alone, a reader from its
place in the line as well.  `reread` is what the reader makes of a message, and only a line ending
at the end of the last word is lost on the way. -/

namespace Text

theorem toNat_toUpper (c : Char) :
    c.toUpper.toNat = if 0x61 ≤ c.toNat ∧ c.toNat ≤ 0x7A then c.toNat - 0x20 else c.toNat := by
  have lower : (c.val ≥ 'a'.val ∧ c.val ≤ 'z'.val) ↔ 0x61 ≤ c.toNat ∧ c.toNat ≤ 0x7A := by
    simp only [ge_iff_le, UInt32.le_iff_toNat_le, Char.reduceVal, UInt32.reduceToNat, Char.toNat]
  unfold Char.toUpper
  split
  · rename_i small
    have codes := lower.mp small
    rw [if_pos codes]
    change (c.val + ('A'.val - 'a'.val)).toNat = c.toNat - 0x20
    have shift : ('A'.val - 'a'.val).toNat = 2 ^ 32 - 0x20 := by decide
    rw [UInt32.toNat_add, shift]
    change (c.toNat + (2 ^ 32 - 0x20)) % 2 ^ 32 = c.toNat - 0x20
    omega
  · rename_i other
    rw [if_neg (mt lower.mpr other)]

/-- Upper case identifies the same letters as lower case. -/
theorem toUpper_eq_iff {left right : Text} :
    left.toUpper = right.toUpper ↔ left.fold = right.fold := by
  have letter : ∀ a b : Char, a.toUpper = b.toUpper ↔ a.toLower = b.toLower := by
    intro a b
    rw [← Char.toNat_inj, ← Char.toNat_inj, toNat_toUpper, toNat_toUpper,
      Nickname.toNat_toLower, Nickname.toNat_toLower]
    split <;> split <;> split <;> split <;> omega
  induction left generalizing right with
  | nil => cases right <;> simp [toUpper, fold]
  | cons a left inductionHypothesis =>
      cases right with
      | nil => simp [toUpper, fold]
      | cons b right =>
          have others := @inductionHypothesis right
          simp only [toUpper, fold, List.map_cons, List.cons.injEq, letter] at others ⊢
          exact and_congr_right fun _ => others

end Text

namespace Command

theorem ofName?_eq_some_iff_fold {word : Text} {command : Command} :
    ofName? word = some command ↔ command.name.fold = word.fold := by
  have upper : word.toUpper = command.name.toUpper ↔ word.fold = command.name.fold :=
    Text.toUpper_eq_iff
  rw [command.toUpper_name] at upper
  rw [ofName?_eq_some_iff, upper]
  exact eq_comm

theorem nul_not_mem_name (command : Command) : Char.ofNat 0 ∉ command.name := by
  cases command <;> decide

end Command

namespace Verb

/-- A word is read as a command of the same length, or as itself. -/
theorem ofWord_cases (word : Text) :
    (∃ command : Command, command.name = word.toUpper ∧ ofWord word = .command command) ∨
      (ofWord word = .other word) := by
  unfold ofWord
  split
  · rename_i command known
    exact .inl ⟨command, (Command.ofName?_eq_some_iff.mp known).symm, rfl⟩
  · exact .inr rfl

theorem ofWord_word (word : Text) : ofWord (ofWord word).word = ofWord word := by
  rcases ofWord_cases word with ⟨command, _, same⟩ | same
  · rw [same, Verb.word, ofWord, Command.ofName?_name]
  · rw [same, Verb.word, same]

theorem length_word_ofWord (word : Text) : (ofWord word).word.length = word.length := by
  rcases ofWord_cases word with ⟨command, named, same⟩ | same
  · rw [same, Verb.word, named, Text.toUpper, List.length_map]
  · rw [same, Verb.word]

end Verb

namespace Message

open Text

/-- The text of the message in front of its line ending. -/
def content (message : Message) : Text :=
  writeOrigin message.origin ++ (message.verb.word ++ writeParams message.trailing message.params)

/-- The last word that is written: the last parameter, or the verb when there is none. -/
def lastWord (message : Message) : Text :=
  message.params.getLast?.getD message.verb.word

/-- The last word does not end with a line ending of its own. -/
def IsEnded (message : Message) : Prop :=
  message.lastWord.getLast?.any isLineEnd = false

/-- The messages that can be written: each part fits in its place. -/
structure Writable (message : Message) : Prop where
  origin : ∀ origin ∈ message.origin, ' ' ∉ origin ∧ Char.ofNat 0 ∉ origin
  verb : message.verb.word ≠ [] ∧ ' ' ∉ message.verb.word ∧ Char.ofNat 0 ∉ message.verb.word
  /-- A verb that starts the line shows where the line starts, and that it has no origin. -/
  bare : message.origin = none → ∀ c ∈ message.verb.word.head?, c ≠ ':' ∧ isBlank c = false
  short : message.params.length ≤ maxParams
  clean : ∀ param ∈ message.params, Char.ofNat 0 ∉ param
  middle : ∀ param ∈ message.params.dropLast, IsMiddle param

/-- Whether the last of the parameters is read as the rest of the line, when `slots` words may come
before it. -/
def endsTrailing (slots : Nat) (trailing : Bool) (params : List Text) : Bool :=
  params ≠ [] &&
    (trailing || needsColon (params.getLast?.getD []) || params.length = slots + 1)

/-- The message that is read when this one was written. -/
def reread (message : Message) : Message :=
  { message with
    verb := .ofWord message.verb.word
    trailing := endsTrailing (maxParams - 1) message.trailing message.params }

theorem serialize_eq (message : Message) : message.serialize = message.content ++ crlf := by
  rw [serialize, content, crlf, List.append_assoc (writeOrigin _)]

/-! What is written. -/

theorem writeParams_apart (trailing : Bool) (params : List Text) :
    writeParams trailing params = [] ∨ ∃ rest, writeParams trailing params = ' ' :: rest := by
  match params with
  | [] => exact .inl rfl
  | [last] =>
      rw [writeParams]
      split
      · exact .inr ⟨_, rfl⟩
      · exact .inr ⟨_, rfl⟩
  | param :: next :: rest => exact .inr ⟨_, rfl⟩

theorem nul_not_mem_writeParams (trailing : Bool) {params : List Text}
    (clean : ∀ param ∈ params, Char.ofNat 0 ∉ param) :
    Char.ofNat 0 ∉ writeParams trailing params := by
  induction params with
  | nil => exact List.not_mem_nil
  | cons param rest inductionHypothesis =>
      obtain ⟨first, others⟩ := List.forall_mem_cons.mp clean
      cases rest with
      | nil =>
          rw [writeParams]
          split <;> simpa using first
      | cons next rest =>
          rw [writeParams]
          · simpa using ⟨first, inductionHypothesis others⟩
          · exact List.cons_ne_nil _ _

theorem getLast?_writeParams (trailing : Bool) {params : List Text} (filled : params ≠ []) :
    (writeParams trailing params).getLast? =
      some ((params.getLast?.getD []).getLast?.getD ':') := by
  induction params with
  | nil => exact absurd rfl filled
  | cons param rest inductionHypothesis =>
      cases rest with
      | nil =>
          rw [writeParams, List.getLast?_singleton, Option.getD_some]
          split
          · rw [List.getLast?_cons, List.getLast?_cons, Option.getD_some]
          · rename_i bare
            rw [Bool.not_eq_true, Bool.or_eq_false_iff, needsColon_eq_false_iff] at bare
            rw [List.getLast?_cons, List.getLast?_eq_some_getLast bare.2.filled]
            rfl
      | cons next rest =>
          rw [writeParams, List.getLast?_append, inductionHypothesis (List.cons_ne_nil _ _),
            Option.some_or, List.getLast?_cons_cons]
          exact List.cons_ne_nil _ _

theorem getLast?_content {message : Message} (worded : message.verb.word ≠ []) :
    message.content.getLast? = some (message.lastWord.getLast?.getD ':') := by
  rw [content, List.getLast?_append, List.getLast?_append]
  by_cases alone : message.params = []
  · rw [lastWord, alone, writeParams, List.getLast?_nil, Option.none_or, List.getLast?_nil,
      Option.getD_none, List.getLast?_eq_some_getLast worded]
    rfl
  · rw [getLast?_writeParams _ alone, lastWord, List.getLast?_eq_some_getLast alone]
    rfl

theorem nul_not_mem_content {message : Message} (writable : message.Writable) :
    Char.ofNat 0 ∉ message.content := by
  have origin : Char.ofNat 0 ∉ writeOrigin message.origin := by
    cases named : message.origin with
    | none => exact List.not_mem_nil
    | some origin => simpa [writeOrigin] using (writable.origin origin named).2
  rw [content, List.mem_append, List.mem_append, not_or, not_or]
  exact ⟨origin, writable.verb.2.2, nul_not_mem_writeParams _ writable.clean⟩

/-- The line ending is all that a reader drops from the line. -/
theorem body_serialize {message : Message} (writable : message.Writable)
    (ended : message.IsEnded) : body message.serialize = message.content := by
  have last : isLineEnd (message.lastWord.getLast?.getD ':') = false := by
    unfold IsEnded at ended
    cases final : message.lastWord.getLast? with
    | none => rfl
    | some c =>
        rw [final] at ended
        exact ended
  have started : ∃ c rest, message.content = c :: rest ∧ isBlank c = false := by
    obtain ⟨c, letters, shape⟩ := List.exists_cons_of_ne_nil writable.verb.1
    cases named : message.origin with
    | none =>
        refine ⟨c, letters ++ writeParams message.trailing message.params, ?_, ?_⟩
        · rw [content, named, writeOrigin, List.nil_append, shape, List.cons_append]
        · exact (writable.bare named c (by rw [shape]; rfl)).2
    | some origin =>
        refine ⟨':', origin ++ [' '] ++
          (message.verb.word ++ writeParams message.trailing message.params), ?_, by decide⟩
        rw [content, named, writeOrigin, List.cons_append, List.cons_append]
  obtain ⟨c, rest, shape, visible⟩ := started
  rw [body, serialize_eq, trimEndWhile_append_of_all _ isLineEnd_of_mem_crlf,
    trimEndWhile_of_last (getLast?_content writable.verb.1) last, shape, trimStart_cons visible]

/-! What is read of it. -/

theorem originOf_content {message : Message} (writable : message.Writable) :
    OriginOf message.content message.origin
      (message.verb.word ++ writeParams message.trailing message.params) := by
  obtain ⟨c, letters, shape⟩ := List.exists_cons_of_ne_nil writable.verb.1
  cases named : message.origin with
  | none =>
      rw [content, named, writeOrigin, List.nil_append]
      refine .absent ?_
      intro colon
      rw [shape] at colon
      exact (writable.bare named c (by rw [shape]; rfl)).1 (Option.some.inj colon)
  | some origin =>
      rw [content, named, writeOrigin, List.cons_append, List.cons_append, List.append_assoc]
      refine .present ⟨⟨1, rfl, fun _ => Nat.one_pos⟩, (writable.origin origin named).1, ?_⟩
      intro space
      rw [shape] at space
      have same : c = ' ' := Option.some.inj space
      exact writable.verb.2.1 (by simp [shape, same])

theorem split_writeParams {word : Text} (single : ' ' ∉ word) (trailing : Bool)
    (params : List Text) :
    Split (word ++ writeParams trailing params) word
      ((writeParams trailing params).dropWhile (· = ' ')) :=
  splitWord_eq_iff.mp (splitWord_append single (writeParams_apart trailing params))

theorem dropWhile_middle {param : Text} (middle : IsMiddle param) (rest : Text) :
    (' ' :: (param ++ rest)).dropWhile (· = ' ') = param ++ rest := by
  have started : (param ++ rest).head? ≠ some ' ' := by
    rw [List.head?_append_of_ne_nil _ middle.filled]
    exact fun space => middle.single (List.mem_of_mem_head? space)
  exact dropWhile_spaces 1 started

/-- Parameters are read as they were written, and the last one is the rest of the line if it was
marked as such or came at the last place. -/
theorem paramsOf_writeParams {slots : Nat} {params : List Text} (trailing : Bool)
    (middle : ∀ param ∈ params.dropLast, IsMiddle param) (fits : params.length ≤ slots + 1) :
    ParamsOf slots ((writeParams trailing params).dropWhile (· = ' ')) params
      (endsTrailing slots trailing params) := by
  induction params generalizing slots with
  | nil => exact .nothing
  | cons param rest inductionHypothesis =>
      cases rest with
      | nil =>
          by_cases marked : (trailing || needsColon param) = true
          · have read : endsTrailing slots trailing [param] = true := by
              simp [endsTrailing, marked]
            rw [writeParams, if_pos marked, read]
            exact .marked
          · rw [Bool.not_eq_true] at marked
            have whole := needsColon_eq_false_iff.mp (Bool.or_eq_false_iff.mp marked).2
            have text := dropWhile_middle whole []
            rw [List.append_nil] at text
            rw [writeParams, if_neg (by rw [marked]; exact Bool.false_ne_true), text]
            cases slots with
            | zero =>
                have read : endsTrailing 0 trailing [param] = true := by simp [endsTrailing]
                rw [read]
                exact .full whole.filled whole.plain
            | succ slots =>
                have read : endsTrailing (slots + 1) trailing [param] = false := by
                  simp [endsTrailing, marked]
                rw [read]
                refine .word whole.filled whole.plain ⟨⟨0, ?_, ?_⟩, whole.single, ?_⟩ .nothing
                · exact (List.append_nil _).symm
                · exact fun more => absurd rfl more
                · simp
      | cons next rest =>
          obtain ⟨whole, others⟩ := List.forall_mem_cons.mp middle
          cases slots with
          | zero =>
              simp only [List.length_cons] at fits
              omega
          | succ slots =>
              have read : endsTrailing (slots + 1) trailing (param :: next :: rest) =
                  endsTrailing slots trailing (next :: rest) := by
                simp [endsTrailing]
              rw [read, writeParams, List.cons_append, dropWhile_middle whole]
              · refine .word ?_ ?_ (split_writeParams whole.single trailing (next :: rest))
                  (inductionHypothesis others (Nat.le_of_succ_le_succ fits))
                · exact List.append_ne_nil_of_left_ne_nil whole.filled _
                · rw [List.head?_append_of_ne_nil _ whole.filled]
                  exact whole.plain
              · exact List.cons_ne_nil _ _

theorem parse?_serialize {message : Message} (writable : message.Writable)
    (ended : message.IsEnded) : parse? message.serialize = some message.reread := by
  have worded := writable.verb.1
  rw [parse?_eq_some_iff, body_serialize writable ended]
  refine ⟨?_, nul_not_mem_content writable, _, _, _, originOf_content writable,
    split_writeParams writable.verb.2.1 _ _, worded, rfl,
    paramsOf_writeParams _ writable.middle writable.short⟩
  exact List.append_ne_nil_of_right_ne_nil _ (List.append_ne_nil_of_left_ne_nil worded _)

/-! What can be written of what was read. -/

section Parsed

variable {line : Text} {message : Message}

theorem writable_of_parse? (parsed : parse? line = some message) : message.Writable := by
  obtain ⟨-, clean, afterOrigin, word, afterVerb, origin, split, worded, verb, params⟩ :=
    parse?_eq_some_iff.mp parsed
  have inVerb : word ⊆ body line :=
    List.Subset.trans split.word_subset origin.suffix.subset
  have inParams : afterVerb ⊆ body line :=
    (split.suffix.trans origin.suffix).subset
  have one := Bool.toNat_le message.trailing
  have short : message.params.length ≤ maxParams := by
    refine Nat.le_trans params.length_le ?_
    simp only [maxParams]
    omega
  refine ⟨?_, ?_, ?_, short, ?_, (params.middle split.started).1⟩
  · intro name named
    rw [Option.mem_def] at named
    rw [named] at origin
    exact ⟨origin.single, fun nul => clean (origin.origin_subset nul)⟩
  · rcases Verb.ofWord_cases word with ⟨command, _, same⟩ | same
    · rw [verb, same]
      exact ⟨command.isWord_name.ne_nil, command.isWord_name.single, command.nul_not_mem_name⟩
    · rw [verb, same]
      exact ⟨worded, split.single, fun nul => clean (inVerb nul)⟩
  · intro nobody c first
    rw [nobody] at origin
    obtain ⟨notColon, whole⟩ := origin.plain
    rcases Verb.ofWord_cases word with ⟨command, _, same⟩ | same
    · obtain ⟨d, rest, shape, visible, plain⟩ := command.isWord_name.head
      rw [verb, same, Verb.word, shape] at first
      cases first
      exact ⟨plain, visible⟩
    · rw [verb, same, Verb.word, ← split.head?_eq worded, whole] at first
      refine ⟨?_, body_begun line c first⟩
      rintro rfl
      exact notColon first
  · exact fun param member nul => clean (inParams (params.subset param member nul))

/-- Reading again changes nothing in a message that was read. -/
theorem reread_of_parse? (parsed : parse? line = some message) : message.reread = message := by
  obtain ⟨-, -, afterOrigin, word, afterVerb, -, split, -, verb, params⟩ :=
    parse?_eq_some_iff.mp parsed
  have sameVerb : Verb.ofWord message.verb.word = message.verb := by
    rw [verb, Verb.ofWord_word]
  have sameTrailing :
      endsTrailing (maxParams - 1) message.trailing message.params = message.trailing := by
    cases trailing : message.trailing with
    | true =>
        obtain ⟨final, found, -⟩ := params.suffix trailing
        have filled : message.params ≠ [] := by
          intro none
          rw [none] at found
          cases found
        simp [endsTrailing, filled]
    | false =>
        rw [trailing] at params
        have middle := (params.middle split.started).2 rfl
        have short := params.length_le
        cases last : message.params.getLast? with
        | none => simp [endsTrailing, List.getLast?_eq_none_iff.mp last]
        | some final =>
            have whole := needsColon_eq_false_iff.mpr (middle final (List.mem_of_getLast? last))
            have room : message.params.length ≠ maxParams - 1 + 1 := by
              simp only [Bool.toNat_false] at short
              omega
            simp [endsTrailing, last, whole, room]
  rw [reread, sameVerb, sameTrailing]

/-- A trailing parameter is what the line ends with, and that is no line ending. -/
theorem isEnded_of_trailing (parsed : parse? line = some message)
    (trailing : message.trailing = true) : message.IsEnded := by
  obtain ⟨-, -, afterOrigin, word, afterVerb, origin, split, -, -, params⟩ :=
    parse?_eq_some_iff.mp parsed
  obtain ⟨final, found, ending⟩ := params.suffix trailing
  obtain ⟨front, whole⟩ := (ending.trans split.suffix).trans origin.suffix
  rw [IsEnded, lastWord, found, Option.getD_some]
  cases last : final.getLast? with
  | none => rfl
  | some c =>
      refine body_ended line c ?_
      rw [← whole, List.getLast?_append, last]
      rfl

theorem isEnded_of_body (parsed : parse? line = some message)
    (clean : ∀ c ∈ body line, isLineEnd c = false) : message.IsEnded := by
  obtain ⟨-, -, afterOrigin, word, afterVerb, origin, split, -, verb, params⟩ :=
    parse?_eq_some_iff.mp parsed
  have ofBody : ∀ last : Text, last ⊆ body line → last.getLast?.any isLineEnd = false := by
    intro last inBody
    cases final : last.getLast? with
    | none => rfl
    | some c => exact clean c (inBody (List.mem_of_getLast? final))
  rw [IsEnded, lastWord]
  cases found : message.params.getLast? with
  | some final =>
      refine ofBody final (List.Subset.trans (params.subset final (List.mem_of_getLast? found)) ?_)
      exact (split.suffix.trans origin.suffix).subset
  | none =>
      rw [Option.getD_none]
      rcases Verb.ofWord_cases word with ⟨command, _, same⟩ | same
      · obtain ⟨c, last, visible⟩ := command.isWord_name.last
        rw [verb, same, Verb.word, last]
        exact isLineEnd_of_visible visible
      · rw [verb, same]
        exact ofBody word (List.Subset.trans split.word_subset origin.suffix.subset)

/-- A message that holds words only is written in no more room than it had in the line. -/
theorem content_length_le (parsed : parse? line = some message)
    (plain : message.trailing = false) : message.content.length ≤ (body line).length := by
  obtain ⟨-, -, afterOrigin, word, afterVerb, origin, split, worded, verb, params⟩ :=
    parse?_eq_some_iff.mp parsed
  have begun : afterOrigin ≠ [] := by
    rintro rfl
    exact worded (List.subset_nil.mp split.word_subset)
  have originRoom := origin.writeOrigin_length_le begun
  have verbRoom : message.verb.word.length = word.length := by
    rw [verb, Verb.length_word_ofWord]
  have paramsRoom := params.writeParams_length_le split.started plain
  rw [content, List.length_append, List.length_append, verbRoom, plain]
  split at paramsRoom
  · have wordRoom := split.word_length_le
    omega
  · rename_i more
    have wordRoom := split.length_le more
    omega

theorem body_serialize_length_lt (worded : message.verb.word ≠ []) (unended : ¬message.IsEnded) :
    (body message.serialize).length < message.content.length := by
  obtain ⟨c, final, dropped⟩ :
      ∃ c, message.lastWord.getLast? = some c ∧ isLineEnd c = true := by
    cases final : message.lastWord.getLast? with
    | none =>
        rw [IsEnded, final] at unended
        exact absurd rfl unended
    | some c =>
        rw [IsEnded, final, Option.any_some, Bool.not_eq_false] at unended
        exact ⟨c, rfl, unended⟩
  have last := getLast?_content worded
  rw [final, Option.getD_some] at last
  obtain ⟨front, shape⟩ := List.getLast?_eq_some_iff.mp last
  calc (body message.serialize).length
      ≤ (message.serialize.trimEndWhile isLineEnd).length := (body_sublist _).length_le
    _ = (Text.trimEndWhile isLineEnd front).length := by
        rw [serialize_eq, trimEndWhile_append_of_all _ isLineEnd_of_mem_crlf, shape,
          trimEndWhile_append_of_all _ (by simpa using dropped)]
    _ ≤ front.length := (trimEndWhile_begins _ _).length_le
    _ < message.content.length := by simp [shape]

theorem body_subset_of_ending {front ending : Text}
    (ends : ∀ c ∈ ending, isLineEnd c = true) : body (front ++ ending) ⊆ front := by
  have inTrimmed := (body_sublist (front ++ ending)).subset
  rw [trimEndWhile_append_of_all _ ends] at inTrimmed
  exact List.Subset.trans inTrimmed (trimEndWhile_begins _ _).subset

end Parsed

section Main

variable {line : Text} {message : Message}

/-- A message that was read is read again from what is written of it, unless it ends with a word
that ends like a line. -/
theorem parsed_reads_back (parsed : parse? line = some message) :
    (parse? message.serialize = some message ↔ message.trailing = true ∨ message.IsEnded) ∧
      ∀ front ending : Text, line = front ++ ending →
        (∀ c ∈ front, c ≠ '\r' ∧ c ≠ '\n') → (∀ c ∈ ending, c = '\r' ∨ c = '\n') →
          parse? message.serialize = some message := by
  have writable := writable_of_parse? parsed
  have back : message.IsEnded → parse? message.serialize = some message := by
    intro ended
    rw [parse?_serialize writable ended, reread_of_parse? parsed]
  refine ⟨⟨fun again => ?_, ?_⟩, ?_⟩
  · by_contra neither
    rw [not_or, Bool.not_eq_true] at neither
    have whole := content_length_le again neither.1
    have cut := body_serialize_length_lt writable.verb.1 neither.2
    omega
  · rintro (trailing | ended)
    · exact back (isEnded_of_trailing parsed trailing)
    · exact back ended
  · rintro front ending rfl clean ends
    refine back (isEnded_of_body parsed fun c member => ?_)
    have inFront := body_subset_of_ending (fun c member => by
      simpa [isLineEnd] using ends c member) member
    simpa [isLineEnd] using clean c inFront

/-- A return inside a line is kept as part of a word, and lost once the word ends the line. -/
theorem return_is_lost :
    parse? ("ping a\r  " : Text) = some ⟨none, .command .ping, ["a\r"], false⟩ ∧
      parse? (serialize ⟨none, .command .ping, ["a\r"], false⟩) ≠
        some ⟨none, .command .ping, ["a\r"], false⟩ := by
  have parsed : parse? ("ping a\r  " : Text) = some ⟨none, .command .ping, ["a\r"], false⟩ := by
    decide +kernel
  refine ⟨parsed, fun again => ?_⟩
  rcases (parsed_reads_back parsed).1.mp again with trailing | ended
  · cases trailing
  · exact absurd ended (by unfold IsEnded; decide)

/-- Every message that can be written, and that does not end like a line, is read back.  Its
command is known by its name, and whether its last parameter is trailing by what it holds. -/
theorem writable_reads_back (writable : message.Writable) (ended : message.IsEnded) :
    ∃ read, parse? message.serialize = some read ∧
      read.origin = message.origin ∧ read.params = message.params ∧
      (∀ command : Command,
        read.verb = .command command ↔ command.name.fold = message.verb.word.fold) ∧
      ((∀ command : Command, command.name.fold ≠ message.verb.word.fold) →
        read.verb = .other message.verb.word) ∧
      (read.trailing = true ↔ message.params ≠ [] ∧
        (message.trailing = true ∨
          (∃ last, message.params.getLast? = some last ∧
            (last = [] ∨ ' ' ∈ last ∨ last.head? = some ':')) ∨
          message.params.length = maxParams)) := by
  have known : ∀ command : Command,
      Verb.ofWord message.verb.word = .command command ↔
        command.name.fold = message.verb.word.fold := by
    intro command
    rw [← Command.ofName?_eq_some_iff_fold, Verb.ofWord]
    split
    · rename_i other found
      rw [found, Verb.command.injEq, Option.some.injEq]
    · rename_i unknown
      simp [unknown]
  refine ⟨message.reread, parse?_serialize writable ended, rfl, rfl, known, ?_, ?_⟩
  · intro unknown
    rcases Verb.ofWord_cases message.verb.word with ⟨command, _, same⟩ | same
    · exact absurd ((known command).mp same) (unknown command)
    · exact same
  · rw [reread, endsTrailing]
    by_cases alone : message.params = []
    · simp [alone]
    · obtain ⟨last, found⟩ : ∃ last, message.params.getLast? = some last :=
        ⟨_, List.getLast?_eq_some_getLast alone⟩
      simp only [found, Option.getD_some, needsColon, Bool.and_eq_true, Bool.or_eq_true,
        decide_eq_true_eq, List.contains_eq_mem, Option.some.injEq, exists_eq_left', or_assoc]
      rfl

/-- As many parameters as fit, behind an empty origin and a verb that names a command. -/
def crowded : Message :=
  { origin := some []
    verb := .reply "jOiN"
    params := List.replicate 14 "x" ++ [" \r:"]
    trailing := false }

theorem crowded_reads_back :
    crowded.Writable ∧ crowded.IsEnded ∧
      ∃ read, parse? crowded.serialize = some read ∧ read.origin = some [] ∧
        read.verb = .command .join ∧ read.params = crowded.params ∧ read.trailing = true := by
  have writable : crowded.Writable := by
    refine ⟨?_, ?_, ?_, ?_, ?_, ?_⟩ <;> decide +kernel
  have ended : crowded.IsEnded := by
    unfold IsEnded
    decide +kernel
  obtain ⟨read, parsed, origin, params, known, -, trailing⟩ := writable_reads_back writable ended
  refine ⟨writable, ended, read, parsed, origin, (known .join).mpr (by decide +kernel), params, ?_⟩
  exact trailing.mpr ⟨by decide +kernel, .inr (.inr (by decide +kernel))⟩

end Main

end Message

end IrcServer
