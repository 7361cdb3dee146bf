import IrcServer.Proofs.Heard
import IrcServer.Proofs.Lacks
import IrcServer.Proofs.RoundTrip

namespace IrcServer

/-! How a line is read that was cut when it was sent.

The cut takes bytes from the end of the line.  While it does not reach what stands before the final
text, the line is read as a message with its origin, its command and all its words, and with a
beginning of the text (`Line.parse?_wire`). -/

namespace Text

theorem takeBytes_zero (text : Text) : text.takeBytes 0 = [] := by
  cases text with
  | nil => rfl
  | cons c rest => simp [takeBytes, Nat.not_le.mpr c.utf8Size_pos]

theorem byteLength_le_of_sublist {part whole : Text} (inside : part.Sublist whole) :
    part.byteLength ≤ whole.byteLength := by
  induction inside with
  | slnil => exact Nat.le_refl _
  | cons c _ inductionHypothesis => exact Nat.le_trans inductionHypothesis (Nat.le_add_left _ _)
  | cons_cons c _ inductionHypothesis => exact Nat.add_le_add_left inductionHypothesis _

theorem byteLength_trim_le (text : Text) : text.trim.byteLength ≤ text.byteLength :=
  byteLength_le_of_sublist text.trim_sublist

/-- White space stands at neither end of what is trimmed. -/
theorem trim_ends {text : Text} (filled : text.trim ≠ []) :
    (∃ c rest, text.trim = c :: rest ∧ isBlank c = false) ∧
      ∃ c, text.trim.getLast? = some c ∧ isBlank c = false := by
  have started := List.head?_dropWhile_not isBlank text
  have final := List.head?_dropWhile_not isBlank text.trimStart.reverse
  constructor
  · obtain ⟨c, rest, shape⟩ := List.exists_cons_of_ne_nil filled
    obtain ⟨after, whole⟩ := trimEndWhile_begins isBlank text.trimStart
    have first : text.dropWhile isBlank = c :: (rest ++ after) := by
      change text.trim ++ after = text.dropWhile isBlank at whole
      rw [← whole, shape, List.cons_append]
    exact ⟨c, rest, shape, by simpa [first] using started⟩
  · obtain ⟨c, last⟩ := Option.ne_none_iff_exists'.mp (mt List.getLast?_eq_none_iff.mp filled)
    refine ⟨c, last, ?_⟩
    rw [trim, trimEnd, trimEndWhile, List.getLast?_reverse] at last
    simpa [last] using final

/-- What is trimmed is a word if no space is left in it and it starts like one. -/
theorem isWord_of_trim {text : Text} (filled : text.trim ≠ []) (plain : text.trim.head? ≠ some ':')
    (single : ' ' ∉ text.trim) : IsWord text.trim := by
  obtain ⟨⟨c, rest, shape, visible⟩, last⟩ := trim_ends filled
  exact ⟨⟨c, rest, shape, visible, by simpa [shape] using plain⟩, last, single⟩

theorem isWord_trim {c : Char} {rest : Text} (visible : isBlank c = false) (plain : c ≠ ':')
    (single : ' ' ∉ c :: rest) : IsWord (trim (c :: rest)) := by
  have first : trimEndWhile isBlank [c] = [c] := trimEndWhile_of_last rfl visible
  have shape : trim (c :: rest) = c :: trimEndWhile isBlank rest := by
    rw [trim, trimStart_cons visible, trimEnd]
    exact trimEndWhile_append first rest
  apply isWord_of_trim
  · simp [shape]
  · simp [shape, plain]
  · exact fun inside => single ((trim_sublist _).subset inside)

end Text

namespace Message

/-- Words after each other, and what follows them, read as parameters. -/
theorem paramsOf_words {words : List Text} (each : ∀ word ∈ words, word.IsWord) {ending : Text}
    (apart : ending = [] ∨ ∃ rest, ending = ' ' :: rest) {params : List Text} {trailing : Bool}
    {slots : Nat} (fits : words.length ≤ slots)
    (read : ParamsOf (slots - words.length) (ending.dropWhile (· = ' ')) params trailing) :
    ParamsOf slots (((words.flatMap fun word => ' ' :: word) ++ ending).dropWhile (· = ' '))
      (words ++ params) trailing := by
  induction words generalizing slots with
  | nil => exact read
  | cons word rest inductionHypothesis =>
      obtain ⟨isWord, others⟩ := List.forall_mem_cons.mp each
      obtain ⟨c, letters, shape, -, plain⟩ := isWord.head
      have middle : IsMiddle word :=
        ⟨isWord.ne_nil, isWord.single, by simpa [shape] using plain⟩
      have tail : (rest.flatMap fun word => ' ' :: word) ++ ending = [] ∨
          ∃ after, (rest.flatMap fun word => ' ' :: word) ++ ending = ' ' :: after := by
        cases rest with
        | nil => exact apart
        | cons next rest => exact .inr ⟨_, rfl⟩
      rw [List.flatMap_cons, List.append_assoc, List.cons_append, dropWhile_middle middle]
      cases slots with
      | zero => cases fits
      | succ slots =>
          apply ParamsOf.word _ _ (Text.splitWord_eq_iff.mp (Text.splitWord_append isWord.single tail))
          · rw [List.length_cons, Nat.add_sub_add_right] at read
            exact inductionHypothesis others (Nat.le_of_succ_le_succ fits) read
          · exact List.append_ne_nil_of_left_ne_nil middle.filled _
          · rw [List.head?_append_of_ne_nil _ middle.filled]
            exact middle.plain

/-- A line with an origin, a word, and what is read after it. -/
theorem parse?_of_body {line origin word tail : Text} (verb : word.IsWord) {params : List Text}
    {trailing : Bool} (shape : body line = ':' :: (origin ++ ' ' :: (word ++ tail)))
    (clean : Char.ofNat 0 ∉ body line) (single : ' ' ∉ origin)
    (apart : tail = [] ∨ ∃ rest, tail = ' ' :: rest)
    (read : ParamsOf (maxParams - 1) (tail.dropWhile (· = ' ')) params trailing) :
    parse? line = some { origin := some origin, verb := .ofWord word, params, trailing } := by
  have started : (word ++ tail).head? ≠ some ' ' := by
    rw [List.head?_append_of_ne_nil _ verb.ne_nil]
    exact fun space => verb.single (List.mem_of_mem_head? space)
  have first : Text.Split (origin ++ ' ' :: (word ++ tail)) origin (word ++ tail) :=
    ⟨⟨1, rfl, fun _ => Nat.one_pos⟩, single, started⟩
  have second := Text.splitWord_eq_iff.mp (Text.splitWord_append verb.single apart)
  rw [parse?_eq_some_iff]
  refine ⟨?_, clean, _, _, _, ?_, second, verb.ne_nil, rfl, read⟩
  · rw [shape]
    exact List.cons_ne_nil _ _
  · rw [shape]
    exact .present first

end Message

namespace Line

/-- The line up to its final text. -/
def head (line : Line) : Text :=
  rawOrigin line.origin ++ line.command ++ line.params.flatMap Param.raw

/-- The cut does not reach what stands before the final text. -/
def HeadFits (line : Line) : Prop :=
  line.head.byteLength ≤ maxLineBytes - 2

/-- The bytes that are left for the space, the colon and the final text. -/
def room (line : Line) : Nat :=
  maxLineBytes - 2 - line.head.byteLength

/-- The final text as it is read: what fits, without line endings at its end.  It is lost where
there is no room for the colon. -/
def shownText (line : Line) : Option Text :=
  line.text.bind fun text =>
    if line.room < 2 then none
    else some ((text.takeBytes (line.room - 2)).trimEndWhile Message.isLineEnd)

/-- What is left of the final text on the wire, with the space and the colon in front of it. -/
def ending (line : Line) : Text :=
  (rawText line.text).takeBytes line.room

variable {line : Line}

theorem raw_eq_head (line : Line) : line.raw = line.head ++ rawText line.text := rfl

theorem cut_raw (fits : line.HeadFits) : cut line.raw = line.head ++ line.ending := by
  have whole : maxLineBytes - 2 = line.head.byteLength + line.room :=
    (Nat.add_sub_cancel' fits).symm
  rw [cut, whole, raw_eq_head, Text.takeBytes_append, ending]

theorem shownText_begins : ∀ shown ∈ line.shownText, ∃ text ∈ line.text, shown <+: text := by
  intro shown known
  obtain ⟨text, given, kept⟩ := Option.bind_eq_some_iff.mp known
  use text, given
  split at kept
  · cases kept
  · cases kept
    exact (Text.trimEndWhile_begins _ _).trans (Text.takeBytes_prefix _ _)

theorem shownText_of_uncut (uncut : line.Uncut) :
    line.shownText = line.text.map fun text => text.trimEndWhile Message.isLineEnd := by
  cases given : line.text with
  | none => rw [shownText, given, Option.bind_none, Option.map_none]
  | some text =>
      have whole : line.head.byteLength + (2 + text.byteLength) ≤ maxLineBytes - 2 := by
        rw [Uncut, raw_eq_head, given, Text.byteLength_append] at uncut
        rwa [show (rawText (some text)).byteLength = 2 + text.byteLength from
          Text.byteLength_append [' ', ':'] text] at uncut
      have room : 2 + text.byteLength ≤ line.room := Nat.le_sub_of_add_le' whole
      have fits : text.takeBytes (line.room - 2) = text := Text.takeBytes_eq_self (by omega)
      rw [shownText, given, Option.bind_some, if_neg (by omega), fits, Option.map_some]

/-- What the reader makes of the end of the line: a text, a space or nothing. -/
theorem trimmed_ending (line : Line) :
    (line.ending.trimEndWhile Message.isLineEnd = [] ∨
      ∃ rest, line.ending.trimEndWhile Message.isLineEnd = ' ' :: rest) ∧
    ∀ slots, Message.ParamsOf slots
      ((line.ending.trimEndWhile Message.isLineEnd).dropWhile (· = ' '))
      line.shownText.toList line.shownText.isSome := by
  have space : Text.trimEndWhile Message.isLineEnd [' '] = [' '] := by decide
  have colon : Text.trimEndWhile Message.isLineEnd [' ', ':'] = [' ', ':'] := by decide
  have sizes : ' '.utf8Size = 1 ∧ ':'.utf8Size = 1 := by decide
  cases given : line.text with
  | none =>
      rw [ending, shownText, given]
      exact ⟨.inl rfl, fun slots => .nothing⟩
  | some text =>
      rw [ending, shownText, given, rawText, Option.bind_some]
      rcases line.room with - | - | room
      · rw [Text.takeBytes_zero]
        exact ⟨.inl rfl, fun slots => .nothing⟩
      · have left : Text.takeBytes 1 (' ' :: ':' :: text) = [' '] := by
          simp [Text.takeBytes, sizes]
        rw [left, space]
        exact ⟨.inr ⟨_, rfl⟩, fun slots => .nothing⟩
      · have left : Text.takeBytes (room + 2) (' ' :: ':' :: text) =
            [' ', ':'] ++ text.takeBytes room := by
          rw [Nat.add_comm]
          exact Text.takeBytes_append [' ', ':'] text room
        rw [left, Text.trimEndWhile_append colon, if_neg (by omega)]
        exact ⟨.inr ⟨_, rfl⟩, fun slots => .marked⟩

theorem body_cut (fits : line.HeadFits) (verb : line.command.IsWord) {words : List Text}
    (params : line.params.flatMap Param.raw = words.flatMap fun word => ' ' :: word)
    (each : ∀ word ∈ words, word.IsWord) :
    Message.body line.wire = line.head ++ line.ending.trimEndWhile Message.isLineEnd := by
  have kept : Text.trimEndWhile Message.isLineEnd (line.params.flatMap Param.raw) =
      line.params.flatMap Param.raw := by
    have wordsOnly := trimEndWhile_written each none
    simp only [written, rawText, List.append_nil, Option.map_none] at wordsOnly
    rw [params, wordsOnly]
  have front : line.head.trimEndWhile Message.isLineEnd = line.head := by
    rw [head, Text.trimEndWhile_append (trimEndWhile_front verb), kept]
  rw [Message.body, wire, Text.trimEndWhile_append_of_all _ Text.isLineEnd_of_mem_crlf,
    cut_raw fits, Text.trimEndWhile_append front, head, List.append_assoc]
  exact trimStart_front verb _

/-- Whatever the cut leaves of the final text, all that stands before it is read as it was meant. -/
theorem parse?_wire {command : Command} {words : List Text} (named : line.command = command.name)
    (params : line.params = words.map .word) (origin : line.origin ≠ [])
    (single : ' ' ∉ line.origin) (each : ∀ word ∈ words, word.trim.IsWord)
    (few : words.length ≤ maxParams - 1) (clean : Char.ofNat 0 ∉ line.raw)
    (fits : line.HeadFits) :
    Message.parse? line.wire =
      some { origin := some line.origin
             verb := .command command
             params := words.map Text.trim ++ line.shownText.toList
             trailing := line.shownText.isSome } := by
  have trimmed : ∀ word ∈ words.map Text.trim, word.IsWord := List.forall_mem_map.mpr each
  have raw : line.params.flatMap Param.raw =
      (words.map Text.trim).flatMap fun word => ' ' :: word := by
    rw [params, List.flatMap_map, List.flatMap_map]
    apply List.flatMap_congr
    intro word member
    rw [Param.raw, if_neg (each word member).ne_nil]
  have body := body_cut fits (named ▸ command.isWord_name) raw trimmed
  have inside : line.head ++ line.ending.trimEndWhile Message.isLineEnd <+: line.raw := by
    rw [raw_eq_head, List.prefix_append_right_inj]
    exact (Text.trimEndWhile_begins _ _).trans (Text.takeBytes_prefix _ _)
  obtain ⟨apart, last⟩ := line.trimmed_ending
  have params := Message.paramsOf_words trimmed apart (by simpa using few) (last _)
  have known : Verb.command command = .ofWord command.name := by
    rw [Verb.ofWord, Command.ofName?_name]
  rw [known]
  apply Message.parse?_of_body command.isWord_name _ _ single _ params
  · rw [body, head, raw, named, rawOrigin, if_neg origin]
    simp
  · rw [body]
    exact fun member => clean (inside.subset member)
  · cases words with
    | nil => exact apart
    | cons first others => exact .inr ⟨_, rfl⟩

end Line

end IrcServer
