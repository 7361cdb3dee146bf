import IrcServer.Proofs.Cuts
import IrcServer.Proofs.Numerics
import IrcServer.Proofs.RoundTrip

namespace IrcServer

/-! A line that is put together, and the message that it is.

A line can be written piece by piece, where each piece is trimmed and the whole is cut, or as a
message, where the last parameter is given its colon.  Both write the same text for as long as it
fits in a line, and reading gives the message back. -/

/-- What a line shows of the words that are written to it as parameters. -/
def Param.shown (words : List Text) : List Text :=
  (words.map Text.trim).filter (· ≠ [])

namespace Line

/-- A line with these words as parameters, and a text. -/
def spoken (origin : Text) (verb : Verb) (words : List Text) (text : Text) : Line :=
  ⟨origin, verb.word, words.map .word, some text⟩

/-- The message that the line is. -/
def asMessage (origin : Text) (verb : Verb) (words : List Text) (text : Text) : Message :=
  { origin := if origin = [] then none else some origin
    verb
    params := Param.shown words ++ [text]
    trailing := true }

end Line

/-- A verb that is a command or a number. -/
def Verb.IsNamed (verb : Verb) : Prop :=
  (∃ command : Command, verb = .command command) ∨
    (verb.word ≠ [] ∧ ∀ c ∈ verb.word, c.isDigit = true)

namespace Verb

variable {verb : Verb}

theorem IsNamed.isWord (named : verb.IsNamed) : verb.word.IsWord := by
  rcases named with ⟨command, rfl⟩ | ⟨filled, digits⟩
  · exact command.isWord_name
  · exact Text.isWord_of_digits filled digits

theorem IsNamed.nul_not_mem (named : verb.IsNamed) : Char.ofNat 0 ∉ verb.word := by
  rcases named with ⟨command, rfl⟩ | ⟨_, digits⟩
  · exact command.nul_not_mem_name
  · exact fun nul => absurd (digits _ nul) (by decide)

/-- The word is read as a verb with the same word. -/
theorem IsNamed.word_ofWord (named : verb.IsNamed) : (ofWord verb.word).word = verb.word := by
  rcases named with ⟨command, rfl⟩ | ⟨_, digits⟩
  · rw [word, ofWord, Command.ofName?_name, word]
  · -- Even if a number were a command, it has no letters for the upper case to change.
    have upper : verb.word.toUpper = verb.word := by
      refine (List.map_congr_left fun c member => ?_).trans (List.map_id _)
      have digit := digits c member
      simp only [Char.isDigit, Bool.and_eq_true, decide_eq_true_eq] at digit
      have small : c.toNat ≤ 57 := UInt32.le_iff_toNat_le.mp digit.2
      rw [id, ← Char.toNat_inj, Text.toNat_toUpper, if_neg (by omega)]
    rcases ofWord_cases verb.word with ⟨command, same, read⟩ | read
    · rw [read, word, same, upper]
    · rw [read, word]

end Verb

/-- A line is cut in the same way whatever follows where it is cut. -/
theorem Text.Fitted.append {limit : Nat} {text kept : Text} (fitted : Fitted limit text kept)
    (long : limit < text.byteLength) (rest : Text) : Fitted limit (text ++ rest) kept where
  begins := fitted.begins.trans (List.prefix_append _ _)
  fits := fitted.fits
  longest := by
    intro other begins small
    rcases List.prefix_or_prefix_of_prefix begins (List.prefix_append text rest) with inside | more
    · exact fitted.longest other inside small
    · -- A beginning that holds all of `text` is too long already.
      obtain ⟨added, rfl⟩ := more
      rw [byteLength_append] at small
      omega

theorem Param.flatMap_words (words : List Text) :
    (words.map Param.word).flatMap Param.words = shown words := by
  unfold shown
  induction words with
  | nil => rfl
  | cons word rest inductionHypothesis =>
      rw [List.map_cons, List.flatMap_cons, inductionHypothesis, List.map_cons, Param.words]
      by_cases blank : word.trim = []
      · simp [blank]
      · simp [blank]

/-- All parameters but the trailing one are written as they are. -/
theorem Message.writeParams_trailing (words : List Text) (text : Text) :
    writeParams true (words ++ [text]) = written words (some text) := by
  induction words with
  | nil => rfl
  | cons word rest inductionHypothesis =>
      rw [List.cons_append, writeParams, inductionHypothesis, written, written, List.flatMap_cons,
        List.append_assoc]
      simp

namespace Line

/-- What has to hold of a line for a reader to find in it what was meant. -/
structure Legible (origin : Text) (verb : Verb) (words : List Text) (text : Text) : Prop where
  fits : (asMessage origin verb words text).serialize.byteLength ≤ 512
  few : (Param.shown words).length ≤ 14
  plain : ∀ word ∈ Param.shown words, ' ' ∉ word ∧ word.head? ≠ some ':'
  clean : ∀ part ∈ origin :: text :: Param.shown words, Char.ofNat 0 ∉ part
  single : ' ' ∉ origin
  named : verb.IsNamed
  ended : ∀ c ∈ text.getLast?, c ≠ '\r' ∧ c ≠ '\n'

variable {origin : Text} {verb : Verb} {words : List Text} {text : Text}

theorem raw_spoken :
    (spoken origin verb words text).raw = (asMessage origin verb words text).content := by
  have front : rawOrigin origin =
      Message.writeOrigin (if origin = [] then none else some origin) := by
    unfold rawOrigin
    split <;> rfl
  simp only [raw, Message.content, spoken, asMessage, Message.writeParams_trailing, written,
    Param.flatMap_raw, Param.flatMap_words, front, List.append_assoc]

theorem byteLength_serialize (message : Message) :
    message.serialize.byteLength = message.content.byteLength + 2 := by
  rw [Message.serialize_eq, Text.byteLength_append]
  rfl

theorem wire_spoken_of_fits
    (fits : (asMessage origin verb words text).serialize.byteLength ≤ 512) :
    (spoken origin verb words text).wire = (asMessage origin verb words text).serialize := by
  rw [byteLength_serialize] at fits
  rw [wire, raw_spoken, cut_of_fits (by omega), Message.serialize_eq]

/-- What is shown of a word is never empty, so only a space or a colon could have it misread. -/
theorem Legible.isMiddle (legible : Legible origin verb words text) {word : Text}
    (shown : word ∈ Param.shown words) : Message.IsMiddle word := by
  obtain ⟨single, plain⟩ := legible.plain word shown
  obtain ⟨-, filled⟩ := List.mem_filter.mp shown
  exact ⟨of_decide_eq_true filled, single, plain⟩

theorem Legible.writable (legible : Legible origin verb words text) :
    (asMessage origin verb words text).Writable := by
  have isWord := legible.named.isWord
  refine ⟨?_, ⟨isWord.ne_nil, isWord.single, legible.named.nul_not_mem⟩, ?_, ?_, ?_, ?_⟩
  · intro name named
    obtain ⟨-, rfl⟩ : ¬origin = [] ∧ origin = name := by
      simpa [asMessage] using named
    exact ⟨legible.single, legible.clean origin List.mem_cons_self⟩
  · rintro - c first
    obtain ⟨head, rest, shape, visible, plain⟩ := isWord.head
    rw [asMessage, shape] at first
    cases first
    exact ⟨plain, visible⟩
  · have few := legible.few
    simp only [asMessage, List.length_append, List.length_singleton, maxParams]
    omega
  · intro param member
    refine legible.clean param (List.mem_cons_of_mem _ ?_)
    rcases List.mem_append.mp member with shown | last
    · exact List.mem_cons_of_mem _ shown
    · rw [List.mem_singleton.mp last]
      exact List.mem_cons_self
  · intro param member
    rw [asMessage, List.dropLast_concat] at member
    exact legible.isMiddle member

theorem Legible.isEnded (legible : Legible origin verb words text) :
    (asMessage origin verb words text).IsEnded := by
  have last : (asMessage origin verb words text).lastWord = text := by
    rw [Message.lastWord, asMessage, List.getLast?_concat, Option.getD_some]
  rw [Message.IsEnded, last]
  cases final : text.getLast? with
  | none => rfl
  | some c =>
      obtain ⟨notReturn, notFeed⟩ := legible.ended c final
      simp [Message.isLineEnd, notReturn, notFeed]

/-- A line that is put together is the message that it is, for as long as that fits, and otherwise
as much of it as fits.  A reader finds in it the origin, the verb, the words and the text. -/
theorem encoders_agree (origin : Text) (verb : Verb) (words : List Text) (text : Text) :
    let line := spoken origin verb words text
    let message := asMessage origin verb words text
    (∀ buffer : Buffer, (buffer.message line).text = buffer.text ++ line.wire) ∧
    (message.serialize.byteLength ≤ 512 → line.wire = message.serialize) ∧
    (512 < message.serialize.byteLength →
      ∃ kept, line.wire = kept ++ crlf ∧ Text.Fitted 510 message.serialize kept) ∧
    (Legible origin verb words text →
      ∃ read, Message.parse? line.wire = some read ∧ read.origin = message.origin ∧
        read.verb.word = verb.word ∧ read.params = Param.shown words ++ [text] ∧
        read.trailing = true) := by
  dsimp only
  refine ⟨fun buffer => buffer.text_message _, wire_spoken_of_fits, fun long => ?_,
    fun legible => ?_⟩
  · refine ⟨cut (spoken origin verb words text).raw, rfl, ?_⟩
    rw [byteLength_serialize] at long
    rw [raw_spoken, Message.serialize_eq]
    exact (fitted_cut _).append (by omega) crlf
  · refine ⟨(asMessage origin verb words text).reread, ?_, rfl, legible.named.word_ofWord, rfl, ?_⟩
    · rw [wire_spoken_of_fits legible.fits]
      exact Message.parse?_serialize legible.writable legible.isEnded
    · simp [Message.reread, Message.endsTrailing, asMessage]

/-- Of a line with a blank word, a padded one and a text that starts with a colon, a reader finds
what was meant. -/
theorem encoders_agree_on_names :
    let words : List Text := ["jasmine", " = ", "   ", "#tea"]
    ∃ read, Message.parse? (spoken "tea" (.reply "353") words ":green tea").wire = some read ∧
      read.verb.word = "353" ∧ read.params = ["jasmine", "=", "#tea", ":green tea"] ∧
      read.trailing = true := by
  have digits : Verb.IsNamed (.reply "353") :=
    .inr ⟨by decide, List.all_eq_true.mp (by decide)⟩
  have ended : ∀ c ∈ List.getLast? (":green tea" : Text), c ≠ '\r' ∧ c ≠ '\n' := by
    rintro c ⟨⟩
    decide
  obtain ⟨read, parsed, -, word, params, trailing⟩ :=
    (encoders_agree "tea" (.reply "353") ["jasmine", " = ", "   ", "#tea"] ":green tea").2.2.2
      { fits := by decide +kernel, few := by decide +kernel, plain := by decide +kernel,
        clean := by decide +kernel, single := by decide, named := digits, ended }
  exact ⟨read, parsed, word, params, trailing⟩

end Line

end IrcServer
