import IrcServer.Draft
import IrcServer.Proofs.Encoding
import IrcServer.Proofs.Lacks

namespace IrcServer

/-! Lines in a buffer, each cut by itself.

All lines grow in one text, and a line that is too long is cut by taking characters off the end of
that text.  What is taken off is never part of another line, or half a character. -/

/-- `kept` is the longest beginning of `text` that has at most `limit` bytes. -/
structure Text.Fitted (limit : Nat) (text kept : Text) : Prop where
  begins : kept <+: text
  fits : kept.byteLength ≤ limit
  longest : ∀ other : Text, other <+: text → other.byteLength ≤ limit → other <+: kept

namespace Text

variable {limit : Nat} {text kept : Text}

theorem fitted_takeBytes (limit : Nat) (text : Text) : Fitted limit text (text.takeBytes limit) where
  begins := takeBytes_prefix limit text
  fits := byteLength_takeBytes_le limit text
  longest := by
    rintro other ⟨rest, rfl⟩ small
    rw [← Nat.add_sub_cancel' small, takeBytes_append]
    exact List.prefix_append _ _

/-- The next character did not fit, and no character has more than four bytes. -/
theorem Fitted.le_add_three (fitted : Fitted limit text kept) (long : limit < text.byteLength) :
    limit ≤ kept.byteLength + 3 := by
  obtain ⟨rest, rfl⟩ := fitted.begins
  cases rest with
  | nil =>
      rw [List.append_nil] at long
      exact absurd fitted.fits (Nat.not_le_of_lt long)
  | cons c rest =>
      have size : byteLength (kept ++ [c]) = kept.byteLength + c.utf8Size := by simp
      have small : c.utf8Size ≤ 4 := c.utf8Size_le_four
      by_cases more : byteLength (kept ++ [c]) ≤ limit
      · have longer := fitted.longest (kept ++ [c]) ⟨rest, by simp⟩ more
        exact absurd longer.length_le (by simp)
      · omega

end Text

namespace Line

theorem fitted_cut (text : Text) : Text.Fitted 510 text (cut text) :=
  Text.fitted_takeBytes 510 text

theorem cut_of_fits {text : Text} (fits : text.byteLength ≤ 510) : cut text = text :=
  Text.takeBytes_eq_self fits

end Line

namespace Utf8

theorem isValid_encode (text : Text) : isValid (encode text) = true := by
  rw [isValid, decode_encode]
  exact decide_eq_true rfl

end Utf8

/-- A draft as a line that is sent. -/
def Draft.wire (draft : Draft) : Text :=
  Line.cut draft.raw ++ crlf

namespace Draft

theorem wire_ne_nil (draft : Draft) : draft.wire ≠ [] :=
  List.append_ne_nil_of_right_ne_nil _ (List.cons_ne_nil _ _)

theorem byteLength_wire_le (draft : Draft) : draft.wire.byteLength ≤ 512 := by
  have ending : Text.byteLength crlf = 2 := by decide
  have room := (Line.fitted_cut draft.raw).fits
  rw [wire, Text.byteLength_append, ending]
  exact Nat.add_le_add_right room 2

theorem flatMap_wire_eq_nil_iff {drafts : List Draft} : drafts.flatMap wire = [] ↔ drafts = [] := by
  cases drafts with
  | nil => simp
  | cons first rest => simp [wire_ne_nil]

end Draft

namespace Buffer

theorem text_drafts (drafts : List Draft) (buffer : Buffer) :
    (drafts.foldl draft buffer).text = buffer.text ++ drafts.flatMap Draft.wire := by
  induction drafts generalizing buffer with
  | nil => simp
  | cons first rest inductionHypothesis =>
      rw [List.foldl_cons, inductionHypothesis, text_draft, List.flatMap_cons, List.append_assoc]
      rfl

theorem isEmpty_iff {buffer : Buffer} : buffer.isEmpty = true ↔ buffer.text = [] :=
  decide_eq_true_iff

end Buffer

/-- The lines that are written step by step for a client with this nickname. -/
def ReplyStep.drafts (domain : Text) : Text → List ReplyStep → List Draft
  | _, [] => []
  | _, .setNick nick :: rest => drafts domain nick rest
  | nick, .reply code parts :: rest =>
      ⟨domain, code, .param (.word nick) :: parts⟩ :: drafts domain nick rest
  | nick, .plain command parts :: rest => ⟨domain, command, parts⟩ :: drafts domain nick rest
  | nick, .message draft :: rest => draft :: drafts domain nick rest

theorem ReplyBuffer.text_steps (steps : List ReplyStep) (replies : ReplyBuffer) :
    (steps.foldl step replies).buffer.text =
      replies.buffer.text ++
        (ReplyStep.drafts replies.addressee.domain replies.addressee.nick steps).flatMap
          Draft.wire := by
  induction steps generalizing replies with
  | nil => simp [ReplyStep.drafts]
  | cons first rest inductionHypothesis =>
      rw [List.foldl_cons, inductionHypothesis]
      cases first with
      | setNick nick => rfl
      | reply code parts | plain code parts | message draft =>
          rw [ReplyStep.drafts, List.flatMap_cons, ← List.append_assoc, Draft.wire,
            ← Buffer.text_draft]
          rfl

/-- Whatever lines are written, a buffer holds each of them as it would be alone, cut to the longest
beginning that fits.  So are the lines of the server written, and those of a reply buffer whose
nickname changes in between. -/
theorem Buffer.lines_are_cut_alone :
    (∀ (buffer : Buffer) (line : Line), buffer.message line = buffer.draft line.draft) ∧
    (∀ (replies : ReplyBuffer) (line : Line),
      replies.message line = replies.step (.message line.draft)) ∧
    (∀ draft : Draft,
      let raw := (empty.begin draft).text
      raw = draft.raw ∧ Text.Fitted 510 raw (Line.cut raw) ∧
        (raw.byteLength ≤ 510 → Line.cut raw = raw) ∧
        (510 < raw.byteLength → 507 ≤ (Line.cut raw).byteLength) ∧
        (Line.cut raw ++ crlf).byteLength ≤ 512) ∧
    (∀ drafts : List Draft,
      let built := drafts.foldl Buffer.draft empty
      built.text = drafts.flatMap (fun draft => Line.cut (empty.begin draft).text ++ crlf) ∧
        Utf8.isValid (Utf8.encode built.text) = true ∧ (built.isEmpty = true ↔ drafts = [])) ∧
    ∀ (domain nick : Text) (steps : List ReplyStep),
      let built := (steps.foldl ReplyBuffer.step (.new domain nick)).buffer
      let drafts := ReplyStep.drafts domain nick steps
      built.text = drafts.flatMap (fun draft => Line.cut (empty.begin draft).text ++ crlf) ∧
        Utf8.isValid (Utf8.encode built.text) = true ∧ (built.isEmpty = true ↔ drafts = []) := by
  have alone : ∀ draft : Draft, (empty.begin draft).text = draft.raw := fun draft =>
    text_begin empty draft
  have wires : (fun draft => Line.cut (empty.begin draft).text ++ crlf) = Draft.wire :=
    funext fun draft => by rw [alone, Draft.wire]
  refine ⟨message_eq_draft, ReplyBuffer.message_eq_step, fun draft => ?_, fun drafts => ?_,
    fun domain nick steps => ?_⟩
  · intro raw
    have fitted : Text.Fitted 510 raw (Line.cut raw) := Line.fitted_cut raw
    refine ⟨alone draft, fitted, Line.cut_of_fits, fun long => ?_, ?_⟩
    · have lost := fitted.le_add_three long
      omega
    · have short := draft.byteLength_wire_le
      rwa [Draft.wire, ← alone] at short
  · intro built
    have text : built.text = drafts.flatMap Draft.wire := text_drafts drafts empty
    refine ⟨wires ▸ text, Utf8.isValid_encode _, ?_⟩
    rw [isEmpty_iff, text, Draft.flatMap_wire_eq_nil_iff]
  · intro built written
    have text : built.text = written.flatMap Draft.wire :=
      ReplyBuffer.text_steps steps (.new domain nick)
    refine ⟨wires ▸ text, Utf8.isValid_encode _, ?_⟩
    rw [isEmpty_iff, text, Draft.flatMap_wire_eq_nil_iff]

end IrcServer
