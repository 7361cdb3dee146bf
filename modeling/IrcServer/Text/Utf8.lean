import IrcServer.Text

namespace IrcServer

/-! Text as bytes.  Decoding never fails: every maximal piece of the input that starts a UTF-8
sequence without completing it, and every byte that starts none, is read as U+FFFD. -/

namespace Utf8

def encode (text : Text) : List UInt8 :=
  text.flatMap String.utf8EncodeChar

/-- What a first byte announces: its own bits of the character, the number of bytes that follow it,
and the bounds of the first of them.  The bounds exclude long forms, surrogates and numbers above
U+10FFFF. -/
structure Lead where
  bits : Nat
  following : Nat
  low : UInt8
  high : UInt8

def Lead.ofByte? (byte : UInt8) : Option Lead :=
  let n := byte.toNat
  if n < 0x80 then some ⟨n, 0, 0x80, 0xBF⟩
  else if n < 0xC2 then none
  else if n < 0xE0 then some ⟨n - 0xC0, 1, 0x80, 0xBF⟩
  else if n = 0xE0 then some ⟨0, 2, 0xA0, 0xBF⟩
  else if n = 0xED then some ⟨0xD, 2, 0x80, 0x9F⟩
  else if n < 0xF0 then some ⟨n - 0xE0, 2, 0x80, 0xBF⟩
  else if n = 0xF0 then some ⟨0, 3, 0x90, 0xBF⟩
  else if n < 0xF4 then some ⟨n - 0xF0, 3, 0x80, 0xBF⟩
  else if n = 0xF4 then some ⟨4, 3, 0x80, 0x8F⟩
  else none

/-- Reads the bytes that follow a first byte.  Returns the character's number, or `none` at the
first byte that does not fit, and the bytes that are left. -/
def following : Nat → UInt8 → UInt8 → Nat → List UInt8 → Option Nat × List UInt8
  | 0, _, _, value, bytes => (some value, bytes)
  | _ + 1, _, _, _, [] => (none, [])
  | count + 1, low, high, value, byte :: bytes =>
      if low ≤ byte ∧ byte ≤ high then
        following count 0x80 0xBF (value * 64 + (byte.toNat - 0x80)) bytes
      else (none, byte :: bytes)

theorem following_length_le (count : Nat) (low high : UInt8) (value : Nat) (bytes : List UInt8) :
    (following count low high value bytes).2.length ≤ bytes.length := by
  induction count generalizing low high value bytes with
  | zero => simp [following]
  | succ count inductionHypothesis =>
      cases bytes with
      | nil => simp [following]
      | cons byte bytes =>
          unfold following
          split
          · exact Nat.le_succ_of_le (inductionHypothesis _ _ _ _)
          · simp

/-- U+FFFD, the replacement character. -/
def replacement : Char := Char.ofNat 0xFFFD

def decode : List UInt8 → Text
  | [] => []
  | byte :: bytes =>
      match Lead.ofByte? byte with
      | none => replacement :: decode bytes
      | some lead =>
          let read := following lead.following lead.low lead.high lead.bits bytes
          (read.1.elim replacement Char.ofNat) :: decode read.2
termination_by bytes => bytes.length
decreasing_by
  · simp
  · exact Nat.lt_succ_of_le (following_length_le _ _ _ _ _)

/-- Whether the bytes are the UTF-8 form of some text. -/
def isValid (bytes : List UInt8) : Bool :=
  encode (decode bytes) = bytes

end Utf8

end IrcServer
