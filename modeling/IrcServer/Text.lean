namespace IrcServer

/-! Text as the server handles it: a list of characters, measured in UTF-8 bytes.

Limits of the wire are byte limits, so `byteLength` and `takeBytes` are the measure and the cut of
this library, and `length` is used nowhere as a limit.  Names are compared after `fold`, which
changes ASCII letters only. -/

abbrev Text := List Char

instance : Coe String Text := ⟨String.toList⟩

namespace Text

/-- The number of bytes of the UTF-8 form. -/
def byteLength : Text → Nat
  | [] => 0
  | c :: rest => c.utf8Size + byteLength rest

@[simp] theorem byteLength_nil : byteLength [] = 0 := rfl

@[simp] theorem byteLength_cons (c : Char) (rest : Text) :
    byteLength (c :: rest) = c.utf8Size + byteLength rest := rfl

@[simp] theorem byteLength_append (left right : Text) :
    byteLength (left ++ right) = byteLength left + byteLength right := by
  induction left with
  | nil => simp
  | cons c rest inductionHypothesis => simp [inductionHypothesis, Nat.add_assoc]

/-- The longest run of leading characters that fits in `limit` bytes. -/
def takeBytes : Nat → Text → Text
  | _, [] => []
  | limit, c :: rest =>
      if c.utf8Size ≤ limit then c :: takeBytes (limit - c.utf8Size) rest else []

theorem byteLength_takeBytes_le (limit : Nat) (text : Text) :
    (text.takeBytes limit).byteLength ≤ limit := by
  induction text generalizing limit with
  | nil => simp [takeBytes]
  | cons c rest inductionHypothesis =>
      unfold takeBytes
      split
      · have tailFits := inductionHypothesis (limit - c.utf8Size)
        simp only [byteLength_cons]
        omega
      · simp

theorem takeBytes_eq_self {limit : Nat} {text : Text} (fits : text.byteLength ≤ limit) :
    text.takeBytes limit = text := by
  induction text generalizing limit with
  | nil => rfl
  | cons c rest inductionHypothesis =>
      simp only [byteLength_cons] at fits
      unfold takeBytes
      rw [if_pos (by omega), inductionHypothesis (by omega)]

theorem takeBytes_append (kept rest : Text) (limit : Nat) :
    (kept ++ rest).takeBytes (kept.byteLength + limit) = kept ++ rest.takeBytes limit := by
  induction kept with
  | nil => simp
  | cons c kept inductionHypothesis =>
      simp only [List.cons_append, byteLength_cons, takeBytes]
      rw [if_pos (by omega), show c.utf8Size + byteLength kept + limit - c.utf8Size =
        byteLength kept + limit by omega, inductionHypothesis]

/-- Whether a character begins after so many bytes, or the text ends there. -/
def isBoundary : Nat → Text → Bool
  | 0, _ => true
  | _ + 1, [] => false
  | bytes + 1, c :: rest =>
      c.utf8Size ≤ bytes + 1 && isBoundary (bytes + 1 - c.utf8Size) rest

/-- The last boundary that is not after so many bytes. -/
def lastBoundary (text : Text) : Nat → Nat
  | 0 => 0
  | bytes + 1 => if isBoundary (bytes + 1) text then bytes + 1 else lastBoundary text bytes

/-- A byte within a character is no room for it. -/
theorem takeBytes_succ_of_inside {bytes : Nat} {text : Text}
    (inside : isBoundary (bytes + 1) text = false) :
    text.takeBytes (bytes + 1) = text.takeBytes bytes := by
  induction text generalizing bytes with
  | nil => rfl
  | cons c rest inductionHypothesis =>
      unfold takeBytes
      by_cases fits : c.utf8Size ≤ bytes + 1
      · rw [isBoundary, decide_eq_true fits, Bool.true_and] at inside
        have more : bytes + 1 - c.utf8Size ≠ 0 := by
          intro none
          rw [none, isBoundary] at inside
          cases inside
        obtain ⟨left, later⟩ := Nat.exists_eq_succ_of_ne_zero more
        rw [later] at inside
        rw [if_pos fits, if_pos (by omega), later, inductionHypothesis inside]
        congr
        omega
      · rw [if_neg fits, if_neg (by omega)]

theorem takeBytes_lastBoundary (text : Text) (bytes : Nat) :
    text.takeBytes (text.lastBoundary bytes) = text.takeBytes bytes := by
  induction bytes with
  | zero => rfl
  | succ bytes inductionHypothesis =>
      rw [lastBoundary]
      split
      · rfl
      · rename_i inside
        rw [inductionHypothesis, takeBytes_succ_of_inside (eq_false_of_ne_true inside)]

/-- The form under which names are compared: ASCII letters in lower case, all else as it is. -/
def fold (text : Text) : Text :=
  text.map Char.toLower

def toUpper (text : Text) : Text :=
  text.map Char.toUpper

/-- The order of texts: that of the first characters that differ, and a shorter text first. -/
def le : Text → Text → Bool
  | [], _ => true
  | _ :: _, [] => false
  | a :: left, b :: right => a.toNat < b.toNat || (a == b && le left right)

/-- `text` without the characters of `drops` at its end. -/
def trimEndWhile (drops : Char → Bool) (text : Text) : Text :=
  (text.reverse.dropWhile drops).reverse

/-- `text` up to the first space, and what follows it with the spaces in front removed. -/
def splitWord (text : Text) : Text × Text :=
  (text.takeWhile (· ≠ ' '), (text.dropWhile (· ≠ ' ')).dropWhile (· = ' '))

/-- The lines of a text.  A line ends with LF or CRLF, and the last one may end without. -/
def lines (text : Text) : List Text :=
  let pieces := text.splitOn '\n'
  let ended := pieces.dropLast.map fun line =>
    if line.getLast? = some '\r' then line.dropLast else line
  match pieces.getLast? with
  | some [] | none => ended
  | some last => ended ++ [last]

def ofNat (n : Nat) : Text :=
  Nat.toDigits 10 n

/-- The value of a text of decimal digits. -/
def ofDigits (digits : Text) : Nat :=
  digits.foldl (fun value digit => value * 10 + (digit.toNat - '0'.toNat)) 0

/-- A plain decimal number: at least one digit, and nothing else. -/
def digits? (text : Text) : Option Nat :=
  if text ≠ [] ∧ text.all Char.isDigit then some (ofDigits text) else none

/-- A decimal number below `bound`, with an optional plus sign. -/
def natBelow? (bound : Nat) (text : Text) : Option Nat :=
  (digits? (match text with | '+' :: rest => rest | _ => text)).filter (· < bound)

end Text

end IrcServer
