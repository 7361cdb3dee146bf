import IrcServer.Text.Utf8

namespace IrcServer

/-! Lines out of a stream of bytes.

A line ends with LF, or with the stream.  Its length is bounded: of a line that is too long the
first bytes are kept and the others are discarded.  How the stream is cut into pieces has no
bearing on the lines. -/

def lineFeed : UInt8 := 10

def carriageReturn : UInt8 := 13

/-- The most bytes that are kept of a line under a limit that includes CRLF. -/
def contentLimit (limit : Nat) : Nat :=
  limit - 2

/-- A line whose end has not come yet.  One byte more is kept than a line can have, so that a CR at
the very limit is still known for the line's ending. -/
structure PartialLine where
  kept : List UInt8
  /-- The bytes of the line so far, with those that were discarded. -/
  taken : Nat
deriving DecidableEq, Repr

namespace PartialLine

def empty : PartialLine := ⟨[], 0⟩

def extend (line : PartialLine) (limit : Nat) (bytes : List UInt8) : PartialLine :=
  ⟨line.kept ++ bytes.take (contentLimit limit + 1 - line.kept.length), line.taken + bytes.length⟩

/-- The text of the line, if it ends here. -/
def text (line : PartialLine) (limit : Nat) : Text :=
  let content := if line.kept.getLast? = some carriageReturn then line.kept.dropLast else line.kept
  Utf8.decode (content.take (contentLimit limit))

end PartialLine

/-- A line that was read: its size in the stream with its LF, and its text. -/
structure ReadLine where
  size : Nat
  text : Text
deriving DecidableEq, Repr

/-- The lines that some bytes complete, and the line that they leave open. -/
def PartialLine.feed (line : PartialLine) (limit : Nat) (bytes : List UInt8) :
    List ReadLine × PartialLine :=
  match _split : bytes.dropWhile (· ≠ lineFeed) with
  | [] => ([], line.extend limit bytes)
  | _ :: rest =>
      let ended := line.extend limit (bytes.takeWhile (· ≠ lineFeed))
      let (lines, last) := PartialLine.empty.feed limit rest
      (⟨ended.taken + 1, ended.text limit⟩ :: lines, last)
termination_by bytes.length
decreasing_by
  have shorter := (List.dropWhile_sublist (p := (· ≠ lineFeed)) (l := bytes)).length_le
  rw [_split, List.length_cons] at shorter
  omega

/-- A piece of a stream: bytes that arrive together, or the error that the stream fails with. -/
inductive Piece where
  | bytes (bytes : List UInt8)
  | failure (error : Text)
deriving DecidableEq, Repr

/-- What one attempt to read a line gives.  A line of size 0 is the end of the stream. -/
inductive ReadResult where
  | line (line : ReadLine)
  | failed (error : Text)
deriving DecidableEq, Repr

/-- Reads the next line, of which `line` is known already.  Returns what is left of the stream. -/
def readLine (limit : Nat) : PartialLine → List Piece → ReadResult × List Piece
  | line, [] => (.line ⟨line.taken, line.text limit⟩, [])
  | _, .failure error :: rest => (.failed error, rest)
  | line, .bytes bytes :: rest =>
      match bytes.dropWhile (· ≠ lineFeed) with
      | [] => readLine limit (line.extend limit bytes) rest
      | _ :: others =>
          let ended := line.extend limit (bytes.takeWhile (· ≠ lineFeed))
          (.line ⟨ended.taken + 1, ended.text limit⟩, .bytes others :: rest)

/-- How much is left to read: every piece counts for one more than its bytes. -/
def streamMeasure : List Piece → Nat
  | [] => 0
  | .failure _ :: rest => streamMeasure rest + 1
  | .bytes bytes :: rest => bytes.length + streamMeasure rest + 1

theorem streamMeasure_readLine_le (limit : Nat) (line : PartialLine) (pieces : List Piece) :
    (readLine limit line pieces).2 = [] ∨
      streamMeasure (readLine limit line pieces).2 < streamMeasure pieces := by
  induction pieces generalizing line with
  | nil => simp [readLine]
  | cons piece rest inductionHypothesis =>
      cases piece with
      | failure error => right; simp [readLine, streamMeasure]
      | bytes bytes =>
          unfold readLine
          split
          · rcases inductionHypothesis (line.extend limit bytes) with done | smaller
            · exact Or.inl done
            · right
              simp only [streamMeasure]
              omega
          · rename_i first others split
            right
            have shorter := (List.dropWhile_sublist (p := (· ≠ lineFeed)) (l := bytes)).length_le
            rw [split, List.length_cons] at shorter
            simp only [streamMeasure]
            omega

/-- A line of some size leaves less to read. -/
theorem streamMeasure_lt_of_readLine {limit : Nat} {pieces rest : List Piece} {line : ReadLine}
    (read : readLine limit .empty pieces = (.line line, rest)) (something : line.size ≠ 0) :
    streamMeasure rest < streamMeasure pieces := by
  have smaller := streamMeasure_readLine_le limit .empty pieces
  rw [read] at smaller
  rcases smaller with rfl | smaller
  · cases pieces with
    | nil =>
        simp only [readLine, Prod.mk.injEq, ReadResult.line.injEq] at read
        exact absurd (read.1 ▸ rfl) something
    | cons piece others => cases piece <;> simp only [streamMeasure] <;> omega
  · exact smaller

/-- Reads lines until the stream ends or fails, each with the text that the caller's buffer then
holds.  The buffer is cleared before each line unless `keep` is set. -/
def readLines (limit : Nat) (keep : Bool) (buffer : Text) (pieces : List Piece) :
    List (ReadResult × Text) :=
  let cleared := if keep then buffer else []
  match _read : readLine limit .empty pieces with
  | (.failed error, _) => [(.failed error, cleared)]
  | (.line line, rest) =>
      let filled := cleared ++ line.text
      if _ended : line.size = 0 then [(.line line, filled)]
      else (.line line, filled) :: readLines limit keep filled rest
termination_by streamMeasure pieces
decreasing_by exact streamMeasure_lt_of_readLine _read _ended

end IrcServer
