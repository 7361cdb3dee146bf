import IrcServer.Proofs.Run
import IrcServer.Wire
import Mathlib.Data.List.Basic

namespace IrcServer

/-! Lines out of a stream, whatever the pieces it comes in.

`segments` cuts all bytes of a stream at once.  `PartialLine.of` computes the state of the reader
from the bytes of the unfinished line alone, so that reading piece by piece is compared with the
segments of the whole (`readLines_bytes`), and so is feeding a connection
(`Wire.converse_eq_dispatch`).
-/

/-- The lines of some bytes that LF ends, without it. -/
def endedLines (bytes : List UInt8) : List (List UInt8) :=
  (bytes.splitOn lineFeed).dropLast

/-- What follows the last LF. -/
def openLine (bytes : List UInt8) : List UInt8 :=
  (bytes.splitOn lineFeed).getLastD []

/-- The lines that LF ends, with it. -/
def endedSegments (bytes : List UInt8) : List (List UInt8) :=
  (endedLines bytes).map (· ++ [lineFeed])

/-- The segments of some bytes: each ends with its LF, but the last may end without. -/
def segments (bytes : List UInt8) : List (List UInt8) :=
  endedSegments bytes ++ [openLine bytes].filter (· ≠ [])

/-- The segments that are read of a stream that fails with an error, or ends: what a failing
stream leaves open is not read. -/
def segmentsUntil (error : Option Text) (bytes : List UInt8) : List (List UInt8) :=
  match error with
  | none => segments bytes
  | some _ => endedSegments bytes

/-- Bytes without a last one of that value. -/
def withoutLast (byte : UInt8) (bytes : List UInt8) : List UInt8 :=
  if bytes.getLast? = some byte then bytes.dropLast else bytes

/-- The line that a segment is read as: its size, and as much of what stands before its LF or CRLF
as the limit allows. -/
def ReadLine.ofSegment (limit : Nat) (segment : List UInt8) : ReadLine :=
  { size := segment.length
    text := Utf8.decode
      ((withoutLast carriageReturn (withoutLast lineFeed segment)).take (limit - 2)) }

/-! Bytes, line by line. -/

section Lines

variable {line rest : List UInt8}

/-- Bytes are an unfinished line, or a line and more bytes. -/
theorem lines_induction {property : List UInt8 → Prop}
    (unfinished : ∀ line, lineFeed ∉ line → property line)
    (ended : ∀ line rest, lineFeed ∉ line → property rest → property (line ++ lineFeed :: rest))
    (bytes : List UInt8) : property bytes := by
  by_cases more : lineFeed ∈ bytes
  · obtain ⟨line, rest, shape, clean⟩ := List.eq_append_cons_of_mem more
    have shorter : rest.length < bytes.length := by
      rw [shape, List.length_append, List.length_cons]
      omega
    rw [shape]
    exact ended line rest clean (lines_induction unfinished ended rest)
  · exact unfinished bytes more
termination_by bytes.length

theorem endedLines_open (clean : lineFeed ∉ line) : endedLines line = [] := by
  simp [endedLines, List.splitOn_eq_singleton clean]

theorem openLine_open (clean : lineFeed ∉ line) : openLine line = line := by
  simp [openLine, List.splitOn_eq_singleton clean]

theorem endedLines_append (clean : lineFeed ∉ line) (rest : List UInt8) :
    endedLines (line ++ lineFeed :: rest) = line :: endedLines rest := by
  rw [endedLines, List.splitOn_append_cons_self, List.splitOn_eq_singleton clean,
    List.dropLast_append_of_ne_nil (List.splitOn_ne_nil _ _)]
  rfl

theorem openLine_append (line rest : List UInt8) :
    openLine (line ++ lineFeed :: rest) = openLine rest := by
  rw [openLine, List.splitOn_append_cons_self, openLine, List.getLastD_eq_getLast?,
    List.getLastD_eq_getLast?, List.getLast?_append_of_ne_nil _ (List.splitOn_ne_nil _ _)]

theorem endedSegments_open (clean : lineFeed ∉ line) : endedSegments line = [] := by
  rw [endedSegments, endedLines_open clean, List.map_nil]

theorem endedSegments_append (clean : lineFeed ∉ line) (rest : List UInt8) :
    endedSegments (line ++ lineFeed :: rest) = (line ++ [lineFeed]) :: endedSegments rest := by
  rw [endedSegments, endedLines_append clean, List.map_cons, ← endedSegments]

theorem segments_append (clean : lineFeed ∉ line) (rest : List UInt8) :
    segments (line ++ lineFeed :: rest) = (line ++ [lineFeed]) :: segments rest := by
  rw [segments, endedSegments_append clean, openLine_append, List.cons_append, ← segments]

theorem segments_open (clean : lineFeed ∉ line) (filled : line ≠ []) : segments line = [line] := by
  simp [segments, endedSegments_open clean, openLine_open clean, filled]

@[simp] theorem segments_nil : segments [] = [] := by
  simp [segments, endedSegments, endedLines, openLine]

/-- Bytes that follow are cut as if they followed the open line alone. -/
theorem lines_append (bytes more : List UInt8) :
    endedSegments (bytes ++ more) = endedSegments bytes ++ endedSegments (openLine bytes ++ more) ∧
      openLine (bytes ++ more) = openLine (openLine bytes ++ more) := by
  induction bytes using lines_induction with
  | unfinished line clean => simp [endedSegments_open clean, openLine_open clean]
  | ended line rest clean inductionHypothesis =>
      rw [List.append_assoc, List.cons_append, endedSegments_append clean, openLine_append,
        endedSegments_append clean, openLine_append, inductionHypothesis.1,
        inductionHypothesis.2]
      exact ⟨rfl, rfl⟩

theorem segmentsUntil_append (error : Option Text) (bytes more : List UInt8) :
    segmentsUntil error (bytes ++ more) =
      endedSegments bytes ++ segmentsUntil error (openLine bytes ++ more) := by
  obtain ⟨ended, opened⟩ := lines_append bytes more
  cases error <;>
    simp only [segmentsUntil, segments, ended, opened, List.append_assoc]

theorem not_mem_openLine (bytes : List UInt8) : lineFeed ∉ openLine bytes := by
  induction bytes using lines_induction with
  | unfinished line clean => rwa [openLine_open clean]
  | ended line rest clean inductionHypothesis => rwa [openLine_append]

theorem not_mem_endedLines {bytes line : List UInt8} (member : line ∈ endedLines bytes) :
    lineFeed ∉ line := by
  induction bytes using lines_induction with
  | unfinished open_ clean => simp [endedLines_open clean] at member
  | ended first rest clean inductionHypothesis =>
      rw [endedLines_append clean, List.mem_cons] at member
      rcases member with rfl | later
      · exact clean
      · exact inductionHypothesis later

/-- The segments together are the bytes. -/
theorem flatten_segments (bytes : List UInt8) : (segments bytes).flatten = bytes := by
  induction bytes using lines_induction with
  | unfinished line clean =>
      by_cases nothing : line = []
      · simp [nothing]
      · simp [segments_open clean nothing]
  | ended line rest clean inductionHypothesis =>
      simp [segments_append clean, inductionHypothesis]

/-- A segment has an LF at its end at most. -/
theorem lineFeed_of_segment {bytes segment : List UInt8} (member : segment ∈ segments bytes) :
    segment ≠ [] ∧ lineFeed ∉ segment.dropLast := by
  rcases List.mem_append.mp member with ended | unfinished
  · obtain ⟨line, known, rfl⟩ := List.mem_map.mp ended
    refine ⟨by simp, ?_⟩
    rw [List.dropLast_concat]
    exact not_mem_endedLines known
  · obtain ⟨known, filled⟩ := List.mem_filter.mp unfinished
    have same := List.mem_singleton.mp known
    refine ⟨by simpa using filled, fun inside => not_mem_openLine bytes ?_⟩
    exact same ▸ (List.dropLast_sublist _).subset inside

theorem ended_of_segment {bytes segment : List UInt8} (member : segment ∈ (segments bytes).dropLast) :
    segment.getLast? = some lineFeed := by
  by_cases nothing : openLine bytes = []
  · have none : [openLine bytes].filter (· ≠ []) = [] := by simp [nothing]
    have known := (List.dropLast_sublist _).subset member
    rw [segments, none, List.append_nil] at known
    obtain ⟨line, -, rfl⟩ := List.mem_map.mp known
    exact List.getLast?_concat
  · have last : [openLine bytes].filter (· ≠ []) = [openLine bytes] := by simp [nothing]
    rw [segments, last, List.dropLast_concat] at member
    obtain ⟨line, -, rfl⟩ := List.mem_map.mp member
    exact List.getLast?_concat

end Lines

/-! The reader in the middle of a line. -/

namespace PartialLine

/-- The state of the reader after these bytes of a line. -/
def of (limit : Nat) (seen : List UInt8) : PartialLine :=
  ⟨seen.take (contentLimit limit + 1), seen.length⟩

variable (limit : Nat) (seen : List UInt8)

theorem of_nil : of limit [] = .empty := by
  simp [of, empty]

theorem extend_of (bytes : List UInt8) :
    (of limit seen).extend limit bytes = of limit (seen ++ bytes) := by
  simp only [of, extend, List.take_append, List.length_take, List.length_append]
  congr 3
  omega

/-- The byte that is kept beyond the limit tells a CR at the end of a line from one in it. -/
theorem text_of :
    (of limit seen).text limit =
      Utf8.decode ((withoutLast carriageReturn seen).take (limit - 2)) := by
  have room : contentLimit limit = limit - 2 := rfl
  by_cases fits : seen.length ≤ limit - 2 + 1
  · simp only [text, of, room, List.take_of_length_le fits, withoutLast]
  · have long : limit - 2 < (seen.take (limit - 2 + 1)).length := by
      rw [List.length_take]
      omega
    have kept : ∀ bytes : List UInt8, limit - 2 < bytes.length →
        (withoutLast carriageReturn bytes).take (limit - 2) = bytes.take (limit - 2) := by
      intro bytes enough
      unfold withoutLast
      split
      · rw [List.dropLast_eq_take, List.take_take, Nat.min_eq_left (by omega)]
      · rfl
    have first := kept _ long
    have second := kept seen (by omega)
    rw [List.take_take, Nat.min_eq_left (by omega)] at first
    simp only [text, of, room]
    rw [second, ← first]
    rfl

end PartialLine

/-! Reading a stream piece by piece. -/

theorem ReadLine.ofSegment_open {line : List UInt8} (clean : lineFeed ∉ line) (limit : Nat) :
    ReadLine.ofSegment limit line = ⟨line.length, (PartialLine.of limit line).text limit⟩ := by
  have kept : withoutLast lineFeed line = line := by
    rw [withoutLast, if_neg fun last => clean (List.mem_of_getLast? last)]
  rw [ReadLine.ofSegment, kept, PartialLine.text_of]

theorem ReadLine.ofSegment_ended (line : List UInt8) (limit : Nat) :
    ReadLine.ofSegment limit (line ++ [lineFeed]) =
      ⟨line.length + 1, (PartialLine.of limit line).text limit⟩ := by
  have kept : withoutLast lineFeed (line ++ [lineFeed]) = line := by
    rw [withoutLast, if_pos List.getLast?_concat, List.dropLast_concat]
  rw [ReadLine.ofSegment, kept, PartialLine.text_of, List.length_append, List.length_singleton]

section Pieces

variable (limit : Nat)

/-- Bytes are read up to their first LF. -/
theorem dropWhile_line {line : List UInt8} (clean : lineFeed ∉ line) (rest : List UInt8) :
    (line ++ rest).dropWhile (· ≠ lineFeed) = rest.dropWhile (· ≠ lineFeed) ∧
      (line ++ rest).takeWhile (· ≠ lineFeed) = line ++ rest.takeWhile (· ≠ lineFeed) := by
  have letters : ∀ byte ∈ line, decide (byte ≠ lineFeed) = true := by
    intro byte member
    exact decide_eq_true fun same => clean (same ▸ member)
  exact ⟨List.dropWhile_append_of_pos letters, List.takeWhile_append_of_pos letters⟩

/-- Pieces without an LF only lengthen the line. -/
theorem readLine_open {chunks : List (List UInt8)} (seen : List UInt8)
    (clean : lineFeed ∉ chunks.flatten) (rest : List Piece) :
    readLine limit (.of limit seen) (chunks.map .bytes ++ rest) =
      readLine limit (.of limit (seen ++ chunks.flatten)) rest := by
  induction chunks generalizing seen with
  | nil => simp
  | cons chunk chunks inductionHypothesis =>
      rw [List.flatten_cons, List.mem_append, not_or] at clean
      have whole := (dropWhile_line clean.1 []).1
      rw [List.append_nil] at whole
      rw [List.map_cons, List.cons_append, readLine, whole]
      change readLine limit ((PartialLine.of limit seen).extend limit chunk) _ = _
      rw [PartialLine.extend_of, inductionHypothesis _ clean.2, List.flatten_cons,
        List.append_assoc]

/-- A line that ends in the pieces is read, and what follows it is left. -/
theorem readLine_ended {chunks : List (List UInt8)} {line more : List UInt8} (seen : List UInt8)
    (clean : lineFeed ∉ line) (shape : chunks.flatten = line ++ lineFeed :: more)
    (rest : List Piece) :
    ∃ others : List (List UInt8), others.flatten = more ∧
      readLine limit (.of limit seen) (chunks.map .bytes ++ rest) =
        (.line (.ofSegment limit (seen ++ line ++ [lineFeed])), others.map .bytes ++ rest) := by
  induction chunks generalizing seen line with
  | nil => simp at shape
  | cons chunk chunks inductionHypothesis =>
      rw [List.flatten_cons] at shape
      rw [List.map_cons, List.cons_append, readLine]
      by_cases inside : lineFeed ∈ chunk
      · -- The line ends in this piece.
        obtain ⟨front, others, rfl, frontClean⟩ := List.eq_append_cons_of_mem inside
        rw [List.append_assoc, List.cons_append] at shape
        have first := congrArg (List.takeWhile (· ≠ lineFeed)) shape
        have second := congrArg (List.dropWhile (· ≠ lineFeed)) shape
        rw [(dropWhile_line frontClean _).2, (dropWhile_line clean _).2] at first
        rw [(dropWhile_line frontClean _).1, (dropWhile_line clean _).1] at second
        have sameLine : front = line := by simpa using first
        have sameRest : others ++ chunks.flatten = more := by simpa using second
        refine ⟨others :: chunks, by rw [List.flatten_cons, sameRest], ?_⟩
        rw [(dropWhile_line frontClean _).1, (dropWhile_line frontClean _).2]
        simp only [ne_eq, not_true_eq_false, decide_false, Bool.false_eq_true, not_false_eq_true,
          List.dropWhile_cons_of_neg, List.takeWhile_cons_of_neg, List.append_nil, sameLine,
          PartialLine.extend_of, ReadLine.ofSegment_ended]
        rfl
      · -- The line goes on in the next pieces.
        have whole := (dropWhile_line inside []).1
        rw [List.append_nil] at whole
        obtain ⟨tail, rfl⟩ : ∃ tail, line = chunk ++ tail := by
          have within := List.append_eq_append_iff.mp shape
          rcases within with ⟨tail, same, _⟩ | ⟨tail, same, ends⟩
          · exact ⟨tail, same⟩
          · cases tail with
            | nil => exact ⟨[], by simpa using same.symm⟩
            | cons byte tail =>
                have head : lineFeed = byte := (List.cons.inj ends).1
                exact absurd (by simp [same, head]) inside
        rw [List.mem_append, not_or] at clean
        rw [List.append_assoc] at shape
        obtain ⟨others, left, read⟩ := inductionHypothesis (seen ++ chunk) clean.2
          (List.append_cancel_left shape)
        refine ⟨others, left, ?_⟩
        rw [whole]
        change readLine limit ((PartialLine.of limit seen).extend limit chunk) _ = _
        rw [PartialLine.extend_of, read]
        simp only [List.append_assoc]

/-! All lines of a stream. -/

/-- What reading gives for lines that come one after the other, each with the caller's buffer. -/
def readInto (keep : Bool) (buffer : Text) : List ReadLine → List (ReadResult × Text)
  | [] => []
  | line :: rest =>
      let filled := (if keep then buffer else []) ++ line.text
      (.line line, filled) :: readInto keep filled rest

/-- The caller's buffer when the next line is asked for after some lines. -/
def bufferAfter (keep : Bool) (buffer : Text) (lines : List ReadLine) : Text :=
  if keep then buffer ++ lines.flatMap ReadLine.text else []

theorem readInto_cleared (buffer : Text) (lines : List ReadLine) :
    readInto false buffer lines = lines.map fun line => (.line line, line.text) := by
  induction lines generalizing buffer with
  | nil => rfl
  | cons line rest inductionHypothesis => simp [readInto, inductionHypothesis]

theorem bufferAfter_cons (keep : Bool) (buffer : Text) (line : ReadLine) (rest : List ReadLine) :
    bufferAfter keep buffer (line :: rest) =
      bufferAfter keep ((if keep then buffer else []) ++ line.text) rest := by
  cases keep <;> simp [bufferAfter]

variable {limit} {keep : Bool} {buffer : Text} {pieces rest : List Piece}

theorem readLines_line {line : ReadLine}
    (read : readLine limit .empty pieces = (.line line, rest)) (something : line.size ≠ 0) :
    readLines limit keep buffer pieces =
      (.line line, (if keep then buffer else []) ++ line.text) ::
        readLines limit keep ((if keep then buffer else []) ++ line.text) rest := by
  rw [readLines]
  split
  · rename_i failed
    cases read.symm.trans failed
  · rename_i other others found
    cases read.symm.trans found
    rw [dif_neg something]

theorem readLines_end {text : Text}
    (read : readLine limit .empty pieces = (.line ⟨0, text⟩, rest)) :
    readLines limit keep buffer pieces =
      [(.line ⟨0, text⟩, (if keep then buffer else []) ++ text)] := by
  rw [readLines]
  split
  · rename_i failed
    cases read.symm.trans failed
  · rename_i other others found
    cases read.symm.trans found
    exact dif_pos rfl

theorem readLines_failed {error : Text}
    (read : readLine limit .empty pieces = (.failed error, rest)) :
    readLines limit keep buffer pieces = [(.failed error, if keep then buffer else [])] := by
  rw [readLines]
  split
  · rename_i failed
    cases read.symm.trans failed
    rfl
  · rename_i found
    cases read.symm.trans found

theorem text_empty (limit : Nat) : PartialLine.empty.text limit = [] := by
  simp [PartialLine.text, PartialLine.empty, Utf8.decode]

/-- The end of a stream is read as a line of size zero, after the line that was open. -/
theorem readLines_open {line : List UInt8} {chunks : List (List UInt8)} (clean : lineFeed ∉ line)
    (shape : chunks.flatten = line) :
    readLines limit keep buffer (chunks.map .bytes) =
      readInto keep buffer ((segments line).map (.ofSegment limit)) ++
        [(.line ⟨0, []⟩, bufferAfter keep buffer ((segments line).map (.ofSegment limit)))] := by
  have read := @readLine_open limit chunks [] (shape ▸ clean) []
  rw [List.append_nil, List.nil_append, shape, PartialLine.of_nil, readLine] at read
  have nothingMore : readLine limit .empty [] = (.line ⟨0, []⟩, []) := by
    rw [readLine, text_empty]
    rfl
  by_cases nothing : line = []
  · rw [nothing, PartialLine.of_nil, text_empty] at read
    rw [readLines_end read, nothing]
    cases keep <;> simp [readInto, bufferAfter]
  · have size : (PartialLine.of limit line).taken = line.length := rfl
    rw [size, ← ReadLine.ofSegment_open clean] at read
    have filled : (ReadLine.ofSegment limit line).size ≠ 0 := by
      simpa [ReadLine.ofSegment] using nothing
    rw [readLines_line read filled, readLines_end nothingMore, segments_open clean nothing]
    cases keep <;> simp [readInto, bufferAfter]

/-- However bytes come in pieces, the lines that are read are their segments. -/
theorem readLines_bytes (chunks : List (List UInt8)) :
    readLines limit keep buffer (chunks.map .bytes) =
      readInto keep buffer ((segments chunks.flatten).map (.ofSegment limit)) ++
        [(.line ⟨0, []⟩,
          bufferAfter keep buffer ((segments chunks.flatten).map (.ofSegment limit)))] := by
  generalize whole : chunks.flatten = bytes
  induction bytes using lines_induction generalizing chunks buffer with
  | unfinished line clean => exact readLines_open clean whole
  | ended line more clean inductionHypothesis =>
      obtain ⟨others, left, read⟩ := readLine_ended limit [] clean whole []
      rw [PartialLine.of_nil, List.append_nil, List.append_nil, List.nil_append] at read
      have filled : (ReadLine.ofSegment limit (line ++ [lineFeed])).size ≠ 0 := by
        simp [ReadLine.ofSegment]
      rw [readLines_line read filled, inductionHypothesis others left, segments_append clean,
        List.map_cons, readInto, bufferAfter_cons]
      rfl

/-- A stream that fails gives the lines that it completed, and then its error. -/
theorem readLines_failure (chunks : List (List UInt8)) (error : Text) (later : List Piece) :
    readLines limit keep buffer (chunks.map .bytes ++ .failure error :: later) =
      readInto keep buffer
          ((endedSegments chunks.flatten).map (.ofSegment limit)) ++
        [(.failed error, bufferAfter keep buffer
          ((endedSegments chunks.flatten).map (.ofSegment limit)))] := by
  generalize whole : chunks.flatten = bytes
  induction bytes using lines_induction generalizing chunks buffer with
  | unfinished line clean =>
      have read := @readLine_open limit chunks [] (whole ▸ clean)
        (.failure error :: later)
      rw [PartialLine.of_nil, readLine] at read
      rw [readLines_failed read, endedSegments_open clean]
      cases keep <;> simp [readInto, bufferAfter]
  | ended line more clean inductionHypothesis =>
      obtain ⟨others, left, read⟩ := readLine_ended limit [] clean whole
        (.failure error :: later)
      rw [PartialLine.of_nil, List.nil_append] at read
      have filled : (ReadLine.ofSegment limit (line ++ [lineFeed])).size ≠ 0 := by
        simp [ReadLine.ofSegment]
      rw [readLines_line read filled, inductionHypothesis others left, endedSegments_append clean,
        List.map_cons, readInto, bufferAfter_cons]
      rfl

end Pieces

/-! A connection that is fed piece by piece. -/

namespace PartialLine

/-- The lines that pieces complete one after the other, and the line that they leave open. -/
def feedAll (line : PartialLine) (limit : Nat) : List (List UInt8) → List ReadLine × PartialLine
  | [] => ([], line)
  | chunk :: rest =>
      let fed := line.feed limit chunk
      let later := fed.2.feedAll limit rest
      (fed.1 ++ later.1, later.2)

/-- The line that is left open when the stream ends, if there is one. -/
def last (line : PartialLine) (limit : Nat) : List ReadLine :=
  if line.taken = 0 then [] else [⟨line.taken, line.text limit⟩]

variable (limit : Nat) (seen : List UInt8)

theorem feed_of (clean : lineFeed ∉ seen) (bytes : List UInt8) :
    (of limit seen).feed limit bytes =
      ((endedSegments (seen ++ bytes)).map (.ofSegment limit),
        of limit (openLine (seen ++ bytes))) := by
  induction bytes using lines_induction generalizing seen with
  | unfinished line lineClean =>
      have both : lineFeed ∉ seen ++ line := by simp [clean, lineClean]
      have whole := (dropWhile_line lineClean []).1
      rw [List.append_nil] at whole
      rw [feed, endedSegments_open both, openLine_open both]
      split
      · rw [extend_of]
        rfl
      · rename_i shape
        rw [whole] at shape
        cases shape
  | ended line rest lineClean inductionHypothesis =>
      have both : lineFeed ∉ seen ++ line := by simp [clean, lineClean]
      have none := inductionHypothesis [] List.not_mem_nil
      rw [of_nil, List.nil_append] at none
      have stop : (lineFeed :: rest).dropWhile (· ≠ lineFeed) = lineFeed :: rest ∧
          (lineFeed :: rest).takeWhile (· ≠ lineFeed) = [] := by simp
      rw [feed, ← List.append_assoc, endedSegments_append both, openLine_append, List.map_cons,
        ReadLine.ofSegment_ended]
      split
      · rename_i shape
        rw [(dropWhile_line lineClean _).1, stop.1] at shape
        cases shape
      · rename_i first others shape
        rw [(dropWhile_line lineClean _).1, stop.1] at shape
        cases shape
        rw [(dropWhile_line lineClean _).2, stop.2, List.append_nil, extend_of, none]
        rfl

theorem feedAll_of (clean : lineFeed ∉ seen) (chunks : List (List UInt8)) :
    (of limit seen).feedAll limit chunks =
      ((endedSegments (seen ++ chunks.flatten)).map (.ofSegment limit),
        of limit (openLine (seen ++ chunks.flatten))) := by
  induction chunks generalizing seen with
  | nil => simp [feedAll, endedSegments_open clean, openLine_open clean]
  | cons chunk rest inductionHypothesis =>
      obtain ⟨ended, opened⟩ := lines_append (seen ++ chunk) rest.flatten
      rw [feedAll, feed_of limit seen clean,
        inductionHypothesis _ (not_mem_openLine (seen ++ chunk)), List.flatten_cons,
        ← List.append_assoc, ended, opened, List.map_append]

theorem last_of (clean : lineFeed ∉ seen) :
    (of limit seen).last limit = ([seen].filter (· ≠ [])).map (.ofSegment limit) := by
  have size : (of limit seen).taken = seen.length := rfl
  by_cases nothing : seen = []
  · simp [last, nothing, of]
  · have filled : seen.length ≠ 0 := by simpa using nothing
    rw [last, size, if_neg filled, ← ReadLine.ofSegment_open clean]
    simp [nothing]

/-- The lines that a connection gives are the segments of all its bytes. -/
theorem feedAll_lines (chunks : List (List UInt8)) :
    (PartialLine.empty.feedAll limit chunks).1 ++
        (PartialLine.empty.feedAll limit chunks).2.last limit =
      (segments chunks.flatten).map (.ofSegment limit) := by
  have fed := feedAll_of limit [] List.not_mem_nil chunks
  rw [of_nil, List.nil_append] at fed
  rw [fed, last_of limit _ (not_mem_openLine _), segments, List.map_append]

end PartialLine

namespace Network

/-- A client says messages one after the other.  Those after the one that closes its connection are
dropped. -/
def hearAll (network : Network) (number : Nat) : List Message → Outcome
  | [] => network.idle
  | message :: rest =>
      let outcome := network.step (.said number message)
      if outcome.closed then outcome
      else
        let later := outcome.network.hearAll number rest
        { later with received := outcome.received ++ later.received }

/-- A client says messages and is gone, with the error that its stream failed with if it did: the
network after that and what clients receive. -/
def dispatch (network : Network) (number : Nat) (error : Option Text) (messages : List Message) :
    Network × List Delivery :=
  let said := network.hearAll number messages
  let left := said.network.step (.left number error)
  (left.network, said.received ++ left.received)

variable {network : Network} {number : Nat}

theorem step_gone (gone : network.isLive number = false) {event : Event}
    (own : (∃ message, event = .said number message) ∨ ∃ error, event = .left number error) :
    network.step event = network.idle := by
  rcases own with ⟨message, rfl⟩ | ⟨error, rfl⟩ <;>
    · rw [step]
      cases found : network.client? number with
      | none => rfl
      | some client =>
          have dead : client.live = false := by simpa [isLive, found] using gone
          simp [dead]

theorem hearAll_gone (gone : network.isLive number = false) (messages : List Message) :
    network.hearAll number messages = network.idle := by
  induction messages with
  | nil => rfl
  | cons message rest inductionHypothesis =>
      rw [hearAll, step_gone gone (.inl ⟨message, rfl⟩)]
      change { (network.hearAll number rest) with
        received := [] ++ (network.hearAll number rest).received } = _
      rw [inductionHypothesis]
      rfl

/-- A client whose connection was closed is gone. -/
theorem isLive_of_closed {message : Message}
    (closed : (network.step (.said number message)).closed = true) :
    (network.step (.said number message)).network.isLive number = false := by
  rw [step] at closed ⊢
  cases found : network.client? number with
  | none => simp [found, idle] at closed
  | some client =>
      by_cases live : client.live = true
      · simp only [found, live, if_true] at closed ⊢
        have closes : closes client (Handler.handle message network.server client.user) = true := by
          rw [handle_eq] at closed
          by_contra stays
          simp [stays] at closed
        simp [isLive, client?_handle message found, closes]
      · simp [found, live, idle] at closed

/-- Messages may be said in two goes. -/
theorem hearAll_append (first second : List Message) :
    (network.hearAll number (first ++ second)).network =
        ((network.hearAll number first).network.hearAll number second).network ∧
      (network.hearAll number (first ++ second)).received =
        (network.hearAll number first).received ++
          ((network.hearAll number first).network.hearAll number second).received := by
  induction first generalizing network with
  | nil => exact ⟨rfl, rfl⟩
  | cons message rest inductionHypothesis =>
      rw [List.cons_append, hearAll, hearAll]
      by_cases closed : (network.step (.said number message)).closed = true
      · have nothing := hearAll_gone (isLive_of_closed closed) second
        simp only [closed, if_true]
        rw [nothing]
        exact ⟨rfl, (List.append_nil _).symm⟩
      · obtain ⟨after, received⟩ := @inductionHypothesis
          (network.step (.said number message)).network
        simp only [closed, Bool.false_eq_true, if_false]
        exact ⟨after, by rw [received, List.append_assoc]⟩

theorem dispatch_append (error : Option Text) (first second : List Message) :
    network.dispatch number error (first ++ second) =
      (((network.hearAll number first).network.dispatch number error second).1,
        (network.hearAll number first).received ++
          ((network.hearAll number first).network.dispatch number error second).2) := by
  obtain ⟨after, received⟩ := @hearAll_append network number first second
  simp only [dispatch, after, received, List.append_assoc]

end Network

/-- The messages that some segments of a stream hold. -/
def messagesOf (segments : List (List UInt8)) : List Message :=
  segments.filterMap fun segment => Message.parse? (ReadLine.ofSegment maxLineBytes segment).text

theorem messagesOf_append (first second : List (List UInt8)) :
    messagesOf (first ++ second) = messagesOf first ++ messagesOf second :=
  List.filterMap_append

namespace Wire

/-- What is read of lines that hold no message is passed over. -/
theorem handleLines_eq (network : Network) (number : Nat) (lines : List Text) :
    handleLines network number lines =
      network.hearAll number (lines.filterMap Message.parse?) := by
  induction lines generalizing network with
  | nil => rfl
  | cons line rest inductionHypothesis =>
      rw [handleLines]
      cases parsed : Message.parse? line with
      | none => rw [List.filterMap_cons_none parsed, inductionHypothesis]
      | some message =>
          rw [List.filterMap_cons_some parsed, Network.hearAll]
          simp only [inductionHypothesis]

/-- Bytes arrive from a client in pieces, and then its stream ends, or fails with an error: the
network after that and what clients receive. -/
def converse (wire : Wire) (number : Nat) (error : Option Text) :
    List (List UInt8) → Network × List Delivery
  | [] =>
      match error with
      | none => ((wire.finish number).1.network, (wire.finish number).2.received)
      | some _ =>
          let left := wire.network.step (.left number error)
          (left.network, left.received)
  | chunk :: rest =>
      let arrived := wire.receive number chunk
      let later := arrived.1.converse number error rest
      (later.1, arrived.2.received ++ later.2)

variable {wire : Wire} {number : Nat} {seen : List UInt8}

theorem finish_of (clean : lineFeed ∉ seen)
    (unfinished : wire.unfinished[number]? = some (.of maxLineBytes seen)) :
    ((wire.finish number).1.network, (wire.finish number).2.received) =
      wire.network.dispatch number none (messagesOf (segments seen)) := by
  have last := PartialLine.last_of maxLineBytes seen clean
  have texts : (if (PartialLine.of maxLineBytes seen).taken = 0 then []
      else [(PartialLine.of maxLineBytes seen).text maxLineBytes]) =
        ((PartialLine.of maxLineBytes seen).last maxLineBytes).map ReadLine.text := by
    rw [PartialLine.last]
    split <;> rfl
  have found : wire.unfinished.getD number .empty = .of maxLineBytes seen := by
    rw [List.getD_eq_getElem?_getD, unfinished, Option.getD_some]
  simp only [finish, found, texts, last, handleLines_eq, Network.dispatch, messagesOf,
    List.filterMap_map, segments, endedSegments_open clean, openLine_open clean, List.nil_append]
  rfl

theorem receive_of (clean : lineFeed ∉ seen)
    (unfinished : wire.unfinished[number]? = some (.of maxLineBytes seen)) (chunk : List UInt8) :
    (wire.receive number chunk).2 =
        wire.network.hearAll number (messagesOf (endedSegments (seen ++ chunk))) ∧
      (wire.receive number chunk).1.network = (wire.receive number chunk).2.network ∧
      (wire.receive number chunk).1.unfinished[number]? =
        some (.of maxLineBytes (openLine (seen ++ chunk))) := by
  have found : wire.unfinished.getD number .empty = .of maxLineBytes seen := by
    rw [List.getD_eq_getElem?_getD, unfinished, Option.getD_some]
  have known : number < wire.unfinished.length := (List.getElem?_eq_some_iff.mp unfinished).1
  refine ⟨?_, rfl, ?_⟩
  · simp only [receive, found, PartialLine.feed_of maxLineBytes seen clean, handleLines_eq,
      messagesOf, List.map_map, List.filterMap_map]
    rfl
  · simp only [receive, found, PartialLine.feed_of maxLineBytes seen clean,
      List.getElem?_set_self known]

/-- What comes of the bytes of a client does not depend on how they come in pieces. -/
theorem converse_eq_dispatch (error : Option Text) (clean : lineFeed ∉ seen)
    (unfinished : wire.unfinished[number]? = some (.of maxLineBytes seen))
    (chunks : List (List UInt8)) :
    wire.converse number error chunks =
      wire.network.dispatch number error
        (messagesOf (segmentsUntil error (seen ++ chunks.flatten))) := by
  induction chunks generalizing wire seen with
  | nil =>
      rw [List.flatten_nil, List.append_nil]
      cases error with
      | none => exact finish_of clean unfinished
      | some error =>
          rw [segmentsUntil, endedSegments_open clean]
          rfl
  | cons chunk rest inductionHypothesis =>
      obtain ⟨said, after, left⟩ := receive_of clean unfinished chunk
      rw [converse, inductionHypothesis (not_mem_openLine (seen ++ chunk)) left, after, said,
        List.flatten_cons, ← List.append_assoc, segmentsUntil_append error (seen ++ chunk),
        messagesOf_append, Network.dispatch_append]

end Wire

/-- The sizes of the lines add up to the bytes. -/
theorem total_sizes (limit : Nat) (bytes : List UInt8) :
    (((segments bytes).map (ReadLine.ofSegment limit)).map ReadLine.size).foldr (· + ·) 0 =
      bytes.length := by
  have total : ∀ pieces : List (List UInt8),
      ((pieces.map (ReadLine.ofSegment limit)).map ReadLine.size).foldr (· + ·) 0 =
        pieces.flatten.length := by
    intro pieces
    induction pieces with
    | nil => rfl
    | cons piece rest inductionHypothesis =>
        rw [List.map_cons, List.map_cons, List.foldr_cons, inductionHypothesis, List.flatten_cons,
          List.length_append]
        rfl
  rw [total, flatten_segments]

/-- The lines of a stream are its segments, in whatever chunks it comes.  The segments lose no byte,
each but the last ends with LF and none holds another, and every line is read of its own segment
alone.  A stream that fails has given the lines completed before, and the failing attempt leaves the
buffer as it was.  What a connection comes to depends on its bytes alone. -/
theorem lines_ignore_chunks (limit : Nat) (chunks : List (List UInt8)) (buffer : Text) (wire : Wire)
    (host : Text) :
    let bytes := chunks.flatten
    let lines := (segments bytes).map (ReadLine.ofSegment limit)
    let completed := (endedSegments bytes).map (ReadLine.ofSegment limit)
    ((segments bytes).flatten = bytes ∧
      (∀ segment ∈ segments bytes, segment ≠ [] ∧ lineFeed ∉ segment.dropLast) ∧
      (∀ segment ∈ (segments bytes).dropLast, segment.getLast? = some lineFeed) ∧
      (lines.map ReadLine.size).foldr (· + ·) 0 = bytes.length) ∧
    readLines limit false buffer (chunks.map .bytes) =
      lines.map (fun line => (.line line, line.text)) ++ [(.line ⟨0, []⟩, [])] ∧
    (∀ (keep : Bool) (error : Text) (later : List Piece),
      readLines limit keep buffer (chunks.map .bytes ++ .failure error :: later) =
        readInto keep buffer completed ++ [(.failed error, bufferAfter keep buffer completed)]) ∧
    (PartialLine.empty.feedAll limit chunks).1 ++
      (PartialLine.empty.feedAll limit chunks).2.last limit = lines ∧
    ∀ error : Option Text,
      (wire.connect host).converse wire.unfinished.length error chunks =
        (wire.network.connect host).dispatch wire.unfinished.length error
          (messagesOf (segmentsUntil error bytes)) := by
  refine ⟨⟨flatten_segments _, fun _ => lineFeed_of_segment, fun _ => ended_of_segment,
    total_sizes limit _⟩, ?_, fun keep error later => readLines_failure chunks error later,
    PartialLine.feedAll_lines limit chunks, fun error => ?_⟩
  · rw [readLines_bytes, readInto_cleared]
    rfl
  · have unfinished : (wire.connect host).unfinished[wire.unfinished.length]? =
        some (.of maxLineBytes []) := by
      rw [PartialLine.of_nil]
      exact List.getElem?_concat_length
    rw [Wire.converse_eq_dispatch error List.not_mem_nil unfinished, List.nil_append]
    rfl

end IrcServer
