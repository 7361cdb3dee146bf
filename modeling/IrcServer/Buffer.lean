import IrcServer.Line

namespace IrcServer

/-! Lines written one after the other into one text.

A line is appended piece by piece and cut when it ends, by the bytes written since it began.
`text_message` says that this is the same as cutting every line by itself. -/

structure Buffer where
  text : Text
deriving DecidableEq, Repr

namespace Buffer

def empty : Buffer := ⟨[]⟩

def isEmpty (buffer : Buffer) : Bool :=
  buffer.text = []

def append (buffer : Buffer) (text : Text) : Buffer :=
  ⟨buffer.text ++ text⟩

@[simp] theorem text_append (buffer : Buffer) (text : Text) :
    (buffer.append text).text = buffer.text ++ text := rfl

/-- Starts a line. -/
def start (buffer : Buffer) (origin command : Text) : Buffer :=
  let named :=
    if origin = [] then buffer else ((buffer.append [':']).append origin).append [' ']
  named.append command

def param (buffer : Buffer) : Param → Buffer
  | .word text =>
      if text.trim = [] then buffer else (buffer.append [' ']).append text.trim
  | .exact text => (buffer.append [' ']).append text

def trailing (buffer : Buffer) : Option Text → Buffer
  | none => buffer
  | some text => (buffer.append [' ', ':']).append text

/-- Ends the line that began after `mark` bytes.  If it is too long, it is cut where its last
character that fits ends, which is found by going back from the limit byte by byte. -/
def finish (buffer : Buffer) (mark : Nat) : Buffer :=
  let limit := mark + (maxLineBytes - 2)
  let kept :=
    if limit < buffer.text.byteLength then buffer.text.takeBytes (buffer.text.lastBoundary limit)
    else buffer.text
  (Buffer.mk kept).append crlf

/-- Writes a line. -/
def message (buffer : Buffer) (line : Line) : Buffer :=
  ((line.params.foldl param (buffer.start line.origin line.command)).trailing line.text).finish
    buffer.text.byteLength

def ofLines (lines : List Line) : Buffer :=
  lines.foldl message empty

theorem text_start (buffer : Buffer) (origin command : Text) :
    (buffer.start origin command).text = buffer.text ++ (Line.rawOrigin origin ++ command) := by
  unfold start Line.rawOrigin
  split <;> simp

theorem text_param (buffer : Buffer) (param : Param) :
    (buffer.param param).text = buffer.text ++ param.raw := by
  cases param with
  | word text =>
      unfold Buffer.param Param.raw
      dsimp only
      split <;> simp
  | exact text => simp [Buffer.param, Param.raw]

theorem text_params (params : List Param) (buffer : Buffer) :
    (params.foldl param buffer).text = buffer.text ++ params.flatMap Param.raw := by
  induction params generalizing buffer with
  | nil => simp
  | cons first rest inductionHypothesis =>
      simp [inductionHypothesis, text_param]

theorem text_trailing (buffer : Buffer) (text : Option Text) :
    (buffer.trailing text).text = buffer.text ++ Line.rawText text := by
  cases text <;> simp [trailing, Line.rawText]

theorem text_finish (buffer : Buffer) (mark : Nat) :
    (buffer.finish mark).text = buffer.text.takeBytes (mark + (maxLineBytes - 2)) ++ crlf := by
  unfold finish
  dsimp only
  split
  · rw [text_append, Text.takeBytes_lastBoundary]
  · rename_i short
    rw [text_append, Text.takeBytes_eq_self (Nat.le_of_not_lt short)]

theorem text_message (buffer : Buffer) (line : Line) :
    (buffer.message line).text = buffer.text ++ line.wire := by
  unfold message
  rw [text_finish, text_trailing, text_params, text_start]
  simp only [List.append_assoc, Text.takeBytes_append]
  simp [Line.wire, Line.cut, Line.raw]

end Buffer

end IrcServer
