import IrcServer.Addressee

namespace IrcServer

/-! Lines as they are put together, part by part.

The lines of the server have their parameters before their text.  A writer is not held to that: it
may write parts in any order, and a text in pieces.  `message_eq_draft` and `reply_eq_step` say that
the lines of the server are written in the same way. -/

/-- A part of a line after its command. -/
inductive Part where
  | param (param : Param)
  | trailing (text : Text)
  /-- A text that is written piece by piece. -/
  | pieces (texts : List Text)
deriving DecidableEq, Repr

def Part.raw : Part → Text
  | param given => given.raw
  | trailing text => Line.rawText (some text)
  | pieces texts => ' ' :: ':' :: texts.flatten

structure Draft where
  /-- On whose behalf the line is written; not written if empty. -/
  origin : Text
  command : Text
  parts : List Part
deriving DecidableEq, Repr

/-- All that a line says, without a limit and without its ending. -/
def Draft.raw (draft : Draft) : Text :=
  Line.rawOrigin draft.origin ++ draft.command ++ draft.parts.flatMap Part.raw

/-- The parts of a line of the server. -/
def Line.parts (params : List Param) (text : Option Text) : List Part :=
  params.map Part.param ++ text.toList.map Part.trailing

def Line.draft (line : Line) : Draft :=
  ⟨line.origin, line.command, parts line.params line.text⟩

namespace Buffer

def part (buffer : Buffer) : Part → Buffer
  | .param given => buffer.param given
  | .trailing text => buffer.trailing (some text)
  | .pieces texts => texts.foldl append (buffer.append [' ', ':'])

/-- Writes a line but for its end. -/
def begin (buffer : Buffer) (draft : Draft) : Buffer :=
  draft.parts.foldl part (buffer.start draft.origin draft.command)

/-- Writes a line. -/
def draft (buffer : Buffer) (draft : Draft) : Buffer :=
  (buffer.begin draft).finish buffer.text.byteLength

theorem text_appends (texts : List Text) (buffer : Buffer) :
    (texts.foldl append buffer).text = buffer.text ++ texts.flatten := by
  induction texts generalizing buffer with
  | nil => simp
  | cons first rest inductionHypothesis => simp [inductionHypothesis]

theorem text_part (buffer : Buffer) (part : Part) :
    (buffer.part part).text = buffer.text ++ part.raw := by
  cases part with
  | param given => exact text_param buffer given
  | trailing text => exact text_trailing buffer (some text)
  | pieces texts => simp [Buffer.part, Part.raw, text_appends]

theorem text_parts (parts : List Part) (buffer : Buffer) :
    (parts.foldl part buffer).text = buffer.text ++ parts.flatMap Part.raw := by
  induction parts generalizing buffer with
  | nil => simp
  | cons first rest inductionHypothesis => simp [inductionHypothesis, text_part]

theorem text_begin (buffer : Buffer) (draft : Draft) :
    (buffer.begin draft).text = buffer.text ++ draft.raw := by
  rw [begin, text_parts, text_start, List.append_assoc]
  rfl

/-- Nothing of what was written before is lost, however long the line is. -/
theorem text_draft (buffer : Buffer) (draft : Draft) :
    (buffer.draft draft).text = buffer.text ++ (Line.cut draft.raw ++ crlf) := by
  rw [Buffer.draft, text_finish, text_begin]
  simp only [Text.takeBytes_append, List.append_assoc]
  rfl

theorem message_eq_draft (buffer : Buffer) (line : Line) :
    buffer.message line = buffer.draft line.draft := by
  have params : ∀ started : Buffer, (line.params.map Part.param).foldl part started =
      line.params.foldl param started := fun _ => List.foldl_map
  unfold message draft begin Line.draft Line.parts
  dsimp only
  rw [List.foldl_append, params]
  cases line.text <;> rfl

end Buffer

/-- What can be done with a buffer for one client. -/
inductive ReplyStep where
  | setNick (nick : Text)
  | reply (code : Text) (parts : List Part)
  | plain (command : Text) (parts : List Part)
  | message (draft : Draft)
deriving DecidableEq, Repr

namespace ReplyBuffer

def write (replies : ReplyBuffer) (draft : Draft) : ReplyBuffer :=
  { replies with buffer := replies.buffer.draft draft }

def step (replies : ReplyBuffer) : ReplyStep → ReplyBuffer
  | .setNick nick => replies.setNick nick
  | .reply code parts =>
      replies.write
        ⟨replies.addressee.domain, code, .param (.word replies.addressee.nick) :: parts⟩
  | .plain command parts => replies.write ⟨replies.addressee.domain, command, parts⟩
  | .message draft => replies.write draft

theorem message_eq_step (replies : ReplyBuffer) (line : Line) :
    replies.message line = replies.step (.message line.draft) := by
  rw [message, Buffer.message_eq_draft]
  rfl

theorem reply_eq_step (replies : ReplyBuffer) (code : Text) (params : List Param)
    (text : Option Text) :
    replies.reply code params text = replies.step (.reply code (Line.parts params text)) :=
  replies.message_eq_step _

theorem plain_eq_step (replies : ReplyBuffer) (command : Text) (params : List Param)
    (text : Option Text) :
    replies.plain command params text = replies.step (.plain command (Line.parts params text)) :=
  replies.message_eq_step _

end ReplyBuffer

end IrcServer
