import IrcServer.Text.Blank

namespace IrcServer

/-! Lines that the server writes.

A line is kept in its parts until it is sent, so that what was meant can be told from what was
left after the cut: on the wire a line has at most 512 bytes, its CRLF included. -/

/-- The most bytes of a line on the wire, with its CRLF. -/
def maxLineBytes : Nat := 512

def crlf : Text := "\r\n"

/-- A parameter of a line.  A `word` is written without the white space around it, and not at all
if it is blank; an `exact` one is written as it is. -/
inductive Param where
  | word (text : Text)
  | exact (text : Text)
deriving DecidableEq, Repr

def Param.raw : Param → Text
  | word text => if text.trim = [] then [] else ' ' :: text.trim
  | exact text => ' ' :: text

instance : Coe Text Param := ⟨.word⟩

structure Line where
  /-- On whose behalf the line is written; not written if empty. -/
  origin : Text
  command : Text
  params : List Param
  /-- The final text, which follows a colon. -/
  text : Option Text
deriving DecidableEq, Repr

namespace Line

def rawOrigin (origin : Text) : Text :=
  if origin = [] then [] else ':' :: origin ++ [' ']

def rawText : Option Text → Text
  | none => []
  | some text => ' ' :: ':' :: text

/-- The whole line, without a limit and without its ending. -/
def raw (line : Line) : Text :=
  rawOrigin line.origin ++ line.command ++ line.params.flatMap Param.raw ++ rawText line.text

/-- As much of a text as a line can hold before its CRLF. -/
def cut (text : Text) : Text :=
  text.takeBytes (maxLineBytes - 2)

/-- The line as it is sent. -/
def wire (line : Line) : Text :=
  cut line.raw ++ crlf

end Line

end IrcServer
