import IrcServer.Text

namespace IrcServer

/-! The words of a line, with the quoting of a POSIX shell.

Words are separated by spaces, tabs and line feeds.  Between single quotes every character stands
for itself; a backslash takes the meaning from the next character, between double quotes only from
a few.  A number sign that starts a word starts a comment. -/

namespace Document

/-- Where a reader of words stands. -/
inductive Quoting where
  | between
  | comment
  | bare
  | single
  | double
deriving DecidableEq, Repr

def isSeparator (c : Char) : Bool :=
  c = ' ' || c = '\t' || c = '\n'

/-- The characters that a backslash quotes between double quotes. -/
def isQuotedInDouble (c : Char) : Bool :=
  c = '$' || c.toNat = 0x60 || c = '"' || c = '\\'

/-- A character at the start of the word in progress. -/
def pushChar (c : Char) (read : Text × List Text) : Text × List Text :=
  (c :: read.1, read.2)

/-- A word that starts with what was read of it. -/
def newWord (read : Text × List Text) : Text × List Text :=
  ([], read.1 :: read.2)

/-- Reads the rest of a line: what is left of the word in progress, and the words after it.  A
quote that is not closed is an error. -/
def readWords : Quoting → Text → Option (Text × List Text)
  | .between, [] | .comment, [] | .bare, [] => some ([], [])
  | .single, [] | .double, [] => none
  | .comment, c :: rest => readWords (if c = '\n' then .between else .comment) rest
  | .between, '\\' :: rest =>
      match rest with
      | [] => some ([], [['\\']])
      | '\n' :: rest => readWords .between rest
      | c :: rest => (readWords .bare rest).map fun read => newWord (pushChar c read)
  | .between, c :: rest =>
      if isSeparator c then readWords .between rest
      else if c = '#' then readWords .comment rest
      else if c = '\'' then (readWords .single rest).map newWord
      else if c = '"' then (readWords .double rest).map newWord
      else (readWords .bare rest).map fun read => newWord (pushChar c read)
  | .bare, '\\' :: rest =>
      match rest with
      | [] => some (['\\'], [])
      | '\n' :: rest => readWords .bare rest
      | c :: rest => (readWords .bare rest).map (pushChar c)
  | .bare, c :: rest =>
      if isSeparator c then readWords .between rest
      else if c = '\'' then readWords .single rest
      else if c = '"' then readWords .double rest
      else (readWords .bare rest).map (pushChar c)
  | .single, c :: rest =>
      if c = '\'' then readWords .bare rest
      else (readWords .single rest).map (pushChar c)
  | .double, '\\' :: rest =>
      match rest with
      | [] => none
      | '\n' :: rest => readWords .double rest
      | c :: rest =>
          (readWords .double rest).map fun read =>
            if isQuotedInDouble c then pushChar c read else pushChar '\\' (pushChar c read)
  | .double, c :: rest =>
      if c = '"' then readWords .bare rest
      else (readWords .double rest).map (pushChar c)

/-- The words of a line, unless a quote is left open. -/
def words? (line : Text) : Option (List Text) :=
  (readWords .between line).map Prod.snd

end Document

end IrcServer
