import IrcServer.Message

namespace IrcServer

/-! Reading a message from a line.

Words are separated by spaces only.  The origin is a first word with a colon in front, the verb is
the next word, and the parameters are the words after it up to the first that starts with a colon
or is the fifteenth: that one is the rest of the line. -/

namespace Message

/-- The parameters of a line, when `slots` more words may come before the rest of the line, and
whether the last of them is the rest of the line. -/
def parseParams : Nat → Text → List Text × Bool
  | _, [] => ([], false)
  | _, ':' :: rest => ([rest], true)
  | 0, text => ([text], true)
  | slots + 1, text =>
      let (word, rest) := Text.splitWord text
      let (params, trailing) := parseParams slots rest
      (word :: params, trailing)

def parseOrigin (text : Text) : Option Text × Text :=
  match text with
  | ':' :: rest =>
      let (word, rest) := Text.splitWord rest
      (some word, rest)
  | _ => (none, text)

def isLineEnd (c : Char) : Bool :=
  c = '\r' || c = '\n'

/-- A line without its line ending and without the white space in front. -/
def body (line : Text) : Text :=
  (line.trimEndWhile isLineEnd).trimStart

/-- The message that a line holds.  A line without a verb, or with a NUL, holds none. -/
def parse? (line : Text) : Option Message :=
  let body := body line
  if body = [] ∨ Char.ofNat 0 ∈ body then none
  else
    let (origin, afterOrigin) := parseOrigin body
    let (word, afterVerb) := Text.splitWord afterOrigin
    if word = [] then none
    else
      let (params, trailing) := parseParams (maxParams - 1) afterVerb
      some { origin, verb := .ofWord word, params, trailing }

end Message

end IrcServer
