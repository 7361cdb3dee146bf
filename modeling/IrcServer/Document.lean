import IrcServer.Document.Words
import IrcServer.Text.Blank

namespace IrcServer

/-! Documents of directives, one on a line: a name and its parameters.  A directive whose line ends
with an opening brace holds the directives up to the line of the closing brace. -/

inductive Directive where
  | plain (name : Text) (params : List Text)
  | block (name : Text) (params : List Text) (body : List Directive)

namespace Directive

def name : Directive → Text
  | plain name _ | block name _ _ => name

def params : Directive → List Text
  | plain _ params | block _ params _ => params

end Directive

namespace Document

inductive Fault where
  | unexpectedBrace
  | unexpectedEnd
  | openQuote
deriving DecidableEq, Repr

structure ParseError where
  line : Nat
  fault : Fault
deriving DecidableEq, Repr

def Fault.message : Fault → Text
  | unexpectedBrace => "unexpected '\x7d'"
  | unexpectedEnd => "io: unexpected end of file"
  | openQuote => "missing closing quote"

def ParseError.message (error : ParseError) : Text :=
  "parsing error at line " ++ Text.ofNat error.line ++ ": " ++ error.fault.message

/-- What a line is by itself. -/
inductive LineKind where
  | blank
  | directive (name : Text) (params : List Text)
  | opening (name : Text) (params : List Text)
  | closing
deriving DecidableEq, Repr

def openingBrace : Char := '\x7b'

def closingBrace : Char := '\x7d'

/-- The kind of a line.  A brace counts only if it is written without quotes at the very end: alone
or at the end of the only word to close, as the last word to open. -/
def LineKind.ofLine? (line : Text) : Option LineKind :=
  let trimmed := line.trim
  (words? trimmed).map fun words =>
    match words with
    | [] => .blank
    | first :: rest =>
        if rest = [] ∧ trimmed.getLast? = some closingBrace then .closing
        else if words.getLast? = some [openingBrace] ∧ trimmed.getLast? = some openingBrace then
          .opening (words.dropLast.headD []) words.dropLast.tail
        else .directive first rest

/-- A block that is still open, and the directives before it. -/
structure OpenBlock where
  name : Text
  params : List Text
  before : List Directive

/-- Reads the lines from `number` on, inside `outer` and after `before`. -/
def parseLines (number : Nat) (outer : List OpenBlock) (before : List Directive) :
    List Text → Except ParseError (List Directive)
  | [] => if outer.isEmpty then .ok before else .error ⟨number, .unexpectedEnd⟩
  | line :: rest =>
      match LineKind.ofLine? line with
      | none => .error ⟨number, .openQuote⟩
      | some .blank => parseLines (number + 1) outer before rest
      | some (.directive name params) =>
          parseLines (number + 1) outer (before ++ [.plain name params]) rest
      | some (.opening name params) =>
          parseLines (number + 1) (⟨name, params, before⟩ :: outer) [] rest
      | some .closing =>
          match outer with
          | [] => .error ⟨number, .unexpectedBrace⟩
          | block :: outer =>
              parseLines (number + 1) outer
                (block.before ++ [.block block.name block.params before]) rest

/-- The directives of a document. -/
def parse (text : Text) : Except ParseError (List Directive) :=
  parseLines 1 [] [] text.lines

/-- The first directive of that name.  Those inside blocks do not count. -/
def find? (document : List Directive) (name : Text) : Option Directive :=
  document.find? fun directive => directive.name = name

end Document

end IrcServer
