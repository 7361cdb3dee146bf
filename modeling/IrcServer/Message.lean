import IrcServer.Command
import IrcServer.Text.Blank

namespace IrcServer

/-! Messages as clients and servers exchange them: an optional origin, a verb, parameters.

`serialize` writes a message on the wire.  Only the last parameter can be empty, hold a space or
start with a colon there, and it is then written after a colon of its own. -/

/-- What a message is: a command known to the server, a numbered reply, or any other word. -/
inductive Verb where
  | command (command : Command)
  | reply (code : Text)
  | other (word : Text)
deriving DecidableEq, Repr

namespace Verb

def word : Verb → Text
  | command c => c.name
  | reply code => code
  | other word => word

def ofWord (word : Text) : Verb :=
  match Command.ofName? word with
  | some known => .command known
  | none => .other word

def isKnown : Verb → Bool
  | other _ => false
  | _ => true

end Verb

/-- The most parameters that a message holds. -/
def maxParams : Nat := 15

structure Message where
  origin : Option Text
  verb : Verb
  params : List Text
  /-- The last parameter is the rest of the line, whatever it holds. -/
  trailing : Bool
deriving DecidableEq, Repr

inductive ParamError where
  | tooMany
  | afterTrailing
deriving DecidableEq, Repr

def ParamError.message : ParamError → Text
  | tooMany => "a message cannot have more than " ++ Text.ofNat maxParams ++ " parameters"
  | afterTrailing => "no parameter can follow the trailing parameter"

namespace Message

def new (verb : Verb) : Message :=
  { origin := none, verb, params := [], trailing := false }

/-- The parameter at `index`, empty if there is none. -/
def param (message : Message) (index : Nat) : Text :=
  message.params.getD index []

/-- A parameter at the end of `message`.  An empty one is left out unless it is the trailing one. -/
def addParam (message : Message) (param : Text) (trailing : Bool) : Except ParamError Message :=
  if message.trailing then .error .afterTrailing
  else if maxParams ≤ message.params.length then .error .tooMany
  else if param = [] ∧ !trailing then .ok message
  else .ok { message with params := message.params ++ [param], trailing }

/-- An unknown word never has enough parameters, a numbered reply always has. -/
def hasEnoughParams (message : Message) : Bool :=
  match message.verb with
  | .command command => command.minParams ≤ message.params.length
  | .reply _ => true
  | .other _ => false

/-- Whether a last parameter would be read back as something else without a colon. -/
def needsColon (param : Text) : Bool :=
  param = [] || param.contains ' ' || param.head? = some ':'

def writeOrigin : Option Text → Text
  | none => []
  | some origin => ':' :: origin ++ [' ']

def writeParams (trailing : Bool) : List Text → Text
  | [] => []
  | [last] => if trailing || needsColon last then ' ' :: ':' :: last else ' ' :: last
  | param :: rest => ' ' :: param ++ writeParams trailing rest

/-- The message on the wire, with its line ending. -/
def serialize (message : Message) : Text :=
  writeOrigin message.origin ++ message.verb.word ++
    writeParams message.trailing message.params ++ "\r\n"

/-- The message as one line of text for a reader. -/
def display (message : Message) : Text :=
  message.serialize.trimEnd

/-- Whether the message has this origin and verb and these parameters.  An empty text among the
parameters stands for any parameter. -/
def agreesWith (message : Message) (origin : Option Text) (verb : Verb) (params : List Text) :
    Bool :=
  message.origin = origin && message.verb = verb &&
    message.params.length = params.length &&
    (message.params.zip params).all fun pair => pair.2 = [] || pair.1 = pair.2

end Message

end IrcServer
