import IrcServer.Text.Quoted

namespace IrcServer

/-! Mode strings: letters under signs, and the changes that they ask of a channel.

A letter stands under the nearest sign before it, or under `+`.  The one mode of a channel is `o`,
which takes a nickname; blank parameters are passed over when it takes one. -/

namespace Mode

/-- The modes of users and of channels, as the welcome lists them. -/
def userModes : Text := "o"

def channelModes : Text := "o"

/-- A letter of a mode string, and whether it stands under a plus. -/
structure Letter where
  enabled : Bool
  symbol : Char
deriving DecidableEq, Repr

/-- The letters of a mode string that is read under the sign `enabled`. -/
def lettersUnder : Bool → Text → List Letter
  | _, [] => []
  | enabled, c :: rest =>
      if c = '+' then lettersUnder true rest
      else if c = '-' then lettersUnder false rest
      else ⟨enabled, c⟩ :: lettersUnder enabled rest

def letters (modes : Text) : List Letter :=
  lettersUnder true modes

/-- A change that a channel can make: a nickname gains or loses the operator flag. -/
structure Change where
  enabled : Bool
  nick : Text
deriving DecidableEq, Repr

def Change.symbol (_ : Change) : Char := 'o'

/-- The mode string of one change, such as `+o`. -/
def Change.modeString (change : Change) : Text :=
  [if change.enabled then '+' else '-', change.symbol]

inductive Fault where
  | unknown (letter : Letter)
  | missingParam (letter : Letter)
deriving DecidableEq, Repr

def Fault.letter : Fault → Letter
  | unknown letter => letter
  | missingParam letter => letter

def Fault.message : Fault → Text
  | unknown letter => "unknown mode " ++ Quoted.char letter.symbol
  | missingParam letter => "mode " ++ Quoted.char letter.symbol ++ " needs a parameter"

/-- Pairs letters with the nicknames that are left. -/
def changesOf : List Letter → List Text → List (Except Fault Change)
  | [], _ => []
  | letter :: rest, nicks =>
      if letter.symbol = 'o' then
        match nicks with
        | [] => .error (.missingParam letter) :: changesOf rest []
        | nick :: others => .ok ⟨letter.enabled, nick⟩ :: changesOf rest others
      else .error (.unknown letter) :: changesOf rest nicks

/-- What a mode string and its parameters ask of a channel, one item for each letter. -/
def channelChanges (modes : Text) (params : List Text) : List (Except Fault Change) :=
  changesOf (letters modes) (params.filter (· ≠ []))

/-- All the changes, or the first fault. -/
def validate : List (Except Fault Change) → Except Fault (List Change)
  | [] => .ok []
  | .error fault :: _ => .error fault
  | .ok change :: rest =>
      match validate rest with
      | .error fault => .error fault
      | .ok changes => .ok (change :: changes)

end Mode

end IrcServer
