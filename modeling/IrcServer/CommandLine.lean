import IrcServer.Options
import IrcServer.Program
import IrcServer.Text.Quoted

namespace IrcServer

/-! The command line: its switches, and how arguments are read.

A switch is given by its letter or by its long name.  A value follows its switch as the next
argument, after an equals sign, or right after the letter; letters of switches without a value can
be joined.  What is asked for first, help or version, is answered at once, and an argument that is
no switch and no value is an error at once; other faults are found when all arguments are read. -/

/-- The switches, in the order in which a usage line lists them. -/
inductive Switch where
  | configFile
  | operPassword
  | port
  | quiet
  | serverName
  | verbose
  | help
  | version
deriving DecidableEq, Repr

namespace Switch

def all : List Switch :=
  [configFile, operPassword, port, quiet, serverName, verbose, help, version]

def letter : Switch → Char
  | configFile => 'c'
  | operPassword => 'o'
  | port => 'p'
  | quiet => 'q'
  | serverName => 's'
  | verbose => 'v'
  | help => 'h'
  | version => 'V'

def longName? : Switch → Option Text
  | configFile => some "config"
  | operPassword => some "oper-password"
  | port => some "port"
  | quiet => some "quiet"
  | serverName => some "server-name"
  | verbose => none
  | help => some "help"
  | version => some "version"

/-- What the value of the switch is called, if it takes one. -/
def valueName? : Switch → Option Text
  | configFile => some "CONFIG_FILE"
  | operPassword => some "OPER_PASSWD"
  | port => some "PORT"
  | serverName => some "SERVERNAME"
  | _ => none

def takesValue (switch : Switch) : Bool :=
  switch.valueName?.isSome

/-- Whether the switch may be given more than once. -/
def isRepeatable (switch : Switch) : Bool :=
  switch = verbose

def about : Switch → Text
  | configFile => Program.name ++ "'s configuration file"
  | operPassword => "Password of the OPER command"
  | port => "Port to listen on"
  | quiet => "Only log errors"
  | serverName => "Name of the server, used as prefix of its replies"
  | verbose => "Log more, -vv to log every line"
  | help => "Prints help information"
  | version => "Prints version information"

def ofLetter? (letter : Char) : Option Switch :=
  all.find? fun switch => switch.letter = letter

def ofLongName? (name : Text) : Option Switch :=
  all.find? fun switch => switch.longName? = some name

/-- The switch as messages show it. -/
def display (switch : Switch) : Text :=
  let name := match switch.longName? with
    | some name => '-' :: '-' :: name
    | none => ['-', switch.letter]
  match switch.valueName? with
  | some value => name ++ " <" ++ value ++ ">"
  | none => name

end Switch

namespace CommandLine

/-- Why the arguments are not run with. -/
inductive Cause where
  | helpAsked
  | versionAsked
  | unknownArgument (argument : Text)
  | emptyValue (switch : Switch)
  | conflict
  | badPort (value : Text)
  | repeated (switch : Switch)
deriving DecidableEq, Repr

/-- What has been read: the switches given so far, the values given to them, and the switch that
waits for its value. -/
structure State where
  given : List Switch
  values : List (Switch × Text)
  waiting : Option Switch
deriving DecidableEq, Repr

structure Error where
  cause : Cause
  /-- The name under which the program was called. -/
  calledAs : Option Text
  /-- The switches given before the error was found. -/
  given : List Switch
deriving DecidableEq, Repr

namespace State

def start : State :=
  { given := [], values := [], waiting := none }

def give (state : State) (switch : Switch) : State :=
  { state with given := state.given ++ [switch], waiting := none }

def giveValue (state : State) (switch : Switch) (value : Text) : State :=
  { state with values := state.values ++ [(switch, value)], waiting := none }

/-- A switch with the value that is joined to it, if one is. -/
def giveOption (state : State) (switch : Switch) (joined : Option Text) : State :=
  match joined with
  | none => { state.give switch with waiting := some switch }
  | some value => (state.giveValue switch (value.dropWhile (· = '='))).give switch

/-- A switch without a value. -/
def giveFlag (state : State) (switch : Switch) : Except Cause State :=
  match switch with
  | .help => .error .helpAsked
  | .version => .error .versionAsked
  | _ => .ok (state.give switch)

def valueOf (state : State) (switch : Switch) : Option Text :=
  state.values.lookup switch

end State

/-- Reads the letters of an argument with one dash.  With a cause comes the state in which it was
found. -/
def readLetters (state : State) : Text → Except (Cause × State) State
  | [] => .ok state
  | letter :: rest =>
      match Switch.ofLetter? letter with
      | none => .error (.unknownArgument ['-', letter], state)
      | some switch =>
          if switch.takesValue then
            .ok (state.giveOption switch (if rest = [] then none else some rest))
          else
            match state.giveFlag switch with
            | .error cause => .error (cause, state)
            | .ok state => readLetters state rest

/-- Reads an argument with two dashes. -/
def readLong (state : State) (argument : Text) : Except (Cause × State) State :=
  let body := argument.dropWhile (· = '-')
  let name := body.takeWhile (· ≠ '=')
  let joined := if '=' ∈ argument then some ((body.dropWhile (· ≠ '=')).drop 1) else none
  match Switch.ofLongName? name with
  | none => .error (.unknownArgument ('-' :: '-' :: name), state)
  | some switch =>
      if switch.takesValue then .ok (state.giveOption switch joined)
      else
        match state.giveFlag switch with
        | .error cause => .error (cause, state)
        | .ok state => .ok state

/-- Reads arguments.  After two dashes alone no argument is a switch or a value any more. -/
def readArguments (state : State) : List Text → Except (Cause × State) State
  | [] => .ok state
  | argument :: rest =>
      if argument = ['-', '-'] then
        match rest with
        | [] => .ok state
        | next :: _ => .error (.unknownArgument next, state)
      else if ['-', '-'].isPrefixOf argument then
        match readLong state argument with
        | .error error => .error error
        | .ok state => readArguments state rest
      else if argument.head? = some '-' ∧ argument ≠ ['-'] then
        match readLetters state (argument.dropWhile (· = '-')) with
        | .error error => .error error
        | .ok state => readArguments state rest
      else
        match state.waiting with
        | some switch => readArguments (state.giveValue switch argument) rest
        | none => .error (.unknownArgument argument, state)

/-- A port number, which may have a plus sign. -/
def port? (value : Text) : Option Nat :=
  value.natBelow? UInt16.size

/-- What is wrong with a switch that was given. -/
def switchFault? (state : State) (switch : Switch) : Option Cause :=
  if switch ∉ state.given then none
  else if switch.takesValue ∧ (state.valueOf switch).isNone then some (.emptyValue switch)
  else
    match state.values.find? fun given =>
        given.1 = switch ∧ switch = .port ∧ (port? given.2).isNone with
    | some (_, value) => some (.badPort value)
    | none =>
        if !switch.isRepeatable ∧ state.given.count switch > 1 then some (.repeated switch)
        else none

/-- What is wrong with the arguments as a whole. -/
def fault? (state : State) : Option Cause :=
  match state.waiting.filter fun switch => (state.valueOf switch).isNone with
  | some switch => some (.emptyValue switch)
  | none =>
      if Switch.quiet ∈ state.given ∧ Switch.verbose ∈ state.given then some .conflict
      else Switch.all.findSome? (switchFault? state)

def verbosity (state : State) : Verbosity :=
  if Switch.quiet ∈ state.given then .quiet
  else
    match state.given.count Switch.verbose with
    | 0 => .normal
    | 1 => .verbose
    | _ => .trace

def options (state : State) : Options :=
  { configFile := state.valueOf .configFile
    port := (state.valueOf .port).bind port?
    password := state.valueOf .operPassword
    domain := state.valueOf .serverName
    verbosity := verbosity state }

/-- The last part of a path, if it names something. -/
def fileName? (path : Text) : Option Text :=
  let parts := (path.splitOn '/').filter fun part => part ≠ [] ∧ part ≠ ['.']
  parts.getLast?.filter (· ≠ ['.', '.'])

/-- Reads a command line, the name of the program first. -/
def parse (arguments : List Text) : Except Error Options :=
  let calledAs := arguments.head?.bind fileName?
  match readArguments .start arguments.tail with
  | .error (cause, state) => .error ⟨cause, calledAs, state.given⟩
  | .ok state =>
      match fault? state with
      | some cause => .error ⟨cause, calledAs, state.given⟩
      | none => .ok (options state)

end CommandLine

end IrcServer
