import IrcServer.CommandLine

namespace IrcServer

/-! What the command line has to say: help, version, and errors with the usage of the program. -/

namespace CommandLine

def lineBreak : Text := ['\n']

/-- The name under which the program was called, its own name if that is not known. -/
def shownName (calledAs : Option Text) : Text :=
  calledAs.getD Program.name

/-- The usage of the program: in general, or of the switches that were given. -/
def usage (calledAs : Option Text) (given : List Switch) : Text :=
  let switches :=
    if given = [] then [" [FLAGS] [OPTIONS]".toList]
    else (Switch.all.filter (· ∈ given)).map fun switch => ' ' :: switch.display
  "USAGE:\n    " ++ shownName calledAs ++ switches.flatten

/-- The letter and the long name of a switch. -/
def column (switch : Switch) : Text :=
  match switch.longName? with
  | some _ => '-' :: switch.letter :: ", " ++ switch.display
  | none => switch.display

/-- Switches one below the other, with what they do. -/
def table (switches : List Switch) : Text :=
  let width := (switches.map fun switch => (column switch).length).foldl max 0 + 4
  switches.flatMap fun switch =>
    "\n    " ++ column switch ++ List.replicate (width - (column switch).length) ' ' ++ switch.about

/-- The heading of the help.  A name with spaces is written with dashes. -/
def heading (calledAs : Option Text) : Text :=
  match calledAs.filter (' ' ∈ ·) with
  | some name => name.map fun c => if c = ' ' then '-' else c
  | none => Program.name

def helpText (calledAs : Option Text) : Text :=
  heading calledAs ++ ' ' :: Program.version ++ lineBreak ++ Program.description ++ "\n\n" ++
    usage calledAs [] ++ "\n\nFLAGS:" ++ table [.quiet, .verbose, .help, .version] ++
    "\n\nOPTIONS:" ++ table [.configFile, .operPassword, .port, .serverName]

def versionText : Text :=
  Program.name ++ ' ' :: Program.version

/-- The one line that says what is wrong. -/
def Cause.message : Cause → Text
  | helpAsked | versionAsked => []
  | unknownArgument argument =>
      "Found argument '" ++ argument ++ "' which wasn't expected, or isn't valid in this context"
  | emptyValue switch =>
      "The argument '" ++ switch.display ++ "' requires a value but none was supplied"
  | conflict =>
      "The argument '" ++ Switch.verbose.display ++ "' cannot be used with '" ++
        Switch.quiet.display ++ "'"
  | badPort value =>
      "Invalid value for '" ++ Switch.port.display ++ "': invalid port " ++ Quoted.text value
  | repeated switch =>
      "The argument '" ++ switch.display ++
        "' was provided more than once, but cannot be used multiple times"

/-- Whether the program was asked for something, so that this is no failure. -/
def Error.isAnswer (error : Error) : Bool :=
  error.cause = .helpAsked || error.cause = .versionAsked

/-- What the program writes instead of running. -/
def Error.text (error : Error) : Text :=
  match error.cause with
  | .helpAsked => helpText error.calledAs
  | .versionAsked => versionText
  | .badPort value => "error: " ++ (Cause.badPort value).message
  | cause =>
      "error: " ++ cause.message ++ "\n\n" ++ usage error.calledAs error.given ++
        "\n\nFor more information try --help"

end CommandLine

end IrcServer
