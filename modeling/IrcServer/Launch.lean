import IrcServer.CommandLine.Help
import IrcServer.Log
import IrcServer.Network
import IrcServer.Settings

namespace IrcServer

/-! The start of the program, from its command line to the moment when it listens. -/

namespace Launch

/-- The targets of the log. -/
def mainTarget : Text := Program.name

def stateTarget : Text := Program.name ++ "::state"

def netTarget : Text := Program.name ++ "::net"

/-- What the program finds around it. -/
structure Surroundings where
  /-- The name of the machine. -/
  host : Text
  /-- The filter of the log, in place of the one that the command line asks for. -/
  logFilter : Option Text
  fileAt : Text → FileContent

/-- The program is over. -/
structure Exit where
  status : Nat
  stdout : Text
  stderr : Text
deriving DecidableEq, Repr

/-- The program is ready to listen. -/
structure Ready where
  settings : Settings
  motd : Option Text
  filter : Log.Filter
  stderr : Text

/-- Adds a record to the log, if it is written. -/
def logged (filter : Log.Filter) (stderr : Text) (record : Log.Record) : Text :=
  if filter.writes record then stderr ++ record.line else stderr

def failedToRead (level : Log.Level) (target path error : Text) : Log.Record :=
  { level, target, message := "Failed to read " ++ Quoted.text path ++ ": " ++ error }

def invalid (error : SettingsError) : Log.Record :=
  { level := .error, target := mainTarget,
    message := "Invalid configuration: " ++ error.message }

def starting (settings : Settings) : Log.Record :=
  { level := .info, target := mainTarget,
    message := "Starting " ++ Program.release ++ " as " ++ settings.domain }

def listening (settings : Settings) : Log.Record :=
  { level := .info, target := netTarget,
    message := "Listening on " ++ settings.listen.display ++ " for plain-text connections..." }

def interrupted : Log.Record :=
  { level := .info, target := mainTarget, message := "Interrupted, shutting down" }

/-- The settings of the file that the command line names. -/
def configured (around : Surroundings) (options : Options) : Except Log.Record Settings :=
  match options.configFile with
  | none => .ok (.default around.host)
  | some path =>
      match Settings.ofFile around.host (around.fileAt path) with
      | .ok settings => .ok settings
      | .error error => .error (failedToRead .error mainTarget path error.message)

/-- The files that a start reads: the configuration file, and then those that it names. -/
def filesRead (around : Surroundings) (arguments : List Text) : List Text :=
  match CommandLine.parse arguments with
  | .error _ => []
  | .ok options =>
      let named := match configured around options with
        | .ok settings => settings.motdFile.toList
        | .error _ => []
      options.configFile.toList ++ named

/-- The message of the day, and a warning if its file cannot be read. -/
def readMotd (around : Surroundings) (settings : Settings) : Option Text × Option Log.Record :=
  match settings.motdFile with
  | none => (none, none)
  | some path =>
      match (around.fileAt path).text with
      | .ok motd => (some motd, none)
      | .error error => (none, some (failedToRead .warn stateTarget path error))

/-- Starts with options: either the settings are good, or the program is over. -/
def start (around : Surroundings) (options : Options) : Except Exit Ready :=
  let (filter, warnings) :=
    Log.Filter.parse (around.logFilter.getD (Log.defaultFilter options.verbosity))
  let failed := fun record => Except.error (Exit.mk 1 [] (logged filter warnings.flatten record))
  match configured around options with
  | .error record => failed record
  | .ok file =>
      let settings := file.apply options
      match settings.fault? with
      | some error => failed (invalid error)
      | none =>
          let (motd, warning) := readMotd around settings
          let records := starting settings :: warning.toList
          .ok { settings, motd, filter, stderr := records.foldl (logged filter) warnings.flatten }

/-- Starts with a command line, the name of the program first. -/
def run (around : Surroundings) (arguments : List Text) : Except Exit Ready :=
  match CommandLine.parse arguments with
  | .ok options => start around options
  | .error error =>
      let text := error.text ++ "\n"
      .error (if error.isAnswer then ⟨0, text, []⟩ else ⟨1, [], text⟩)

/-- Whether the log tells that the program listens. -/
def Ready.isAnnounced (ready : Ready) : Bool :=
  ready.filter.writes (listening ready.settings)

/-- What the program has written when it listens. -/
def Ready.whenListening (ready : Ready) : Text :=
  logged ready.filter ready.stderr (listening ready.settings)

/-- The program is interrupted while it listens. -/
def Ready.interrupt (ready : Ready) : Exit :=
  ⟨0, [], logged ready.filter ready.whenListening interrupted⟩

/-- What the server is told. -/
def Ready.profile (ready : Ready) (createdAt : Text) : Profile :=
  { domain := ready.settings.domain, password := ready.settings.password, createdAt,
    motd := ready.motd, nickLimit := ready.settings.nickLimit,
    channelLimit := ready.settings.channelLimit }

end Launch

end IrcServer
