import IrcServer.Launch
import IrcServer.Wire
import Std.Time.Format

/-! The program.

It starts as its command line, its configuration file and `PARLANCE_LOG` say.  Then it serves the
client at its standard input and output until that client is gone: accepting connections is left to
whatever starts it. -/

namespace IrcServer.Main

/-- The client that is served. -/
def peer : Nat := 0

/-- What the system says of an error, with its number. -/
def systemError : IO.Error → Text
  | .noFileOrDirectory .. => "No such file or directory (os error 2)"
  | .permissionDenied _ code details
  | .inappropriateType _ code details
  | .invalidArgument _ code details
  | .otherError code details =>
      details.toList ++ " (os error " ++ Text.ofNat code.toNat ++ ")"
  | error => toString error

/-- The bytes of a file, or why it cannot be read. -/
def content (path : Text) : IO FileContent := do
  match ← (IO.FS.readBinFile (String.ofList path)).toBaseIO with
  | .ok bytes => return .ok bytes.toList
  | .error error => return .error (systemError error)

/-- The name of this machine. -/
def hostName : IO Text := do
  match ← content "/proc/sys/kernel/hostname" with
  | .ok bytes => return (Text.lines (Utf8.decode bytes)).headD "localhost"
  | .error _ => return "localhost"

/-- The present time, in seconds. -/
def timestamp : IO Text := do
  let now ← Std.Time.Timestamp.now
  return (Std.Time.DateTime.ofTimestamp now .UTC).format "uuuu-MM-dd'T'HH:mm:ss'Z'"

/-- What this run finds around it: the files that its start reads, the configuration file before
those that it names. -/
def surroundings (arguments : List Text) : IO Launch.Surroundings := do
  let host ← hostName
  let logFilter := (← IO.getEnv "PARLANCE_LOG").map String.toList
  let nothing : Launch.Surroundings := { host, logFilter, fileAt := fun _ => .error [] }
  let known := fun (around : Launch.Surroundings) => do
    let files ← (Launch.filesRead around arguments).mapM fun path => do
      return (path, ← content path)
    return { around with fileAt := fun path => (files.lookup path).getD (.error []) }
  known (← known nothing)

/-- Answers the bytes of the input as they come, each on its own, so that a line is answered as
soon as it ends. -/
partial def serve (input output : IO.FS.Stream) (wire : Wire) : IO Unit := do
  let bytes ← input.read 1
  let (wire, outcome) :=
    if bytes.isEmpty then wire.finish peer else wire.receive peer bytes.toList
  output.putStr (String.ofList (outcome.textFor peer))
  output.flush
  unless outcome.closed do serve input output wire

end IrcServer.Main

def main (arguments : List String) : IO UInt32 := do
  let arguments := IrcServer.Program.name :: arguments.map String.toList
  let around ← IrcServer.Main.surroundings arguments
  match IrcServer.Launch.run around arguments with
  | .error exit =>
      IO.print (String.ofList exit.stdout)
      IO.eprint (String.ofList exit.stderr)
      return exit.status.toUInt32
  | .ok ready =>
      IO.eprint (String.ofList ready.whenListening)
      let wire := IrcServer.Wire.new (ready.profile (← IrcServer.Main.timestamp))
      IrcServer.Main.serve (← IO.getStdin) (← IO.getStdout) (wire.connect "127.0.0.1")
      return 0
