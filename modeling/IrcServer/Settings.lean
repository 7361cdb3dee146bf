import IrcServer.Document
import IrcServer.Options
import IrcServer.SocketAddress
import IrcServer.Text.Quoted
import IrcServer.Text.Utf8

namespace IrcServer

/-! The settings of the server: defaults, then the configuration file, then the command line. -/

structure Settings where
  listen : SocketAddress
  /-- The number of worker threads, 0 for as many as there are processors. -/
  workers : Nat
  domain : Text
  password : Text
  motdFile : Option Text
  channelLimit : Nat
  nickLimit : Nat
deriving DecidableEq, Repr

inductive SettingsError where
  | io (error : Text)
  | format (error : Document.ParseError)
  | missingValue (name : Text)
  | badValue (name value : Text)
  | missingPassword
deriving DecidableEq, Repr

def SettingsError.message : SettingsError → Text
  | io error => error
  | format error => "syntax error: " ++ error.message
  | missingValue name => '\'' :: name ++ "' needs a value"
  | badValue name value => '\'' :: name ++ "' cannot be set to " ++ Quoted.text value
  | missingPassword => "an operator password is required (-o)"

namespace Settings

/-- The settings of a machine of that name when nothing is configured. -/
def default (host : Text) : Settings :=
  { listen := ⟨.v4 0 0 0 0, 6667⟩, workers := 0, domain := host, password := [], motdFile := none,
    channelLimit := 50, nickLimit := 9 }

/-- The value of a setting, `fallback` if the document does not speak of it.  The first directive
of the name counts, and of it the first parameter. -/
def value (document : List Directive) (name : Text) (read : Text → Option α) (fallback : α) :
    Except SettingsError α :=
  match Document.find? document name with
  | none => .ok fallback
  | some directive =>
      match directive.params with
      | [] => .error (.missingValue name)
      | param :: _ =>
          match read param with
          | none => .error (.badValue name param)
          | some value => .ok value

/-- A number that fits in 64 bits. -/
def number? (text : Text) : Option Nat :=
  text.natBelow? UInt64.size

/-- The settings that a document changes. -/
def ofDocument (host : Text) (document : List Directive) : Except SettingsError Settings := do
  let default := default host
  let listen ← value document "listen" SocketAddress.parse? default.listen
  let workers ← value document "workers" number? default.workers
  let domain ← value document "domain" some default.domain
  let password ← value document "password" some default.password
  let motdFile ← value document "motd_file" (fun file => some (some file)) default.motdFile
  let channelLimit ← value document "channellen" number? default.channelLimit
  let nickLimit ← value document "nicklen" number? default.nickLimit
  if channelLimit = 0 ∨ nickLimit = 0 then .error (.badValue "nicklen/channellen" "0")
  else
    .ok { listen, workers, domain, password, motdFile, channelLimit, nickLimit }

/-- The settings of a configuration file with this text. -/
def ofText (host text : Text) : Except SettingsError Settings :=
  match Document.parse text with
  | .error error => .error (.format error)
  | .ok document => ofDocument host document

/-- The settings with those of the command line in place of others. -/
def apply (settings : Settings) (options : Options) : Settings :=
  { settings with
    listen := { settings.listen with port := options.port.getD settings.listen.port }
    password := options.password.getD settings.password
    domain := options.domain.getD settings.domain }

/-- What keeps a server from starting with these settings. -/
def fault? (settings : Settings) : Option SettingsError :=
  if settings.password = [] then some .missingPassword
  else if settings.domain = [] ∨ ' ' ∈ settings.domain then
    some (.badValue "domain" settings.domain)
  else none

end Settings

/-- What reading a file gave: its bytes, or the error of the system. -/
abbrev FileContent := Except Text (List UInt8)

/-- The text of a file, or why there is none. -/
def FileContent.text : FileContent → Except Text Text
  | .error error => .error error
  | .ok bytes =>
      if Utf8.isValid bytes then .ok (Utf8.decode bytes)
      else .error "stream did not contain valid UTF-8"

/-- The settings of a configuration file. -/
def Settings.ofFile (host : Text) (file : FileContent) : Except SettingsError Settings :=
  match file.text with
  | .error error => .error (.io error)
  | .ok text => ofText host text

end IrcServer
