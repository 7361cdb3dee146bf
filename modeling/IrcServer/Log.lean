import IrcServer.Options
import IrcServer.Program
import IrcServer.Text.Blank

namespace IrcServer

/-! The log: records, and the filter that says which of them are written.

A filter is a list of directives and an optional text that a record has to contain.  A directive
sets the level of the targets whose names start with its own, or of all targets; of those that
apply to a target the one with the longest name counts. -/

namespace Log

inductive Level where
  | error
  | warn
  | info
  | debug
  | trace
deriving DecidableEq, Repr

namespace Level

def rank : Level → Nat
  | error => 1
  | warn => 2
  | info => 3
  | debug => 4
  | trace => 5

/-- The name of the level, in a column of five characters. -/
def label : Level → Text
  | error => "ERROR"
  | warn => "WARN "
  | info => "INFO "
  | debug => "DEBUG"
  | trace => "TRACE"

end Level

structure Record where
  level : Level
  target : Text
  message : Text
deriving DecidableEq, Repr

/-- The record as a line. -/
def Record.line (record : Record) : Text :=
  '[' :: record.level.label ++ ' ' :: record.target ++ "] " ++ record.message ++ "\n"

/-- The most that is written of some targets: their highest rank of level, 0 for nothing. -/
structure Directive where
  target : Option Text
  rank : Nat
deriving DecidableEq, Repr

structure Filter where
  directives : List Directive
  contains : Option Text
deriving DecidableEq, Repr

/-- The rank that a word stands for, in letters of either case. -/
def rank? (word : Text) : Option Nat :=
  let ranks : List (Text × Nat) :=
    [("off", 0), ("error", 1), ("warn", 2), ("info", 3), ("debug", 4), ("trace", 5)]
  ranks.lookup word.fold

/-- Every level. -/
def allRanks : Nat := Level.trace.rank

def warning (specification : Text) (reason : Text) : Text :=
  "warning: invalid logging spec '" ++ specification ++ "', ignoring it" ++ reason ++ "\n"

/-- A directive, or the warning that it is not one. -/
def Directive.parse (text : Text) : Except Text Directive :=
  match text.splitOn '=' with
  | [only] =>
      match rank? only with
      | some rank => .ok ⟨none, rank⟩
      | none => .ok ⟨some only, allRanks⟩
  | [target, level] =>
      let level := Text.trim level
      if level = [] then .ok ⟨some target, allRanks⟩
      else
        match rank? level with
        | some rank => .ok ⟨some target, rank⟩
        | none => .error (warning level [])
  | _ => .error (warning text [])

/-- A directive in place of the one for the same targets. -/
def putDirective (directives : List Directive) (directive : Directive) : List Directive :=
  directives.filter (fun other => other.target ≠ directive.target) ++ [directive]

/-- Reads a filter: directives between commas, with white space around them or not.  Returns the
warnings about what is not understood. -/
def Filter.parse (specification : Text) : Filter × List Text :=
  match specification.splitOn '/' with
  | names :: rest =>
      if rest.length > 1 then (⟨[], none⟩, [warning specification " (too many '/'s)"])
      else
        let read := (((names.splitOn ',').map Text.trim).filter (· ≠ [])).map Directive.parse
        let directives := (read.filterMap Except.toOption).foldl putDirective []
        let warnings := read.filterMap fun result =>
          match result with
          | .error warning => some warning
          | .ok _ => none
        (⟨directives, rest.head?⟩, warnings)
  | [] => (⟨[], none⟩, [])

/-- Of two directives the one with the longer name. -/
def closer (best : Option Directive) (next : Directive) : Option Directive :=
  match best with
  | some directive =>
      if (next.target.getD []).byteLength < (directive.target.getD []).byteLength then best
      else some next
  | none => some next

/-- The highest rank that is written of a target.  Without any directive that is errors. -/
def Filter.rankOf (filter : Filter) (target : Text) : Nat :=
  if filter.directives = [] then Level.error.rank
  else
    let applying := filter.directives.filter fun directive =>
      (directive.target.getD []).isPrefixOf target
    ((applying.foldl closer none).map Directive.rank).getD 0

/-- Whether `part` stands somewhere in `text`. -/
def isPart (part : Text) : Text → Bool
  | [] => part = []
  | c :: rest => part.isPrefixOf (c :: rest) || isPart part rest

def Filter.writes (filter : Filter) (record : Record) : Bool :=
  record.level.rank ≤ filter.rankOf record.target &&
    filter.contains.all fun part => isPart part record.message

/-- The filter of a verbosity. -/
def defaultFilter (verbosity : Verbosity) : Text :=
  let level : Text := match verbosity with
    | .quiet => "error"
    | .normal => "info"
    | .verbose => "debug"
    | .trace => "trace"
  Program.name ++ '=' :: level

end Log

end IrcServer
