import IrcServer.Proofs.Words
import IrcServer.Server.Membership

namespace IrcServer

/-! What a client reads out of the lines that it receives. -/

/-- A line in its parts.  Parts that are missing are empty. -/
structure Heard where
  origin : Text
  verb : Text
  params : List Text
deriving DecidableEq, Repr

/-- What a line says of channels and of those who are in them. -/
inductive News where
  | welcomed (nick : Text)
  | joined (nick channel : Text)
  | listed (channel : Text) (members : List Member)
  | listEnded (channel : Text)
  | parted (nick channel : Text)
  | quit (nick : Text)
  | renamed (old nick : Text)
  | changed (channel nick : Text) (operator : Bool)
  | other
deriving DecidableEq, Repr

/-- The member that a list of names shows so. -/
def Member.ofShown : Text → Member
  | '@' :: nick => ⟨nick, true⟩
  | nick => ⟨nick, false⟩

namespace Heard

def ofLine (line : Text) : Heard :=
  let (origin, afterOrigin) := Message.parseOrigin (Message.body line)
  let (verb, afterVerb) := Text.splitWord afterOrigin
  { origin := origin.getD [], verb, params := (Message.parseParams (maxParams - 1) afterVerb).1 }

/-- The nickname of the client on whose behalf the line was written. -/
def nick (heard : Heard) : Text :=
  heard.origin.takeWhile (· ≠ '!')

def newsOfReply (code : Text) (params : List Text) : News :=
  match params with
  | [nick, _] => if code = "001" then .welcomed nick else .other
  | [_, channel, _] => if code = "366" then .listEnded channel else .other
  | [_, _, channel, shown] =>
      if code = "353" then .listed channel ((shown.splitOn ' ').map Member.ofShown) else .other
  | _ => .other

def news (heard : Heard) : News :=
  match Command.ofName? heard.verb, heard.params with
  | some .join, channel :: _ => .joined heard.nick channel
  | some .part, channel :: _ => .parted heard.nick channel
  | some .quit, _ => .quit heard.nick
  | some .nick, nick :: _ => .renamed heard.nick nick
  | some .mode, [channel, modes, nick] =>
      if modes = "+o" then .changed channel nick true
      else if modes = "-o" then .changed channel nick false
      else .other
  | none, params => newsOfReply heard.verb params
  | _, _ => .other

theorem ofLine_of_parse? {line : Text} {message : Message}
    (parsed : Message.parse? line = some message) :
    message.origin.getD [] = (ofLine line).origin ∧
      message.verb = .ofWord (ofLine line).verb ∧ message.params = (ofLine line).params := by
  unfold Message.parse? at parsed
  dsimp only at parsed
  split at parsed
  · cases parsed
  · split at parsed
    · cases parsed
    · cases parsed
      exact ⟨rfl, rfl, rfl⟩

end Heard

/-- What a client reads from a line that is sent to it. -/
def Line.heard (line : Line) : Heard :=
  .ofLine line.wire

namespace Line

/-- The line is not cut when it is sent. -/
def Uncut (line : Line) : Prop :=
  line.raw.byteLength ≤ maxLineBytes - 2

variable {line : Line}

def tail (line : Line) : Text :=
  line.params.flatMap Param.raw ++ rawText line.text

theorem tail_apart (line : Line) : line.tail = [] ∨ ∃ rest, line.tail = ' ' :: rest := by
  unfold tail
  induction line.params with
  | nil =>
      cases line.text with
      | none => exact .inl rfl
      | some text => exact .inr ⟨_, rfl⟩
  | cons param rest inductionHypothesis =>
      rw [List.flatMap_cons, List.append_assoc]
      cases param with
      | exact text => exact .inr ⟨_, rfl⟩
      | word text =>
          rw [Param.raw]
          split
          · exact inductionHypothesis
          · exact .inr ⟨_, rfl⟩

theorem wire_eq (uncut : line.Uncut) : line.wire = line.raw ++ crlf := by
  rw [wire, cut, Text.takeBytes_eq_self uncut]

section Front

variable (verb : line.command.IsWord)

include verb

theorem trimEndWhile_front :
    (rawOrigin line.origin ++ line.command).trimEndWhile Message.isLineEnd =
      rawOrigin line.origin ++ line.command := by
  obtain ⟨c, last, visible⟩ := verb.last
  refine Text.trimEndWhile_of_last ?_ (Text.isLineEnd_of_visible visible)
  rw [List.getLast?_append, last, Option.some_or]

theorem trimStart_front (rest : Text) :
    (rawOrigin line.origin ++ line.command ++ rest).trimStart =
      rawOrigin line.origin ++ line.command ++ rest := by
  have started : ∃ c rest, rawOrigin line.origin ++ line.command = c :: rest ∧
      isBlank c = false := by
    unfold rawOrigin
    split
    · obtain ⟨c, rest, shape, visible, _⟩ := verb.head
      exact ⟨c, rest, shape, visible⟩
    · exact ⟨':', _, rfl, by decide⟩
  obtain ⟨c, rest, shape, visible⟩ := started
  rw [shape, List.cons_append, Text.trimStart_cons visible]

end Front

/-- A reader finds the line as it was written, but for line endings at the end of it. -/
theorem body_wire (uncut : line.Uncut) (verb : line.command.IsWord) :
    Message.body line.wire =
      rawOrigin line.origin ++ line.command ++ line.tail.trimEndWhile Message.isLineEnd := by
  have trimmed : line.wire.trimEndWhile Message.isLineEnd =
      rawOrigin line.origin ++ line.command ++ line.tail.trimEndWhile Message.isLineEnd := by
    rw [wire_eq uncut, Text.trimEndWhile_append_of_all _ Text.isLineEnd_of_mem_crlf, raw,
      List.append_assoc _ _ (rawText _)]
    exact Text.trimEndWhile_append (trimEndWhile_front verb) _
  rw [Message.body, trimmed, trimStart_front verb]

theorem parseOrigin_rawOrigin {origin rest : Text} (single : ' ' ∉ origin) {c : Char}
    {letters : Text} (shape : rest = c :: letters) (visible : isBlank c = false) (plain : c ≠ ':') :
    (Message.parseOrigin (rawOrigin origin ++ rest)).1.getD [] = origin ∧
      (Message.parseOrigin (rawOrigin origin ++ rest)).2 = rest := by
  have notSpace : c ≠ ' ' := by
    rintro rfl
    exact absurd visible (by decide)
  by_cases nobody : origin = []
  · subst nobody
    have unchanged : Message.parseOrigin rest = (none, rest) := by
      rw [shape, Message.parseOrigin]
      intro other same
      exact plain (List.cons.inj same).1
    rw [rawOrigin, if_pos rfl, List.nil_append, unchanged]
    exact ⟨rfl, rfl⟩
  · have written : rawOrigin origin ++ rest = ':' :: (origin ++ ' ' :: rest) := by
      simp [rawOrigin, nobody]
    have split := Text.splitWord_append single (.inr ⟨rest, rfl⟩)
    rw [List.dropWhile_cons_of_pos (by simp), shape,
      List.dropWhile_cons_of_neg (by simp [notSpace])] at split
    rw [written, shape, Message.parseOrigin, split]
    exact ⟨rfl, rfl⟩

theorem trimmed_apart (line : Line) :
    line.tail.trimEndWhile Message.isLineEnd = [] ∨
      ∃ rest, line.tail.trimEndWhile Message.isLineEnd = ' ' :: rest := by
  rcases line.tail_apart with none | ⟨rest, shape⟩
  · rw [none]
    exact .inl rfl
  · have kept : Text.trimEndWhile Message.isLineEnd [' '] = [' '] := by decide
    rw [shape]
    exact .inr ⟨_, Text.trimEndWhile_append kept rest⟩

theorem heard_eq (single : ' ' ∉ line.origin) (verb : line.command.IsWord) (uncut : line.Uncut) :
    line.heard =
      { origin := line.origin
        verb := line.command
        params := (Message.parseParams (maxParams - 1)
          ((line.tail.trimEndWhile Message.isLineEnd).dropWhile (· = ' '))).1 } := by
  obtain ⟨c, letters, shape, visible, plain⟩ := verb.head
  have origin := @parseOrigin_rawOrigin line.origin
    (line.command ++ line.tail.trimEndWhile Message.isLineEnd) single c _
    (by rw [shape]; rfl) visible plain
  have split := Text.splitWord_append verb.single line.trimmed_apart
  rw [heard, Heard.ofLine, body_wire uncut verb, List.append_assoc]
  dsimp only
  rw [origin.1, origin.2, split]

theorem heard_words {words : List Text} (single : ' ' ∉ line.origin)
    (verb : line.command.IsWord) (uncut : line.Uncut) (params : line.params = words.map .word)
    (each : ∀ word ∈ words, word.IsWord) (fits : words.length ≤ maxParams - 1) :
    line.heard =
      { origin := line.origin
        verb := line.command
        params := words ++
          (line.text.map fun text => text.trimEndWhile Message.isLineEnd).toList } := by
  have tail : line.tail = written words line.text := by
    have raw : (words.map Param.word).flatMap Param.raw =
        words.flatMap fun word => ' ' :: word := by
      rw [List.flatMap_map]
      exact List.flatMap_congr fun word member => (each word member).raw_eq
    rw [Line.tail, params, raw, written]
  rw [heard_eq single verb uncut, tail, trimEndWhile_written each, parseParams_written each _ fits]

end Line

/-! Commands and codes are written in letters and digits. -/

theorem Command.isWord_name (command : Command) : command.name.IsWord := by
  refine Nickname.isWord_of_all_isChar ?_ ?_
  · cases command <;> decide
  · cases command <;> decide

theorem Mode.Change.isWord_modeString (change : Mode.Change) : change.modeString.IsWord := by
  have given : Text.IsWord ['+', 'o'] :=
    ⟨⟨'+', ['o'], rfl, by decide, by decide⟩, ⟨'o', rfl, by decide⟩, by decide⟩
  have taken : Text.IsWord ['-', 'o'] :=
    ⟨⟨'-', ['o'], rfl, by decide, by decide⟩, ⟨'o', rfl, by decide⟩, by decide⟩
  obtain ⟨enabled, nick⟩ := change
  cases enabled
  · exact taken
  · exact given

theorem Reply.isWord_code (reply : Reply) : reply.code.IsWord := by
  refine Nickname.isWord_of_all_isChar ?_ ?_
  · cases reply <;> exact List.cons_ne_nil _ _
  · cases reply <;> rfl

theorem Reply.ofName?_code (reply : Reply) : Command.ofName? reply.code = none := by
  cases reply <;> rfl

end IrcServer
