import IrcServer.Proofs.Consistent
import IrcServer.Proofs.Heard

namespace IrcServer

/-! What has been done to operators of channels over a run.

A `Deed` is read off the line that confirms it to the client that did it, and remembers clients by
number.  So it outlives nicknames, and a change that is confirmed to nobody would be missed:
`Network.history` knows no flags and no guards.
-/

/-- A line that confirms no deed. -/
def Line.Quiet (line : Line) : Prop :=
  line.command ≠ Command.join.name ∧ line.command ≠ Command.mode.name

section Quiet

variable {server : Server} {user : User} {line : Line}

theorem User.quiet_line {command : Command} (notJoin : command ≠ .join) (notMode : command ≠ .mode)
    {params : List Param} {text : Option Text} (told : line ∈ [user.line command params text]) :
    line.Quiet := by
  rw [List.mem_singleton.mp told]
  exact ⟨mt Command.name_injective notJoin, mt Command.name_injective notMode⟩

theorem Reply.code_ne (reply : Reply) (command : Command) : reply.code ≠ command.name := by
  intro same
  have known := Command.ofName?_name command
  rw [← same, reply.ofName?_code] at known
  cases known

theorem Server.quiet_reply {replies : List Reply} (told : line ∈ replies.map (server.reply user)) :
    line.Quiet := by
  obtain ⟨reply, _, rfl⟩ := List.mem_map.mp told
  exact ⟨reply.code_ne .join, reply.code_ne .mode⟩

theorem Answer.quiet (answer : Answer server user line) : line.Quiet := by
  cases answer with
  | @reply reply => exact ⟨reply.code_ne .join, reply.code_ne .mode⟩
  | pong =>
      refine ⟨fun same => ?_, fun same => ?_⟩
      · cases @Command.name_injective .pong .join same
      · cases @Command.name_injective .pong .mode same

end Quiet

inductive Deed where
  /-- A client has entered a channel, and was perhaps the one to create it. -/
  | joined (client : Nat) (channel : Text) (creating : Bool)
  /-- A client has changed the flag of a member. -/
  | changed (issuer target : Nat) (channel : Text) (enabled : Bool)
deriving DecidableEq, Repr

namespace Deed

/-- The flag that a client has in a channel by this deed; nothing if the deed does not bear on the
client there.  Who enters a channel that is there already enters without the flag. -/
def flagFor (client : Nat) (channel : Text) : Deed → Option Bool
  | joined other name creating =>
      if other = client ∧ name.fold = channel.fold then some creating else none
  | changed _ target name enabled =>
      if target = client ∧ name.fold = channel.fold then some enabled else none

/-- The deed that a line confirms to `client`, whose message has come to `server`. -/
def ofLine (server : Server) (client : Nat) (line : Line) : Option Deed :=
  match line.params with
  | [.word channel] =>
      if line.command = Command.join.name then
        some (.joined client channel (!server.channels.contains channel))
      else none
  | [.word channel, .word mode, .word nick] =>
      if line.command = Command.mode.name then
        (server.users.find? nick).map fun target =>
          .changed client target.queue channel (mode.head? = some '+')
      else none
  | _ => none

def ofLines (server : Server) (client : Nat) (lines : List Line) : List Deed :=
  lines.filterMap (ofLine server client)

/-- The flag that a client has in a channel by all deeds so far: the last one that bears on it
decides. -/
def standing (history : List Deed) (client : Nat) (channel : Text) : Bool :=
  (history.reverse.findSome? (flagFor client channel)).getD false

end Deed

namespace Network

/-- The deeds of an event. -/
def deeds (network : Network) (event : Event) : List Deed :=
  match network.speaker? event with
  | some (number, client, message) =>
      Deed.ofLines network.server number
        (Handler.handle message network.server client.user).replies
  | none => []

/-- The deeds of a run, the first one first. -/
def history : Network → List Event → List Deed :=
  gathered deeds

end Network

namespace Deed

variable {start server : Server} {user : User} {client : Nat} {channel : Text}

theorem standing_congr {name : Text} (same : name.fold = channel.fold) (history : List Deed) :
    standing history client name = standing history client channel := by
  have flags : flagFor client name = flagFor client channel := by
    funext deed
    cases deed with
    | joined | changed => unfold flagFor; rw [same]
  rw [standing, flags, standing]

theorem standing_append {more : List Deed} {history : List Deed}
    (idle : ∀ deed ∈ more, deed.flagFor client channel = none) :
    standing (history ++ more) client channel = standing history client channel := by
  have none : more.reverse.findSome? (flagFor client channel) = none := by
    rw [List.findSome?_eq_none_iff]
    exact fun deed member => idle deed (List.mem_reverse.mp member)
  rw [standing, List.reverse_append, List.findSome?_append, none, Option.none_or, standing]

/-- Deeds that agree with one another on a client decide. -/
theorem standing_agreed {more history : List Deed} {flag : Bool}
    (agreed : ∀ deed ∈ more, deed.flagFor client channel = none ∨
      deed.flagFor client channel = some flag)
    (bears : ∃ deed ∈ more, deed.flagFor client channel = some flag) :
    standing (history ++ more) client channel = flag := by
  obtain ⟨deed, member, given⟩ := bears
  have decided : (more.reverse.findSome? (flagFor client channel)).isSome = true :=
    List.findSome?_isSome_iff.mpr ⟨deed, List.mem_reverse.mpr member, by rw [given]; rfl⟩
  obtain ⟨last, found⟩ := Option.isSome_iff_exists.mp decided
  obtain ⟨other, otherMember, otherFlag⟩ := List.exists_of_findSome?_eq_some found
  have same : last = flag := by
    rcases agreed other (List.mem_reverse.mp otherMember) with none | some
    · cases none.symm.trans otherFlag
    · exact Option.some.inj (otherFlag.symm.trans some)
  rw [standing, List.reverse_append, List.findSome?_append, found, Option.some_or,
    Option.getD_some, same]

theorem standing_concat {deed : Deed} {flag : Bool} {history : List Deed}
    (bears : deed.flagFor client channel = some flag) :
    standing (history ++ [deed]) client channel = flag := by
  refine standing_agreed (fun other member => ?_) ⟨deed, List.mem_singleton.mpr rfl, bears⟩
  rw [List.mem_singleton.mp member]
  exact .inr bears

/-- A client has the flag just when the last deed that bears on it gives it the flag. -/
theorem standing_iff {history : List Deed} :
    standing history client channel = true ↔
      ∃ before deed later, history = before ++ deed :: later ∧
        deed.flagFor client channel = some true ∧
        ∀ other ∈ later, other.flagFor client channel = none := by
  have decided : standing history client channel = true ↔
      history.reverse.findSome? (flagFor client channel) = some true := by
    unfold standing
    cases history.reverse.findSome? (flagFor client channel) <;> simp
  rw [decided, List.findSome?_eq_some_iff]
  constructor
  · rintro ⟨later, deed, before, split, bears, idle⟩
    refine ⟨before.reverse, deed, later.reverse, ?_, bears, fun other member =>
      idle other (List.mem_reverse.mp member)⟩
    rw [← List.reverse_reverse history, split]
    simp
  · rintro ⟨before, deed, later, rfl, bears, idle⟩
    refine ⟨later.reverse, deed, before.reverse, by simp, bears, fun other member =>
      idle other (List.mem_reverse.mp member)⟩

/-! What each line confirms. -/

theorem ofLine_of_quiet {line : Line} (quiet : line.Quiet) : ofLine start client line = none := by
  unfold ofLine
  split
  · rw [if_neg quiet.1]
  · rw [if_neg quiet.2]
  · rfl

theorem ofLines_of_quiet {lines : List Line} (quiet : ∀ line ∈ lines, line.Quiet) :
    ofLines start client lines = [] :=
  List.filterMap_eq_nil_iff.mpr fun line member => ofLine_of_quiet (quiet line member)

/-- A deed is confirmed by a line of JOIN or of MODE. -/
theorem ofLine_cases {line : Line} {deed : Deed} (done : ofLine start client line = some deed) :
    (line.command = Command.join.name ∧
        ∃ name, deed = .joined client name (!start.channels.contains name)) ∨
      (line.command = Command.mode.name ∧ ∃ target name enabled rest,
        deed = .changed client target name enabled ∧ line.params = .word name :: rest) := by
  unfold ofLine at done
  split at done
  · rename_i name _
    split at done
    · rename_i told
      cases done
      exact .inl ⟨told, name, rfl⟩
    · cases done
  · rename_i name mode nick params
    split at done
    · rename_i told
      obtain ⟨target, _, rfl⟩ := Option.map_eq_some_iff.mp done
      exact .inr ⟨told, target.queue, name, _, _, rfl, params⟩
    · cases done
  · cases done

theorem ofLine_join (name : Text) :
    ofLine start client (user.line .join [.word name] none) =
      some (.joined client name (!start.channels.contains name)) := by
  simp [ofLine, User.line]

theorem ofLine_change (channel : Channel) (change : Mode.Change) :
    ofLine start client (Handler.changeLine user channel change) =
      (start.users.find? change.nick).map fun target =>
        .changed client target.queue channel.name change.enabled := by
  have sign : decide (change.modeString.head? = some '+') = change.enabled := by
    unfold Mode.Change.modeString
    cases change.enabled with
    | false => rfl
    | true => rfl
  simp only [ofLine, Handler.changeLine, User.line, if_true, sign]

theorem ofLines_line {command : Command} (notJoin : command ≠ .join) (notMode : command ≠ .mode)
    {params : List Param} {text : Option Text} :
    ofLines start client [user.line command params text] = [] :=
  ofLines_of_quiet fun _ told => User.quiet_line notJoin notMode told

theorem ofLines_replies (replies : List Reply) :
    ofLines start client (replies.map (server.reply user)) = [] :=
  ofLines_of_quiet fun _ told => Server.quiet_reply told

theorem ofLines_answers {lines : List Line} (answers : ∀ line ∈ lines, Answer server user line) :
    ofLines start client lines = [] :=
  ofLines_of_quiet fun line told => (answers line told).quiet

theorem ofLines_append (first second : List Line) :
    ofLines start client (first ++ second) =
      ofLines start client first ++ ofLines start client second :=
  List.filterMap_append

end Deed

end IrcServer
