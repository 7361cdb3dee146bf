import IrcServer.Proofs.Keyed
import IrcServer.Proofs.Members
import IrcServer.Proofs.News

namespace IrcServer

/-! What a client can know of its channels from the lines that it is sent, and nothing else.

A `View` is rebuilt line by line.  The names of a channel that the client has just joined are taken
from the lists that follow, up to the end of that list; after that the channel is kept by the
changes that are told. -/

structure Room where
  name : Text
  members : List Member
deriving DecidableEq, Repr

namespace Room

def add (members : List Member) (room : Room) : Room :=
  { room with members := room.members ++ members }

def drop (nick : Text) (room : Room) : Room :=
  { room with members := room.members.filter fun member => member.key ≠ nick.fold }

def rename (old nick : Text) (room : Room) : Room :=
  { room with
    members := room.members.map fun member =>
      if member.key = old.fold then { member with nick } else member }

def setOperator (nick : Text) (operator : Bool) (room : Room) : Room :=
  { room with
    members := room.members.map fun member =>
      if member.key = nick.fold then { member with operator } else member }

theorem drop_of_absent {nick : Text} {room : Room}
    (absent : nick.fold ∉ room.members.map Member.key) : room.drop nick = room := by
  rw [drop, filter_of_absent absent]

theorem rename_of_absent {old : Text} {room : Room}
    (absent : old.fold ∉ room.members.map Member.key) (nick : Text) :
    room.rename old nick = room := by
  rw [rename, map_of_absent absent]

end Room

structure View where
  /-- The client's own nickname, once it is registered. -/
  nick : Option Text
  rooms : Directory Room
  /-- The channel whose names are being listed. -/
  entering : Option Text

namespace View

def new : View :=
  { nick := none, rooms := .empty, entering := none }

def isSelf (view : View) (nick : Text) : Bool :=
  view.nick.any fun own => own.fold = nick.fold

def hear (view : View) : News → View
  | .welcomed nick => { view with nick := some nick }
  | .joined nick channel =>
      if view.isSelf nick then
        { view with rooms := view.rooms.insert channel ⟨channel, []⟩, entering := some channel }
      else { view with rooms := view.rooms.modify channel (Room.add [⟨nick, false⟩]) }
  | .listed channel members =>
      if view.entering = some channel then
        { view with rooms := view.rooms.modify channel (Room.add members) }
      else view
  | .listEnded channel =>
      if view.entering = some channel then { view with entering := none } else view
  | .parted nick channel =>
      if view.isSelf nick then { view with rooms := view.rooms.erase channel }
      else { view with rooms := view.rooms.modify channel (Room.drop nick) }
  | .quit nick => { view with rooms := view.rooms.map (Room.drop nick) }
  | .renamed old nick =>
      { view with
        nick := if view.isSelf old then some nick else view.nick
        rooms := view.rooms.map (Room.rename old nick) }
  | .changed channel nick operator =>
      { view with rooms := view.rooms.modify channel (Room.setOperator nick operator) }
  | .other => view

/-- The view after some texts, each of them one line with its ending. -/
def replay (view : View) (texts : List Text) : View :=
  texts.foldl (fun view text => view.hear (Heard.ofLine text).news) view

/-- The view after some lines as they are sent. -/
def after (view : View) (lines : List Line) : View :=
  view.replay (lines.map Line.wire)

variable {view : View}

@[simp] theorem after_nil (view : View) : view.after [] = view := rfl

@[simp] theorem after_cons (view : View) (line : Line) (lines : List Line) :
    view.after (line :: lines) = (view.hear line.heard.news).after lines := rfl

theorem after_append (view : View) (first second : List Line) :
    view.after (first ++ second) = (view.after first).after second := by
  unfold after replay
  rw [List.map_append, List.foldl_append]

theorem hear_idle (settled : view.entering = none) {news : News} (idle : news.Idle) :
    view.hear news = view := by
  rcases idle with rfl | ⟨channel, members, rfl⟩ | ⟨channel, rfl⟩
  · rfl
  · rw [hear, if_neg (by simp [settled])]
  · rw [hear, if_neg (by simp [settled])]

theorem after_idle (settled : view.entering = none) {lines : List Line}
    (idle : ∀ line ∈ lines, line.heard.news.Idle) : view.after lines = view := by
  induction lines with
  | nil => rfl
  | cons line rest inductionHypothesis =>
      obtain ⟨first, others⟩ := List.forall_mem_cons.mp idle
      rw [after_cons, hear_idle settled first, inductionHypothesis others]

theorem after_other {lines : List Line} (other : ∀ line ∈ lines, line.heard.news = .other) :
    view.after lines = view := by
  induction lines with
  | nil => rfl
  | cons line rest inductionHypothesis =>
      obtain ⟨first, others⟩ := List.forall_mem_cons.mp other
      rw [after_cons, first, hear, inductionHypothesis others]

theorem isSelf_iff {own nick : Text} (known : view.nick = some own) :
    view.isSelf nick = true ↔ own.fold = nick.fold := by
  simp [isSelf, known]

theorem keyed_hear (keyed : view.rooms.Keyed Room.name) (news : News) :
    (view.hear news).rooms.Keyed Room.name := by
  cases news with
  | welcomed | other => exact keyed
  | quit => exact keyed.map fun _ => rfl
  | renamed => exact keyed.map fun _ => rfl
  | changed => exact keyed.modify fun _ _ => rfl
  | joined nick channel =>
      rw [hear]
      split
      · exact keyed.insert rfl
      · exact keyed.modify fun _ _ => rfl
  | listed channel members =>
      rw [hear]
      split
      · exact keyed.modify fun _ _ => rfl
      · exact keyed
  | listEnded channel =>
      rw [hear]
      split
      · exact keyed
      · exact keyed
  | parted nick channel =>
      rw [hear]
      split
      · exact keyed.erase _
      · exact keyed.modify fun _ _ => rfl

theorem keyed_after (keyed : view.rooms.Keyed Room.name) (lines : List Line) :
    (view.after lines).rooms.Keyed Room.name := by
  induction lines generalizing view with
  | nil => exact keyed
  | cons line rest inductionHypothesis => exact inductionHypothesis (keyed_hear keyed _)

end View

end IrcServer
