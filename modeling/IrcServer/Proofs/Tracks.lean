import IrcServer.Proofs.Relay
import IrcServer.Proofs.Rooms
import IrcServer.Proofs.Tidy

namespace IrcServer

/-! A view that follows the server.

`Tracks` ties what a client has read to what the server holds.  Every act keeps it, for the client
that acts by its replies (`Tracks.perform`) and for every other client by the lines that are
relayed to it (`Tracks.observe`).
-/

theorem idle_of_talk {user : User} {relayed : List Delivery}
    (legible : user.registered = true → user.Legible)
    (talk : ∀ delivery ∈ relayed, user.registered = true ∧ ∃ command params text,
      (command = .privmsg ∨ command = .notice) ∧ delivery.line = user.line command params text)
    {number : Nat} (uncut : ∀ line ∈ linesTo number relayed, line.Uncut) :
    ∀ line ∈ linesTo number relayed, line.heard.news.Idle := by
  intro line member
  obtain ⟨delivery, sent, _, same⟩ := mem_linesTo.mp member
  obtain ⟨registered, command, params, text, spoken, shape⟩ := talk delivery sent
  have heard := uncut line member
  rw [← same, shape] at heard ⊢
  refine .inl ((legible registered).news_other ?_ heard)
  exact spoken.imp_right .inl

structure Tracks (server : Server) (user : User) (view : View) : Prop where
  settled : view.entering = none
  nick : user.registered = true → view.nick = some user.nick
  rooms : ∀ name, view.rooms.find? name = server.room? user name

namespace Tracks

variable {server later : Server} {user : User} {view : View}

theorem stay (tracks : Tracks server user view) {present : User}
    (registered : present.registered = true → user.registered = true ∧ present.nick = user.nick)
    (rooms : ∀ name, later.room? present name = server.room? user name) :
    Tracks later present view := by
  refine ⟨tracks.settled, fun known => ?_, fun name => ?_⟩
  · obtain ⟨before, same⟩ := registered known
    rw [same]
    exact tracks.nick before
  · rw [rooms]
    exact tracks.rooms name

theorem modify (tracks : Tracks server user view) {name channel : Text} {change : Room → Room}
    (same : channel.fold = name.fold)
    (rooms : ∀ label, later.room? user label =
      if label.fold = name.fold then (server.room? user label).map change
      else server.room? user label) :
    Tracks later user { view with rooms := view.rooms.modify channel change } := by
  refine ⟨tracks.settled, tracks.nick, fun label => ?_⟩
  rw [rooms, Directory.find?_modify, same, tracks.rooms]

theorem map (tracks : Tracks server user view) {change : Room → Room}
    (rooms : ∀ label, later.room? user label = (server.room? user label).map change) :
    Tracks later user { view with rooms := view.rooms.map change } := by
  refine ⟨tracks.settled, tracks.nick, fun label => ?_⟩
  rw [rooms, Directory.find?_map, tracks.rooms]

/-- A client that is told of a change of a channel if it is in it. -/
theorem told (tracks : Tracks server user view) {name channel : Text} (change : Room → Room)
    {line : Line} {heard : Prop} [Decidable heard] (same : channel.fold = name.fold)
    (rooms : ∀ label, later.room? user label =
      if label.fold = name.fold then (server.room? user label).map change
      else server.room? user label)
    (present : ∀ room, server.room? user name = some room → heard)
    (news : heard → view.hear line.heard.news =
      { view with rooms := view.rooms.modify channel change }) :
    Tracks later user (view.after (if heard then [line] else [])) := by
  by_cases hears : heard
  · rw [if_pos hears, View.after_cons, View.after_nil, news hears]
    exact tracks.modify same rooms
  · rw [if_neg hears, View.after_nil]
    refine tracks.stay (fun known => ⟨known, rfl⟩) fun label => ?_
    rw [rooms]
    split
    · rename_i here
      have absent : server.room? user label = none := by
        rw [server.room?_congr user here]
        exact Option.eq_none_iff_forall_ne_some.mpr fun room found => hears (present room found)
      rw [absent, Option.map_none]
    · rfl

/-- A client that is told of a change in all channels if it is in one that changes. -/
theorem toldAll (tracks : Tracks server user view) (change : Room → Room) {line : Line}
    {heard : Prop} [Decidable heard]
    (rooms : ∀ label, later.room? user label = (server.room? user label).map change)
    (unchanged : ∀ label room, server.room? user label = some room → ¬ heard →
      change room = room)
    (news : heard → view.hear line.heard.news =
      { view with rooms := view.rooms.map change }) :
    Tracks later user (view.after (if heard then [line] else [])) := by
  by_cases hears : heard
  · rw [if_pos hears, View.after_cons, View.after_nil, news hears]
    exact tracks.map rooms
  · rw [if_neg hears, View.after_nil]
    refine tracks.stay (fun known => ⟨known, rfl⟩) fun label => ?_
    rw [rooms]
    cases found : server.room? user label with
    | none => rfl
    | some room => rw [Option.map_some, unchanged label room found hears]

end Tracks

end IrcServer
