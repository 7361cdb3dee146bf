import IrcServer.Proofs.Consistent
import IrcServer.Proofs.View

namespace IrcServer

/-! The rooms that a client should know of, and what each change of the server makes of them. -/

namespace Channel

def room (channel : Channel) : Room :=
  ⟨channel.name, channel.members⟩

/-- The room that a client has of a channel: none unless it is in it. -/
def roomFor (channel : Channel) (user : User) : Option Room :=
  if user.registered = true ∧ channel.isMember user.nick = true then some channel.room else none

variable {channel : Channel} {user : User}

/-- What a client has of a channel after a change, if the change leaves its own membership be. -/
theorem roomFor_change {changed : Channel} {change : Room → Room} {later : User}
    (registered : later.registered = user.registered)
    (member : user.registered = true →
      (changed.isMember later.nick = true ↔ channel.isMember user.nick = true))
    (room : changed.room = change channel.room) :
    changed.roomFor later = (channel.roomFor user).map change := by
  unfold roomFor
  rw [registered]
  by_cases known : user.registered = true
  · by_cases present : channel.isMember user.nick = true
    · rw [if_pos ⟨known, (member known).mpr present⟩, if_pos ⟨known, present⟩, Option.map_some,
        room]
    · rw [if_neg (fun both => present ((member known).mp both.2)),
        if_neg (fun both => present both.2), Option.map_none]
  · rw [if_neg (fun both => known both.1), if_neg (fun both => known both.1), Option.map_none]

end Channel

namespace Server

def room? (server : Server) (user : User) (name : Text) : Option Room :=
  (server.channels.find? name).bind fun channel => channel.roomFor user

theorem room?_of_channels {later server : Server} (channels : later.channels = server.channels)
    (user : User) (name : Text) : later.room? user name = server.room? user name := by
  unfold room?
  rw [channels]

theorem room?_congr (server : Server) (user : User) {name label : Text}
    (same : label.fold = name.fold) : server.room? user label = server.room? user name := by
  rw [room?, Directory.find?_congr same, room?]

theorem room?_setChannel (server : Server) (name : Text) (channel : Channel) (user : User)
    (label : Text) :
    (server.setChannel name channel).room? user label =
      if label.fold = name.fold then channel.roomFor user else server.room? user label := by
  unfold room?
  rw [find?_setChannel]
  split
  · rfl
  · rfl

theorem room?_eq_some_iff {server : Server} {user : User} {name : Text} {room : Room} :
    server.room? user name = some room ↔
      ∃ channel, server.channels.find? name = some channel ∧ user.registered = true ∧
        channel.isMember user.nick = true ∧ channel.room = room := by
  unfold room?
  rw [Option.bind_eq_some_iff]
  refine exists_congr fun channel => and_congr_right fun _ => ?_
  unfold Channel.roomFor
  split
  · rename_i both
    simp [both]
  · rename_i neither
    simp only [reduceCtorEq, false_iff]
    exact fun all => neither ⟨all.1, all.2.1⟩

/-- Nobody of a client's rooms is a client that shares no channel with it. -/
theorem not_mem_of_apart {server : Server} {own : User} {nick : Text}
    (apart : ∀ name channel, server.channels.find? name = some channel →
      own.registered = true → channel.isMember own.nick = true → channel.isMember nick = false)
    {label : Text} {room : Room} (found : server.room? own label = some room) :
    nick.fold ∉ room.members.map Member.key := by
  obtain ⟨channel, listed, known, present, rfl⟩ := room?_eq_some_iff.mp found
  exact any_isNamed_eq_false_iff.mp (apart label channel listed known present)

theorem room?_replace {server : Server} {name : Text} {channel changed : Channel}
    (found : server.channels.find? name = some channel) {user : User} {change : Room → Room}
    (room : changed.roomFor user = (channel.roomFor user).map change) (label : Text) :
    (server.setChannel name changed).room? user label =
      if label.fold = name.fold then (server.room? user label).map change
      else server.room? user label := by
  rw [room?_setChannel]
  by_cases same : label.fold = name.fold
  · rw [if_pos same, if_pos same, room, room?_congr server user same, room?, found,
      Option.bind_some]
  · rw [if_neg same, if_neg same]

theorem room?_titled {server : Server} {name : Text} {channel : Channel}
    (found : server.channels.find? name = some channel) (title : Text) (own : User)
    (label : Text) :
    (server.setChannel name (channel.setTopic title)).room? own label = server.room? own label := by
  have same : (channel.setTopic title).roomFor own = (channel.roomFor own).map id := by
    rw [Option.map_id]
    rfl
  rw [room?_replace found same]
  split
  · rw [Option.map_id]
    rfl
  · rfl

theorem room?_joined {server : Server} {own : User} {name : Text} {channel : Channel}
    (listed : (server.channels.find? name).getD (.new name) = channel)
    {nick : Text} (differs : own.registered = true → own.nick.fold ≠ nick.fold) (label : Text) :
    (server.setChannel name
        { channel with
          members := channel.members ++ [⟨nick, (server.channels.find? name).isNone⟩] }).room?
        own label =
      if label.fold = name.fold then (server.room? own label).map (Room.add [⟨nick, false⟩])
      else server.room? own label := by
  cases found : server.channels.find? name with
  | none =>
      rw [found, Option.getD_none] at listed
      subst listed
      rw [room?_setChannel]
      by_cases same : label.fold = name.fold
      · have nothing : server.room? own label = none := by
          rw [room?_congr server own same, room?, found, Option.bind_none]
        rw [if_pos same, if_pos same, nothing, Option.map_none, Channel.roomFor, if_neg]
        rintro ⟨known, present⟩
        rcases (Channel.isMember_append _ _ _).mp present with before | named
        · cases before
        · exact differs known named.symm
      · rw [if_neg same, if_neg same]
  | some old =>
      rw [found, Option.getD_some] at listed
      subst listed
      refine room?_replace found (Channel.roomFor_change rfl (fun known => ?_) rfl) label
      rw [Channel.isMember_append]
      exact ⟨fun either => either.resolve_right fun same => differs known same.symm, .inl⟩

end Server

namespace Channel

variable {channel : Channel} {user : User} {nick : Text}

/-- Somebody else leaves.  A channel that is given up for it has no members left. -/
theorem roomFor_without (distinct : DistinctMembers channel.members)
    (inhabited : channel.members ≠ [])
    (differs : user.registered = true → user.nick.fold ≠ nick.fold) :
    ((channel.without nick).bind fun left => left.roomFor user) =
      (channel.roomFor user).map (Room.drop nick) := by
  have dropped : (channel.dropped nick).roomFor user =
      (channel.roomFor user).map (Room.drop nick) := by
    refine roomFor_change rfl (fun known => ?_) rfl
    rw [isMember_dropped]
    exact ⟨And.left, fun present => ⟨present, differs known⟩⟩
  rw [without_eq distinct inhabited]
  split
  · rename_i emptied
    rw [← dropped, roomFor, if_neg, Option.bind_none]
    rintro ⟨_, present⟩
    rw [isMember, emptied] at present
    cases present
  · exact dropped

theorem roomFor_without_self (distinct : DistinctMembers channel.members)
    (inhabited : channel.members ≠ []) :
    ((channel.without user.nick).bind fun left => left.roomFor user) = none := by
  rw [without_eq distinct inhabited]
  split
  · rfl
  · rw [Option.bind_some, roomFor, if_neg]
    rintro ⟨_, present⟩
    exact ((isMember_dropped _ _ _).mp present).2 rfl

end Channel

namespace Consistent

variable {profile : Profile} {server : Server} {roster : Roster} {user own : User}

theorem fold_ne (consistent : Consistent profile server roster) {number : Nat}
    (there : roster number = some own) (here : roster user.queue = some user)
    (others : number ≠ user.queue) (registered : user.registered = true)
    (known : own.registered = true) : own.nick.fold ≠ user.nick.fold := by
  intro same
  have one := consistent.registry.eq_of_fold_eq there here known registered same
  exact others (by rw [← consistent.registry.numbered there, one])

theorem room?_left (consistent : Consistent profile server roster) {name nick : Text}
    (differs : own.registered = true → own.nick.fold ≠ nick.fold) (label : Text) :
    (server.leaveChannel name nick).room? own label =
      if label.fold = name.fold then (server.room? own label).map (Room.drop nick)
      else server.room? own label := by
  rw [Server.room?, Server.find?_leaveChannel consistent.keyed]
  split
  · rw [Server.room?]
    cases found : server.channels.find? label with
    | none => rfl
    | some channel =>
        have sound := consistent.sound found
        exact Channel.roomFor_without sound.distinct sound.inhabited differs
  · rfl

theorem room?_left_self (consistent : Consistent profile server roster) (name label : Text) :
    (server.leaveChannel name user.nick).room? user label =
      if label.fold = name.fold then none else server.room? user label := by
  rw [Server.room?, Server.find?_leaveChannel consistent.keyed]
  split
  · cases found : server.channels.find? label with
    | none => rfl
    | some channel =>
        have sound := consistent.sound found
        exact Channel.roomFor_without_self sound.distinct sound.inhabited
  · rfl

/-- A client is renamed, in its own eyes or in those of another client. -/
theorem room?_renamed (consistent : Consistent profile server roster) {nick : Text}
    {later : User} (registered : later.registered = own.registered)
    (member : ∀ name channel, server.channels.find? name = some channel → own.registered = true →
      ((channel.rename user.nick nick).2.isMember later.nick = true ↔
        channel.isMember own.nick = true)) (label : Text) :
    (server.rename user nick).room? later label =
      (server.room? own label).map (Room.rename user.nick nick) := by
  unfold Server.room? Server.rename
  rw [Directory.find?_map]
  cases found : server.channels.find? label with
  | none => rfl
  | some channel =>
      have sound := consistent.sound found
      refine Channel.roomFor_change registered (member label channel found) ?_
      change (channel.rename user.nick nick).2.room = _
      rw [Channel.rename_snd sound.distinct]
      rfl

theorem isMember_renamed_other (consistent : Consistent profile server roster)
    {number : Nat} (there : roster number = some own) (here : roster user.queue = some user)
    (others : number ≠ user.queue) (registered : user.registered = true) {nick : Text}
    (free : server.heldByOther user nick = false) {name : Text} {channel : Channel}
    (found : server.channels.find? name = some channel) (known : own.registered = true) :
    (channel.rename user.nick nick).2.isMember own.nick = true ↔
      channel.isMember own.nick = true := by
  have old := consistent.fold_ne there here others registered known
  have new : nick.fold ≠ own.nick.fold := by
    intro same
    have listed := consistent.registry.found there known same.symm
    have one := consistent.registry.eq_of_not_heldByOther here free listed
    exact old (by rw [one])
  rw [Channel.isMember_rename (consistent.sound found).distinct]
  exact ⟨fun either => (either.resolve_left fun both => new both.2).1, fun present =>
    .inr ⟨present, old⟩⟩

theorem isMember_renamed_self (consistent : Consistent profile server roster)
    (here : roster user.queue = some user) {nick : Text}
    (free : server.heldByOther user nick = false) {name : Text} {channel : Channel}
    (found : server.channels.find? name = some channel) :
    (channel.rename user.nick nick).2.isMember nick = true ↔
      channel.isMember user.nick = true := by
  rw [Channel.isMember_rename (consistent.sound found).distinct]
  constructor
  · rintro (⟨present, _⟩ | ⟨present, differs⟩)
    · exact present
    · obtain ⟨member, held, same⟩ := any_isNamed_iff.mp present
      have own := consistent.free_in_channel here free found held same
      exact absurd (same.symm.trans own) differs
  · exact fun present => .inl ⟨present, rfl⟩

theorem room?_changed (consistent : Consistent profile server roster) {name : Text}
    {channel : Channel} (found : server.channels.find? name = some channel)
    (change : Mode.Change) (own : User) (label : Text) :
    (server.setChannel name (channel.setOperator change.nick change.enabled).2).room? own label =
      if label.fold = name.fold then
        (server.room? own label).map (Room.setOperator change.nick change.enabled)
      else server.room? own label := by
  have distinct := (consistent.sound found).distinct
  refine Server.room?_replace found (Channel.roomFor_change rfl (fun _ => ?_) ?_) label
  · exact Channel.isMember_setOperator distinct _ _ _
  · rw [Channel.setOperator_snd distinct]
    rfl

theorem room?_departed (consistent : Consistent profile server roster)
    (registered : user.registered = true)
    (differs : own.registered = true → own.nick.fold ≠ user.nick.fold) (error : Option Text)
    (label : Text) :
    (server.depart user error).1.room? own label =
      (server.room? own label).map (Room.drop user.nick) := by
  unfold Server.room?
  rw [Server.channels_depart consistent.keyed, if_pos registered, Directory.find?_filterMap]
  cases found : server.channels.find? label with
  | none => rfl
  | some channel =>
      have sound := consistent.sound found
      exact Channel.roomFor_without sound.distinct sound.inhabited differs

end Consistent

end IrcServer
