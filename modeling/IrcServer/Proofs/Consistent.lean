import IrcServer.Proofs.Leaving
import IrcServer.Proofs.Registry

namespace IrcServer

/-! The channels beside the users.

A channel knows its members by nickname only.  `Consistent` says that every such nickname is the
present one of a live registered client, that no client is in a channel twice, and that no channel
is without members.
-/

/-- A live registered client has this nickname. -/
def Roster.Knows (roster : Roster) (nick : Text) : Prop :=
  ∃ number user, roster number = some user ∧ user.registered = true ∧ user.nick = nick

theorem Roster.Knows.update {roster : Roster} {nick : Text} (knows : roster.Knows nick)
    {number : Nat} {present : User}
    (same : ∀ user, roster number = some user → user.registered = true →
      present.registered = true ∧ present.nick = user.nick) :
    Roster.Knows (Function.update roster number (some present)) nick := by
  obtain ⟨other, user, there, registered, rfl⟩ := knows
  by_cases here : other = number
  · subst here
    obtain ⟨stillRegistered, sameNick⟩ := same user there registered
    exact ⟨other, present, Function.update_self _ _ _, stillRegistered, sameNick⟩
  · exact ⟨other, user, by rw [Function.update_of_ne here, there], registered, rfl⟩

structure Channel.Sound (limit : Nat) (roster : Roster) (channel : Channel) : Prop where
  valid : ChannelName.isValid limit channel.name = true
  opened : channel.closed = false
  inhabited : channel.members ≠ []
  distinct : DistinctMembers channel.members
  known : ∀ member ∈ channel.members, roster.Knows member.nick

theorem Channel.Sound.mono {limit : Nat} {roster later : Roster} {channel : Channel}
    (sound : channel.Sound limit roster) (knows : ∀ nick, roster.Knows nick → later.Knows nick) :
    channel.Sound limit later :=
  { sound with known := fun member present => knows _ (sound.known member present) }

namespace Server

theorem find?_setChannel (server : Server) (name : Text) (channel : Channel) (other : Text) :
    (server.setChannel name channel).channels.find? other =
      if other.fold = name.fold then some channel else server.channels.find? other :=
  Directory.find?_insert _ _ _ _

theorem find?_setChannel_self (server : Server) (name : Text) (channel : Channel) :
    (server.setChannel name channel).channels.find? name = some channel := by
  rw [find?_setChannel, if_pos rfl]

end Server

structure Consistent (profile : Profile) (server : Server) (roster : Roster) : Prop where
  registry : Registry profile server roster
  keyed : server.channels.Keyed Channel.name
  sound : ∀ {name channel}, server.channels.find? name = some channel →
    channel.Sound profile.channelLimit roster

namespace Consistent

variable {profile : Profile} {server : Server} {roster : Roster} {user : User}

theorem client_of_member (consistent : Consistent profile server roster) {name : Text}
    {channel : Channel} (found : server.channels.find? name = some channel) {member : Member}
    (present : member ∈ channel.members) :
    ∃ holder, roster holder.queue = some holder ∧ holder.registered = true ∧
      holder.nick = member.nick := by
  obtain ⟨number, holder, there, registered, named⟩ := (consistent.sound found).known member present
  exact ⟨holder, consistent.registry.numbered there ▸ there, registered, named⟩

/-- A member under a client's key is spelled as the client is. -/
theorem key_eq_iff (consistent : Consistent profile server roster) {number : Nat}
    (here : roster number = some user) (registered : user.registered = true) {name : Text}
    {channel : Channel} (found : server.channels.find? name = some channel) {member : Member}
    (present : member ∈ channel.members) :
    member.key = user.nick.fold ↔ member.nick = user.nick := by
  obtain ⟨holder, there, known, named⟩ := consistent.client_of_member found present
  constructor
  · intro same
    have one := consistent.registry.eq_of_fold_eq there here known registered
      ((congrArg Text.fold named).trans same)
    rw [← named, one]
  · intro same
    rw [Member.key, same]

/-- What a JOIN comes to: the channel of that name, or a new one. -/
theorem joinable (consistent : Consistent profile server roster) {name : Text} {channel : Channel}
    (valid : ChannelName.isValid profile.channelLimit name = true)
    (listed : (server.channels.find? name).getD (.new name) = channel) :
    ChannelName.isValid profile.channelLimit channel.name = true ∧ channel.closed = false ∧
      channel.name.fold = name.fold ∧ DistinctMembers channel.members ∧
      ∀ member ∈ channel.members, roster.Knows member.nick := by
  cases found : server.channels.find? name with
  | none =>
      rw [found, Option.getD_none] at listed
      subst listed
      exact ⟨valid, rfl, rfl, List.nodup_nil, by simp [Channel.new]⟩
  | some old =>
      rw [found, Option.getD_some] at listed
      subst listed
      have sound := consistent.sound found
      exact ⟨sound.valid, sound.opened, consistent.keyed.fold_eq found, sound.distinct,
        sound.known⟩

theorem frame (consistent : Consistent profile server roster) {later : Server} {present : User}
    (here : roster user.queue = some user) (channels : later.channels = server.channels)
    (same : user.registered = true → present.registered = true ∧ present.nick = user.nick)
    (registry : Registry profile later (Function.update roster user.queue (some present))) :
    Consistent profile later (Function.update roster user.queue (some present)) := by
  refine ⟨registry, channels ▸ consistent.keyed, fun found => ?_⟩
  rw [channels] at found
  refine (consistent.sound found).mono fun nick knows => knows.update fun known there => ?_
  cases here.symm.trans there
  exact same

theorem setChannel (consistent : Consistent profile server roster) {name : Text}
    {channel : Channel} (same : channel.name.fold = name.fold)
    (sound : channel.Sound profile.channelLimit roster) :
    Consistent profile (server.setChannel name channel) roster := by
  refine ⟨consistent.registry.frame rfl rfl fun _ contained => contained,
    consistent.keyed.insert same, fun {other found} known => ?_⟩
  rw [Server.find?_setChannel] at known
  split at known
  · cases known
    exact sound
  · exact consistent.sound known

theorem sound_without (consistent : Consistent profile server roster) {name nick : Text}
    {channel left : Channel} (found : server.channels.find? name = some channel)
    (stays : channel.without nick = some left) {later : Roster}
    (knows : ∀ other, roster.Knows other → other.fold ≠ nick.fold → later.Knows other) :
    left.Sound profile.channelLimit later := by
  have sound := consistent.sound found
  rw [Channel.without_eq sound.distinct sound.inhabited] at stays
  split at stays
  · cases stays
  · rename_i inhabited
    cases stays
    refine ⟨sound.valid, sound.opened, inhabited, sound.distinct.filter _, fun member kept => ?_⟩
    obtain ⟨present, differs⟩ := List.mem_filter.mp kept
    exact knows _ (sound.known member present) (of_decide_eq_true differs)

theorem leaveChannel (consistent : Consistent profile server roster) (name nick : Text) :
    Consistent profile (server.leaveChannel name nick) roster := by
  refine ⟨consistent.registry.frame rfl rfl fun _ contained => contained,
    consistent.keyed.leave name nick, fun {other left} known => ?_⟩
  rw [Server.find?_leaveChannel consistent.keyed] at known
  split at known
  · obtain ⟨channel, found, without⟩ := Option.bind_eq_some_iff.mp known
    exact consistent.sound_without found without fun _ knows _ => knows
  · exact consistent.sound known

theorem join (consistent : Consistent profile server roster) (here : roster user.queue = some user)
    (registered : user.registered = true) {name : Text} {channel : Channel}
    (valid : ChannelName.isValid profile.channelLimit name = true)
    (listed : (server.channels.find? name).getD (.new name) = channel)
    (absent : channel.isMember user.nick = false) (operator : Bool) :
    Consistent profile
      (server.setChannel name
        { channel with members := channel.members ++ [⟨user.nick, operator⟩] })
      roster := by
  obtain ⟨validName, opened, same, distinct, known⟩ := consistent.joinable valid listed
  refine consistent.setChannel same ⟨validName, opened, by simp, distinct.append absent, ?_⟩
  intro member present
  rcases List.mem_append.mp present with old | new
  · exact known member old
  · obtain rfl := List.mem_singleton.mp new
    exact ⟨_, user, here, registered, rfl⟩

theorem setOperator (consistent : Consistent profile server roster) {name : Text}
    {channel : Channel} (found : server.channels.find? name = some channel) (nick : Text)
    (operator : Bool) :
    Consistent profile (server.setChannel name (channel.setOperator nick operator).2) roster := by
  have sound := consistent.sound found
  have named : channel.name.fold = name.fold := consistent.keyed.fold_eq found
  have distinct := Channel.distinct_setOperator sound.distinct nick operator
  rw [Channel.setOperator_snd sound.distinct] at distinct ⊢
  refine consistent.setChannel named
    ⟨sound.valid, sound.opened, ?_, distinct, fun member changed => ?_⟩
  · simpa using sound.inhabited
  · obtain ⟨old, present, rfl⟩ := List.mem_map.mp changed
    split <;> exact sound.known old present

theorem setTopic (consistent : Consistent profile server roster) {name : Text}
    {channel : Channel} (found : server.channels.find? name = some channel) (title : Text) :
    Consistent profile (server.setChannel name (channel.setTopic title)) roster := by
  have named : channel.name.fold = name.fold := consistent.keyed.fold_eq found
  exact consistent.setChannel named { consistent.sound found with }

/-- Nobody else in a channel holds the new name of a member that is renamed. -/
theorem free_in_channel (consistent : Consistent profile server roster)
    (here : roster user.queue = some user) {nick : Text}
    (free : server.heldByOther user nick = false) {name : Text} {channel : Channel}
    (found : server.channels.find? name = some channel) {member : Member}
    (present : member ∈ channel.members) (same : member.key = nick.fold) :
    member.key = user.nick.fold := by
  obtain ⟨holder, there, registered, named⟩ := consistent.client_of_member found present
  have folded : holder.nick.fold = nick.fold := by rw [named, ← same, Member.key]
  have listed := consistent.registry.found there registered folded
  have one := consistent.registry.eq_of_not_heldByOther here free listed
  rw [Member.key, ← named, one]

/-- A name that is free is the name of no member. -/
theorem isMember_free (consistent : Consistent profile server roster) {nick : Text}
    (free : server.users.contains nick = false) {name : Text} {channel : Channel}
    (found : server.channels.find? name = some channel) : channel.isMember nick = false := by
  refine eq_false_of_ne_true fun present => ?_
  obtain ⟨member, held, same⟩ := any_isNamed_iff.mp present
  obtain ⟨holder, there, registered, named⟩ := consistent.client_of_member found held
  have folded : holder.nick.fold = nick.fold := by rw [named, ← same, Member.key]
  have known := consistent.registry.found there registered folded
  rw [Directory.contains, known] at free
  cases free

theorem rename (consistent : Consistent profile server roster)
    (here : roster user.queue = some user) (registered : user.registered = true) {nick : Text}
    (valid : Nickname.isValid profile.nickLimit nick = true)
    (free : server.heldByOther user nick = false) :
    Consistent profile (server.rename user nick)
      (Function.update roster user.queue (some (user.setNick nick))) := by
  refine ⟨consistent.registry.rename here registered valid free,
    consistent.keyed.map fun _ => rfl, fun {name renamed} known => ?_⟩
  unfold Server.rename at known
  rw [Directory.find?_map] at known
  obtain ⟨channel, found, rfl⟩ := Option.map_eq_some_iff.mp known
  have sound := consistent.sound found
  rw [Channel.rename_snd sound.distinct]
  refine ⟨sound.valid, sound.opened, by simpa using sound.inhabited,
    sound.distinct.map fun member first other second same => ?_, fun member changed => ?_⟩
  · by_cases one : member.key = user.nick.fold <;> by_cases two : other.key = user.nick.fold
    · exact one.trans two.symm
    · rw [if_pos one, if_neg two] at same
      exact absurd (consistent.free_in_channel here free found second same.symm) two
    · rw [if_neg one, if_pos two] at same
      exact absurd (consistent.free_in_channel here free found first same) one
    · rwa [if_neg one, if_neg two] at same
  · obtain ⟨old, present, rfl⟩ := List.mem_map.mp changed
    split
    · exact ⟨_, _, Function.update_self _ _ _, registered, rfl⟩
    · rename_i differs
      obtain ⟨holder, there, holderRegistered, named⟩ :=
        consistent.client_of_member found present
      have others : holder.queue ≠ user.queue := by
        intro same
        rw [same, here] at there
        cases there
        exact differs (by rw [Member.key, named])
      exact ⟨_, holder, by rw [Function.update_of_ne others, there], holderRegistered, named⟩

theorem act (consistent : Consistent profile server roster) (here : roster user.queue = some user)
    {message : Message} {reaction : Reaction} (act : Act message server user reaction) :
    Consistent profile reaction.server
      (Function.update roster user.queue (some reaction.user)) := by
  have registry := consistent.registry.act here act
  have unchanged : Function.update roster user.queue (some user) = roster := by
    rw [← here, Function.update_eq_self]
  have profileEq := consistent.registry.profileEq
  cases act with
  | still | named | introduced | enrolled =>
      refine consistent.frame here rfl ?_ registry
      simp_all
  | marked | empowered =>
      exact consistent.frame here (Server.refresh_channels _ _) (fun registered =>
        ⟨registered, rfl⟩) registry
  | joined _ _ registered valid listed _ absent =>
      dsimp only [Handler.entered]
      rw [unchanged]
      exact consistent.join here registered (profileEq ▸ valid) listed absent _
  | parted =>
      rw [unchanged]
      exact consistent.leaveChannel _ _
  | changed _ _ found =>
      rw [unchanged]
      exact consistent.setOperator found _ _
  | titled _ _ found =>
      rw [unchanged]
      exact consistent.setTopic found _
  | renamed _ registered valid _ free =>
      exact consistent.rename here registered (profileEq ▸ valid) free

theorem depart (consistent : Consistent profile server roster)
    (here : roster user.queue = some user.settled) (error : Option Text) :
    Consistent profile (server.depart user error).1 (Function.update roster user.queue none) := by
  have stays : ∀ nick, roster.Knows nick →
      (user.registered = true → nick.fold ≠ user.nick.fold) →
      Roster.Knows (Function.update roster user.queue none) nick := by
    rintro nick ⟨number, holder, there, registered, rfl⟩ differs
    have others : number ≠ user.queue := by
      rintro rfl
      cases here.symm.trans there
      exact differs registered rfl
    exact ⟨number, holder, by rw [Function.update_of_ne others, there], registered, rfl⟩
  refine ⟨consistent.registry.depart here error, ?_, fun {name left} known => ?_⟩
  · rw [Server.channels_depart consistent.keyed]
    split
    · exact consistent.keyed.filterMap fun _ _ => Channel.name_of_without
    · exact consistent.keyed
  · rw [Server.channels_depart consistent.keyed] at known
    by_cases registered : user.registered = true
    · rw [if_pos registered, Directory.find?_filterMap] at known
      obtain ⟨channel, found, without⟩ := Option.bind_eq_some_iff.mp known
      exact consistent.sound_without found without fun nick knows differs =>
        stays nick knows fun _ => differs
    · rw [if_neg registered] at known
      exact (consistent.sound known).mono fun nick knows =>
        stays nick knows fun known => absurd known registered

theorem connect (consistent : Consistent profile server roster) (host : Text) {number : Nat}
    (unused : roster number = none) :
    Consistent profile (server.connect host).2
      (Function.update roster number (some (.new (server.connect host).1 host number))) := by
  refine ⟨consistent.registry.connect host unused, consistent.keyed, fun found => ?_⟩
  refine (consistent.sound found).mono fun nick knows => knows.update fun holder there => ?_
  rw [unused] at there
  cases there

theorem kept (profile : Profile) (allowed : Event → Prop) :
    Kept profile allowed (Consistent profile) where
  new := ⟨(Registry.kept profile allowed).new, Directory.Keyed.empty, fun found => by cases found⟩
  connect _ consistent unused := consistent.connect _ unused
  act _ consistent here act := consistent.act here act
  depart error consistent here := consistent.depart here error

end Consistent

end IrcServer
