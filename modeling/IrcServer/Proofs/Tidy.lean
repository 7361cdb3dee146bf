import IrcServer.Proofs.Consistent
import IrcServer.Proofs.News

namespace IrcServer

/-! Names that come back from the wire as they were given.

Clients choose most of what the server writes.  If their hosts hold no space, their messages were
read from lines, and no channel is joined under a name with white space at its end, then every name
that the server writes is one word. -/

def Event.Tidy (profile : Profile) : Event → Prop
  | .connected host => ' ' ∉ host
  | .said _ message =>
      (∃ line, Message.parse? line = some message) ∧
        (message.verb = .command .join →
          ∀ name ∈ (message.param 0).pieces,
            ChannelName.isValid profile.channelLimit name = true →
              name.getLast?.any isBlank = false)
  | .left _ _ => True
  | .lostQueue _ => True

/-- A parameter that is not the last one ends at a space. -/
theorem space_not_mem_head_parseParams {slots : Nat} {text first second : Text}
    {rest : List Text}
    (read : (Message.parseParams (slots + 1) text).1 = first :: second :: rest) : ' ' ∉ first := by
  cases text with
  | nil => cases read
  | cons c letters =>
      by_cases colon : c = ':'
      · subst colon
        cases read
      · rw [Message.parseParams_succ (List.cons_ne_nil _ _)
          fun same => colon (Option.some.inj same)] at read
        rw [← (List.cons.inj read).1, Text.splitWord]
        intro member
        have letter := List.all_eq_true.mp List.all_takeWhile _ member
        exact absurd letter (by decide)

theorem space_not_mem_username {line : Text} {message : Message}
    (parsed : Message.parse? line = some message) (asked : message.verb = .command .user)
    (enough : message.hasEnoughParams = true) : ' ' ∉ message.param 0 := by
  have several : 4 ≤ message.params.length := by
    rw [Message.hasEnoughParams, asked] at enough
    exact of_decide_eq_true enough
  have read := (Heard.ofLine_of_parse? parsed).2.2
  unfold Message.param
  rcases params : message.params with _ | ⟨first, _ | ⟨second, rest⟩⟩
  · simp [params] at several
  · simp [params] at several
  · rw [params] at read
    exact space_not_mem_head_parseParams read.symm

/-- A username comes with a USER only. -/
theorem Act.username {message : Message} {server : Server} {user : User} {reaction : Reaction}
    (act : Act message server user reaction) :
    reaction.user.username? = user.username? ∨
      message.verb = .command .user ∧ message.hasEnoughParams = true ∧
        reaction.user.username? = some (message.param 0) := by
  cases act with
  | introduced asked enough => exact .inr ⟨asked, enough, rfl⟩
  | enrolled _ giving =>
      rcases giving with ⟨_, rfl, _⟩ | ⟨asked, enough, _, rfl⟩
      · exact .inl rfl
      · exact .inr ⟨asked, enough, rfl⟩
  | _ => exact .inl rfl

structure Tidy (profile : Profile) (server : Server) (roster : Roster) : Prop where
  profileEq : server.profile = profile
  users : ∀ {number user}, roster number = some user →
    ' ' ∉ user.host ∧ ∀ username, user.username? = some username → ' ' ∉ username
  channels : ∀ {name channel}, server.channels.find? name = some channel →
    channel.name.getLast?.any isBlank = false

namespace Tidy

variable {profile : Profile} {server : Server} {roster : Roster} {user : User}

theorem update (tidy : Tidy profile server roster) {later : Server} {number : Nat}
    {present : User} (profileSame : later.profile = server.profile)
    (host : ' ' ∉ present.host)
    (username : ∀ username, present.username? = some username → ' ' ∉ username)
    (channels : ∀ name channel, later.channels.find? name = some channel →
      channel.name.getLast?.any isBlank = false ∨
        ∃ label old, server.channels.find? label = some old ∧ channel.name = old.name) :
    Tidy profile later (Function.update roster number (some present)) := by
  refine ⟨profileSame.trans tidy.profileEq, fun {other known} found => ?_,
    fun {name channel} found => ?_⟩
  · rcases Roster.of_update found with ⟨_, rfl⟩ | ⟨_, old⟩
    · exact ⟨host, username⟩
    · exact tidy.users old
  · rcases channels name channel found with new | ⟨label, old, listed, same⟩
    · exact new
    · rw [same]
      exact tidy.channels listed

theorem of_setChannel {name label : Text} {channel found : Channel}
    (known : (server.setChannel name channel).channels.find? label = some found) :
    found = channel ∨ server.channels.find? label = some found := by
  rw [Server.find?_setChannel] at known
  split at known
  · exact .inl (Option.some.inj known).symm
  · exact .inr known

theorem username_of_act {message : Message} {reaction : Reaction} {line : Text}
    (parsed : Message.parse? line = some message)
    (known : ∀ username, user.username? = some username → ' ' ∉ username)
    (act : Act message server user reaction) :
    ∀ username, reaction.user.username? = some username → ' ' ∉ username := by
  intro username given
  rcases act.username with same | ⟨asked, enough, fresh⟩
  · exact known username (same ▸ given)
  · cases fresh.symm.trans given
    exact space_not_mem_username parsed asked enough

theorem act (tidy : Tidy profile server roster) (here : roster user.queue = some user)
    {message : Message} {reaction : Reaction}
    (said : Event.Tidy profile (.said user.queue message))
    (act : Act message server user reaction) :
    Tidy profile reaction.server
      (Function.update roster user.queue (some reaction.user)) := by
  obtain ⟨host, username⟩ := tidy.users here
  obtain ⟨⟨line, parsed⟩, joinable⟩ := said
  have sameHost : ' ' ∉ reaction.user.host := by
    rw [act.samePerson.2.2.1]
    exact host
  refine tidy.update act.profile sameHost (username_of_act parsed username act)
    fun label channel found => ?_
  cases act with
  | still | named | introduced | enrolled => exact .inr ⟨_, _, found, rfl⟩
  | marked | empowered =>
      rw [Server.refresh_channels] at found
      exact .inr ⟨_, _, found, rfl⟩
  | @joined name old asked named registered valid listed =>
      rcases of_setChannel found with rfl | same
      · cases known : server.channels.find? name with
        | none =>
            rw [known, Option.getD_none] at listed
            subst listed
            exact .inl (joinable asked name named (tidy.profileEq ▸ valid))
        | some before =>
            rw [known, Option.getD_some] at listed
            subst listed
            exact .inr ⟨name, before, known, rfl⟩
      · exact .inr ⟨_, _, same, rfl⟩
  | parted =>
      obtain ⟨before, known, members, rfl, _⟩ := Server.of_find?_leaveChannel found
      exact .inr ⟨_, before, known, rfl⟩
  | changed _ _ known | titled _ _ known =>
      rcases of_setChannel found with rfl | same
      · exact .inr ⟨_, _, known, rfl⟩
      · exact .inr ⟨_, _, same, rfl⟩
  | renamed =>
      unfold Server.rename at found
      rw [Directory.find?_map] at found
      obtain ⟨before, known, rfl⟩ := Option.map_eq_some_iff.mp found
      exact .inr ⟨_, before, known, rfl⟩

theorem depart (tidy : Tidy profile server roster) (error : Option Text) (number : Nat) :
    Tidy profile (server.depart user error).1 (Function.update roster number none) := by
  refine ⟨(Server.profile_depart _ _ _).trans tidy.profileEq, fun {other known} found => ?_,
    fun {name channel} found => ?_⟩
  · exact tidy.users (Roster.of_update_none found).2
  · obtain ⟨before, known, members, rfl, _⟩ := Server.of_find?_depart found
    have named := tidy.channels known
    exact named

theorem kept (profile : Profile) : Kept profile (Event.Tidy profile) (Tidy profile) where
  new := ⟨rfl, (fun found => by cases found), (fun found => by cases found)⟩
  connect host tidy _ :=
    tidy.update rfl host (fun _ given => by cases given) fun _ _ found => .inr ⟨_, _, found, rfl⟩
  act said tidy here act := tidy.act here said act
  depart error tidy _ := tidy.depart error _

end Tidy

namespace Consistent

variable {profile : Profile} {server : Server} {roster : Roster} {user : User}

theorem nick_isWord (consistent : Consistent profile server roster) {number : Nat}
    (here : roster number = some user) (registered : user.registered = true) :
    user.nick.IsWord :=
  Nickname.isWord_of_isValid (consistent.registry.valid_nick here registered)

theorem legible (consistent : Consistent profile server roster) (tidy : Tidy profile server roster)
    {number : Nat} (here : roster number = some user) (registered : user.registered = true) :
    user.Legible := by
  obtain ⟨nick, username, nickGiven, usernameGiven⟩ := consistent.registry.complete here registered
  obtain ⟨host, usernames⟩ := tidy.users here
  have valid := consistent.registry.valid_nick here registered
  have word := (consistent.nick_isWord here registered).single
  refine ⟨?_, Nickname.not_mem_of_isValid valid (c := '!') (by decide)⟩
  have named : ' ' ∉ user.username := by
    rw [User.username, usernameGiven, Option.getD_some]
    exact usernames username usernameGiven
  simp [User.fullName, word, named, host]

theorem name_isWord (consistent : Consistent profile server roster)
    (tidy : Tidy profile server roster)
    {name : Text} {channel : Channel} (found : server.channels.find? name = some channel) :
    channel.name.IsWord :=
  ChannelName.isWord_of_isValid (consistent.sound found).valid (tidy.channels found)

theorem member_valid (consistent : Consistent profile server roster) {name : Text}
    {channel : Channel} (found : server.channels.find? name = some channel) {member : Member}
    (present : member ∈ channel.members) :
    Nickname.isValid profile.nickLimit member.nick = true := by
  obtain ⟨holder, there, registered, named⟩ := consistent.client_of_member found present
  rw [← named]
  exact consistent.registry.valid_nick there registered

/-- Whom a change of modes names is a member, in some spelling. -/
theorem target_isWord (consistent : Consistent profile server roster) {name : Text}
    {channel : Channel} (found : server.channels.find? name = some channel) {nick : Text}
    (present : channel.isMember nick = true) : nick.IsWord := by
  obtain ⟨member, held, same⟩ := any_isNamed_iff.mp present
  exact Nickname.isWord_of_fold_eq (consistent.member_valid found held) same.symm

end Consistent

end IrcServer
