import IrcServer.Proofs.Consistent
import IrcServer.Proofs.UserDirectory

namespace IrcServer

/-! The channel directory after every run: what it lists agrees with the user directory. -/

/-- A JOIN waits for nothing but a channel that is about to be given up. -/
theorem Handler.joinOne_ne_waiting {name : Text} {server : Server} {user : User}
    (opened : ((server.channels.find? name).getD (.new name)).closed = false) :
    (joinOne name server user).verdict ≠ .waiting := by
  unfold joinOne
  split
  · exact Verdict.noConfusion
  · dsimp only
    split
    · exact Verdict.noConfusion
    · exact Verdict.noConfusion
    · rename_i shut
      exact absurd (congrArg Prod.fst shut) (Channel.join_ne_closed opened _ _)

namespace Network

theorem consistent_after (profile : Profile) (events : List Event) :
    Consistent profile ((new profile).after events).server
      ((new profile).after events).roster :=
  (Consistent.kept profile fun _ => True).after events fun _ _ => trivial

theorem consistent_step {profile : Profile} {network : Network} (orderly : network.Orderly)
    (consistent : Consistent profile network.server network.roster) (event : Event) :
    Consistent profile (network.step event).network.server (network.step event).network.roster :=
  (Consistent.kept profile fun _ => True).step orderly consistent trivial

/-- The server is consistent in the middle of a JOIN as well. -/
theorem consistent_joining (profile : Profile) (events : List Event) {number : Nat}
    {client : Client} {message : Message}
    (found : ((new profile).after events).client? number = some client)
    (live : client.live = true) (registered : client.user.registered = true)
    (asked : message.verb = .command .join) {entered : List Text}
    (named : ∀ name ∈ entered, name ∈ (message.param 0).pieces) :
    Consistent profile
      (Handler.forEach entered Handler.joinOne ((new profile).after events).server
        client.user).server
      ((new profile).after events).roster := by
  have orderly := orderly_after profile events
  have here := orderly.here found live
  have staying := (orderly number client found).2
  have each : ∀ name ∈ entered, ∀ server,
      Act message server client.user (Handler.joinOne name server client.user) ∧
        (Handler.joinOne name server client.user).user = client.user :=
    fun name member server => Handler.joinOne_act asked (named name member) registered
  have joined := (Consistent.kept profile fun _ => True).acts trivial (Handler.forEach_acts each)
    (consistent_after profile events) here (staying live)
  rw [Handler.forEach_user fun name member server => (each name member server).2,
    User.settled_eq (staying live), ← here, Function.update_eq_self] at joined
  exact joined

/-- Every listed channel stands under its own folded name, is open, has members, and has only
present nicknames of live registered clients as members, each once.  When a JOIN comes to a
channel, it never finds it closed, and so it never waits. -/
theorem channels_match_users (profile : Profile) (events : List Event) :
    let network := (new profile).after events
    (∀ entry ∈ network.server.channels.entries,
      entry.1 = entry.2.name.fold ∧
        ChannelName.isValid profile.channelLimit entry.2.name = true ∧
        entry.2.closed = false ∧ entry.2.members ≠ [] ∧
        (entry.2.members.map fun member => member.nick.fold).Nodup ∧
        ∀ member ∈ entry.2.members, ∃ user ∈ network.registered,
          user.nick = member.nick ∧ network.server.users.find? member.nick = some user) ∧
      ∀ (number : Nat) (client : Client) (message : Message) (entered : List Text) (name : Text)
        (rest : List Text), network.client? number = some client → client.live = true →
        client.user.registered = true → message.verb = .command .join →
        (message.param 0).pieces = entered ++ name :: rest →
        let joining := (Handler.forEach entered Handler.joinOne network.server client.user).server
        (∀ operator, (((joining.channels.find? name).getD (.new name)).join client.user.nick
          operator).1 ≠ .closed) ∧
        (Handler.joinOne name joining client.user).verdict ≠ .waiting := by
  intro network
  have consistent := consistent_after profile events
  refine ⟨?_, ?_⟩
  · intro entry member
    obtain ⟨key, found⟩ := consistent.keyed.mem_entries_iff.mp member
    have sound := consistent.sound found
    refine ⟨key, sound.valid, sound.opened, sound.inhabited, sound.distinct, ?_⟩
    intro member present
    obtain ⟨user, here, registered, named⟩ := consistent.client_of_member found present
    exact ⟨user, mem_registered_iff.mpr ⟨⟨_, here⟩, registered⟩, named,
      consistent.registry.found here registered (congrArg Text.fold named)⟩
  · intro number client message entered name rest found live registered asked listed joining
    have named : ∀ other ∈ entered, other ∈ (message.param 0).pieces := by
      intro other member
      rw [listed]
      exact List.mem_append_left _ member
    have during := consistent_joining profile events found live registered asked named
    have opened : ((joining.channels.find? name).getD (.new name)).closed = false := by
      cases known : joining.channels.find? name with
      | none => rfl
      | some channel => exact (during.sound known).opened
    exact ⟨Channel.join_ne_closed opened _, Handler.joinOne_ne_waiting opened⟩

end Network

end IrcServer
