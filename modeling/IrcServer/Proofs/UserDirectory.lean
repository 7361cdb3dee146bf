import IrcServer.Proofs.Registry
import Mathlib.Data.List.Nodup
import Mathlib.Data.List.Perm.Basic

namespace IrcServer

namespace Network

/-! The user directory after every run: it lists the live registered clients, each once and with
its own record. -/

/-- The own records of the live clients that are registered. -/
def registered (network : Network) : List User :=
  (network.clients.filter fun client => client.live && client.user.registered).map Client.user

theorem registry_after (profile : Profile) (events : List Event) :
    Registry profile ((new profile).after events).server ((new profile).after events).roster :=
  (Registry.kept profile fun _ => True).after events fun _ _ => trivial

theorem mem_registered_iff {network : Network} {user : User} :
    user ∈ network.registered ↔
      (∃ number, network.roster number = some user) ∧ user.registered = true := by
  unfold registered
  rw [List.mem_map]
  constructor
  · rintro ⟨client, member, rfl⟩
    obtain ⟨known, chosen⟩ := List.mem_filter.mp member
    obtain ⟨live, registered⟩ := Bool.and_eq_true_iff.mp chosen
    obtain ⟨number, found⟩ := List.mem_iff_getElem?.mp known
    exact ⟨⟨number, roster_of_client found live⟩, registered⟩
  · rintro ⟨⟨number, here⟩, registered⟩
    obtain ⟨client, found, live, rfl⟩ := roster_eq_some_iff.mp here
    refine ⟨client, List.mem_filter.mpr ⟨List.mem_of_getElem? found, ?_⟩, rfl⟩
    rw [live, registered, Bool.and_self]

theorem Orderly.nodup_registered {network : Network} (orderly : network.Orderly) :
    network.registered.Nodup := by
  refine List.Nodup.of_map User.queue ?_
  unfold registered
  rw [List.map_map]
  exact orderly.nodup_queues.sublist (List.filter_sublist.map _)

/-- The user directory lists exactly the live registered clients, each once, under its folded
nickname and with its own record.  So no two of them share a nickname, their nicknames are valid,
and each is found under every spelling of its nickname. -/
theorem users_mirror_clients (profile : Profile) (events : List Event) :
    let network := (new profile).after events
    network.server.users.entries.Perm
        (network.registered.map fun user => (user.nick.fold, user)) ∧
      (∀ user ∈ network.registered, ∃ nick username,
        user.nick? = some nick ∧ user.username? = some username ∧
          user.fullName = nick ++ '!' :: username ++ '@' :: user.host ∧
          Nickname.isValid profile.nickLimit nick = true) ∧
      (∀ number other user holder, network.roster number = some user →
        network.roster other = some holder → user.registered = true →
        holder.registered = true → user.nick.fold = holder.nick.fold → number = other) ∧
      ∀ user ∈ network.registered, ∀ name : Text, name.fold = user.nick.fold →
        network.server.users.find? name = some user := by
  intro network
  have registry := registry_after profile events
  have orderly := orderly_after profile events
  refine ⟨?_, ?_, ?_, ?_⟩
  · refine (List.perm_ext_iff_of_nodup ?_ ?_).mpr fun entry => ?_
    · exact network.server.users.distinct.of_map
    · exact orderly.nodup_registered.map fun _ _ same => congrArg Prod.snd same
    · rw [registry.keyed.mem_entries_iff, registry.listed, List.mem_map]
      constructor
      · rintro ⟨key, here, registered, _⟩
        exact ⟨entry.2, mem_registered_iff.mpr ⟨⟨_, here⟩, registered⟩, by rw [← key]⟩
      · rintro ⟨user, member, rfl⟩
        obtain ⟨⟨number, here⟩, registered⟩ := mem_registered_iff.mp member
        exact ⟨rfl, registry.numbered here ▸ here, registered, rfl⟩
  · intro user member
    obtain ⟨⟨number, here⟩, registered⟩ := mem_registered_iff.mp member
    obtain ⟨nick, username, nickGiven, usernameGiven⟩ := registry.complete here registered
    refine ⟨nick, username, nickGiven, usernameGiven, ?_, registry.valid here nickGiven⟩
    simp [User.fullName, User.nick, User.username, nickGiven, usernameGiven]
  · intro number other user holder here there registered holderRegistered same
    have one := registry.eq_of_fold_eq here there registered holderRegistered same
    rw [← registry.numbered here, ← registry.numbered there, one]
  · intro user member name same
    obtain ⟨⟨number, here⟩, registered⟩ := mem_registered_iff.mp member
    exact registry.found here registered same.symm

end Network

end IrcServer
