import IrcServer.Proofs.ChannelDirectory
import IrcServer.Proofs.Replay
import Mathlib.Data.List.Perm.Basic

namespace IrcServer

/-! A client can rebuild its channels from what it was sent. -/

theorem Consistent.rooms_perm {profile : Profile} {server : Server} {roster : Roster}
    (consistent : Consistent profile server roster) {user : User}
    (registered : user.registered = true) {rooms : Directory Room}
    (keyed : rooms.Keyed Room.name) (same : ∀ name, rooms.find? name = server.room? user name) :
    rooms.values.Perm ((server.channelsOf user.nick).map Channel.room) := by
  have distinct : ((server.channelsOf user.nick).map Channel.room).Nodup := by
    refine List.Nodup.of_map (fun room => room.name.fold) ?_
    rw [List.map_map]
    exact Server.nodup_channelsOf consistent.keyed user.nick
  refine (List.perm_ext_iff_of_nodup keyed.nodup_values distinct).mpr fun room => ?_
  rw [keyed.mem_values_iff, same, Server.room?_eq_some_iff, List.mem_map]
  constructor
  · rintro ⟨channel, found, _, present, rfl⟩
    exact ⟨channel, Server.mem_channelsOf_iff.mpr ⟨Directory.mem_values_of_find? found, present⟩,
      rfl⟩
  · rintro ⟨channel, member, rfl⟩
    obtain ⟨listed, present⟩ := Server.mem_channelsOf_iff.mp member
    exact ⟨channel, consistent.keyed.mem_values_iff.mp listed, registered, present, rfl⟩

namespace Network

/-- The view that a live client has of its channels, from its own lines alone, holds exactly the
channels that it is in, with the members that the server lists for them in the same order. -/
theorem replay_matches_channels (profile : Profile) (events : List Event) (number : Nat)
    (client : Client) (domain : ' ' ∉ profile.domain)
    (hosts : ∀ host, .connected host ∈ events → ' ' ∉ host)
    (parsed : ∀ speaker message, .said speaker message ∈ events →
      ∃ line, Message.parse? line = some message)
    (tidy : ∀ speaker message, .said speaker message ∈ events →
      message.verb = .command .join → ∀ name ∈ (message.param 0).pieces,
        ChannelName.isValid profile.channelLimit name = true → name.getLast?.any isBlank = false)
    (uncut : ∀ line ∈ (new profile).heard number events, line.raw.byteLength ≤ maxLineBytes - 2)
    (found : ((new profile).after events).client? number = some client)
    (live : client.live = true) (listening : client.listening = true) :
    let server := ((new profile).after events).server
    let view := View.new.replay (((new profile).heard number events).map Line.wire)
    (client.user.registered = true → view.nick = some client.user.nick) ∧
      view.rooms.values.Perm
        (if client.user.registered = true then
          (server.channelsOf client.user.nick).map Channel.room
        else []) := by
  intro server view
  have permitted : ∀ event ∈ events, event.Tidy profile := by
    intro event member
    cases event with
    | connected host => exact hosts host member
    | said speaker message => exact ⟨parsed speaker message member, tidy speaker message member⟩
    | left | lostQueue => trivial
  have tracks := (followed_after domain permitted uncut).tracks client found live listening
  have keyed : view.rooms.Keyed Room.name := View.keyed_after Directory.Keyed.empty _
  refine ⟨tracks.nick, ?_⟩
  split
  · rename_i registered
    exact (consistent_after profile events).rooms_perm registered keyed tracks.rooms
  · rename_i unregistered
    have empty : view.rooms.values = [] := by
      refine List.eq_nil_iff_forall_not_mem.mpr fun room member => ?_
      have known := (tracks.rooms room.name).symm.trans (keyed.mem_values_iff.mp member)
      obtain ⟨_, _, registered, _⟩ := Server.room?_eq_some_iff.mp known
      exact unregistered registered
    rw [empty]

theorem replay_of_teaRun :
    let network := (new teaProfile).after teaRun
    let view := View.new.replay (((new teaProfile).heard 0 teaRun).map Line.wire)
    view.rooms.values = [⟨"#tea", [⟨"ann", true⟩, ⟨"Bert", true⟩]⟩] ∧ view.nick = some ("ann" : Text) ∧
      view.rooms.values.Perm ((network.server.channelsOf "ann").map Channel.room) := by
  intro network view
  have present : (network.client? 0).map (fun client =>
      (client.live, client.listening, client.user.registered, client.user.nick)) =
        some (true, true, true, ("ann" : Text)) := by decide +kernel
  obtain ⟨client, found, same⟩ := Option.map_eq_some_iff.mp present
  obtain ⟨live, listening, registered, named⟩ : client.live = true ∧ client.listening = true ∧
      client.user.registered = true ∧ client.user.nick = "ann" := by simpa using same
  have hosts : ∀ host, .connected host ∈ teaRun → ' ' ∉ host := by
    intro host member
    have visible : ∀ event ∈ teaRun, (match event with
        | .connected host => !host.contains ' '
        | _ => true) = true := by decide +kernel
    simpa using visible _ member
  have parsed : ∀ speaker message, .said speaker message ∈ teaRun →
      ∃ line, Message.parse? line = some message := by
    intro speaker message member
    rcases List.mem_append.mp member with connected | said
    · simp at connected
    · obtain ⟨line, _, made⟩ := List.mem_flatMap.mp said
      obtain ⟨read, member, same⟩ := List.mem_map.mp made
      cases same
      exact ⟨line.2, Option.mem_toList.mp member⟩
  have tidy : ∀ speaker message, .said speaker message ∈ teaRun →
      message.verb = .command .join → ∀ name ∈ (message.param 0).pieces,
        ChannelName.isValid teaProfile.channelLimit name = true →
          name.getLast?.any isBlank = false := by
    intro speaker message member _ name listed _
    have trimmed : ∀ event ∈ teaRun, (match event with
        | .connected _ | .left _ _ | .lostQueue _ => true
        | .said _ message =>
            (message.param 0).pieces.all fun name => !name.getLast?.any isBlank) = true := by decide +kernel
    simpa using List.all_eq_true.mp (trimmed _ member) name listed
  have uncut : ∀ line ∈ (new teaProfile).heard 0 teaRun,
      line.raw.byteLength ≤ maxLineBytes - 2 := by decide +kernel
  obtain ⟨welcomed, rooms⟩ := replay_matches_channels teaProfile teaRun 0 client (by decide) hosts
    parsed tidy uncut found live listening
  rw [if_pos registered, named] at rooms
  exact ⟨by decide +kernel, named ▸ welcomed registered, rooms⟩

end Network

end IrcServer
