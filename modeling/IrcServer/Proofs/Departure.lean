import IrcServer.Proofs.Talk

namespace IrcServer

/-! What the departure of a client leaves behind.

A client can be gone between two events, or right after a message of its own, when it has quit or
could not be answered.  Either way everything stays but the client, and those who shared a channel
with it are told once. -/

/-- The channel without a user, if anybody is left in it. -/
def Channel.leftBy (user : User) (channel : Channel) : Option Channel :=
  let others := channel.members.filter fun member => !(user.registered && member.nick = user.nick)
  if others = [] then none else some { channel with members := others }

theorem Channel.leftBy_of_unregistered {user : User} {channel : Channel}
    (unregistered : user.registered = false) (inhabited : channel.members ≠ []) :
    channel.leftBy user = some channel := by
  simp [leftBy, unregistered, inhabited]

/-- What the others read when a client has gone. -/
theorem User.wire_quit (user : User) (reason : Text) :
    (user.line .quit [] (some reason)).wire =
      Line.cut (':' :: user.fullName ++ " QUIT :" ++ reason) ++ crlf := by
  have words : (" QUIT :" : Text) = ' ' :: Command.name .quit ++ [' ', ':'] := by decide
  rw [Line.wire, user.raw_line, words]
  simp [Line.rawText]

namespace Network

/-- The two clients are in a common channel. -/
def shares (network : Network) (number other : Nat) : Bool :=
  network.server.channels.values.any fun channel =>
    network.isIn number channel && network.isIn other channel

theorem shares_iff {network : Network} {number other : Nat} :
    network.shares number other = true ↔
      ∃ channel ∈ network.server.channels.values, network.isIn number channel = true ∧
        network.isIn other channel = true := by
  simp only [shares, List.any_eq_true, Bool.and_eq_true]

/-- A client that is about to be gone, on the network as it is then. -/
inductive Departing (profile : Profile) (number : Nat) : Network → Client → Prop
  | between {events : List Event} {client : Client}
      (found : ((new profile).after events).client? number = some client)
      (live : client.live = true) :
      Departing profile number ((new profile).after events) client
  | answered {network : Network} {events : List Event} {client : Client} {message : Message}
      {reaction : Reaction} (reached : (new profile).after events = network)
      (found : network.client? number = some client) (live : client.live = true)
      (handled : Handler.handle message network.server client.user = reaction) :
      Departing profile number (network.reacted number client reaction)
        { client with user := reaction.user }

/-- What a departure relies on.  The server agrees with the clients if the one that goes has not
yet said why. -/
structure Parting (profile : Profile) (network : Network) (number : Nat) (client : Client) :
    Prop where
  found : network.client? number = some client
  live : client.live = true
  queue : client.user.queue = number
  consistent : Consistent profile network.server
    (Function.update network.roster number (some client.user.settled))

theorem Departing.parting {profile : Profile} {network : Network} {number : Nat} {client : Client}
    (departing : Departing profile number network client) :
    Parting profile network number client := by
  cases departing with
  | @between events client found live =>
      obtain ⟨queue, staying⟩ := orderly_after profile events number client found
      refine ⟨found, live, queue, ?_⟩
      rw [User.settled_eq (staying live), ← roster_of_client found live, Function.update_eq_self]
      exact consistent_after profile events
  | @answered network events client message reaction reached found live handled =>
      have orderly : network.Orderly := reached ▸ orderly_after profile events
      have acts : Acts message network.server client.user reaction :=
        handled ▸ Handler.handle_acts message network.server client.user
      refine ⟨?_, live, acts.queue.trans (orderly number client found).1, ?_⟩
      · rw [client?_reacted found, if_pos rfl]
      · rw [roster_reacted found live, Function.update_idem, ← handled]
        exact (Consistent.kept profile fun _ => True).reacted reached found live message

/-- A client that is answered may be gone right after. -/
theorem parting_reacted {profile : Profile} {events : List Event} {network : Network}
    {number : Nat} {client : Client} (reached : (new profile).after events = network)
    (found : network.client? number = some client) (live : client.live = true)
    (message : Message) :
    Parting profile
      (network.reacted number client (Handler.handle message network.server client.user)) number
      { client with user := (Handler.handle message network.server client.user).user } :=
  Departing.parting (.answered reached found live (@rfl _ (Handler.handle message _ _)))

namespace Parting

variable {profile : Profile} {network : Network} {number : Nat} {client : Client}

theorem here (parting : Parting profile network number client) :
    network.roster number = some client.user :=
  roster_of_client parting.found parting.live

theorem settled (parting : Parting profile network number client) :
    Function.update network.roster number (some client.user.settled) client.user.queue =
      some client.user.settled := by
  rw [parting.queue, Function.update_self]

/-- After the departure the server agrees with the clients that are left. -/
theorem registry (parting : Parting profile network number client) (error : Option Text) :
    Registry profile (network.server.depart client.user error).1
      (Function.update network.roster number none) := by
  have departed := parting.consistent.registry.depart parting.settled error
  rwa [parting.queue, Function.update_idem] at departed

/-- The entry of the client is the one with its queue. -/
theorem entry_iff (parting : Parting profile network number client)
    (registered : client.user.registered = true) {entry : Text × User}
    (member : entry ∈ network.server.users.entries) :
    entry.1 = client.user.nick.fold ↔ entry.2.queue = number :=
  (parting.consistent.registry.key_eq_iff parting.settled registered member).trans
    (by rw [parting.queue])

theorem users (parting : Parting profile network number client) (error : Option Text) :
    (network.server.depart client.user error).1.users.entries =
      network.server.users.entries.filter fun entry => entry.2.queue ≠ number := by
  have registry := parting.consistent.registry
  rw [Server.users_depart]
  by_cases registered : client.user.registered = true
  · rw [if_pos registered]
    refine List.filter_congr fun entry member => ?_
    rw [decide_eq_decide]
    exact not_congr (parting.entry_iff registered member)
  · rw [if_neg registered, eq_comm, List.filter_eq_self]
    intro entry member
    obtain ⟨_, listed⟩ := registry.keyed.mem_entries_iff.mp member
    have others := registry.queue_ne_of_unregistered parting.settled
      (eq_false_of_ne_true registered) listed
    exact decide_eq_true (parting.queue ▸ others)

theorem isNamed_iff (parting : Parting profile network number client)
    (registered : client.user.registered = true) {name : Text} {channel : Channel}
    (found : network.server.channels.find? name = some channel) {member : Member}
    (present : member ∈ channel.members) :
    member.key = client.user.nick.fold ↔ member.nick = client.user.nick :=
  parting.consistent.key_eq_iff parting.settled registered found present

theorem without_eq (parting : Parting profile network number client)
    (registered : client.user.registered = true) {name : Text} {channel : Channel}
    (found : network.server.channels.find? name = some channel) :
    channel.without client.user.nick = channel.leftBy client.user := by
  have sound := parting.consistent.sound found
  have same : (channel.dropped client.user.nick).members =
      channel.members.filter fun member =>
        !(client.user.registered && member.nick = client.user.nick) := by
    refine List.filter_congr fun member present => ?_
    simp [parting.isNamed_iff registered found present, registered]
  rw [Channel.without_eq sound.distinct sound.inhabited, Channel.leftBy, ← same]
  rfl

theorem channels (parting : Parting profile network number client) (error : Option Text) :
    (network.server.depart client.user error).1.channels.entries =
      Entries.filterMap (Channel.leftBy client.user) network.server.channels.entries := by
  have left : ∀ entry ∈ network.server.channels.entries, entry.2.leftBy client.user =
      if client.user.registered then entry.2.without client.user.nick else some entry.2 := by
    intro entry member
    obtain ⟨_, found⟩ := parting.consistent.keyed.mem_entries_iff.mp member
    split
    · rename_i registered
      exact (parting.without_eq registered found).symm
    · rename_i unregistered
      exact Channel.leftBy_of_unregistered (eq_false_of_ne_true unregistered)
        (parting.consistent.sound found).inhabited
  rw [Server.channels_depart parting.consistent.keyed, Entries.filterMap,
    List.filterMap_congr fun entry member => by rw [left entry member]]
  split
  · rfl
  · simp

theorem connections (parting : Parting profile network number client) (error : Option Text) :
    (network.server.depart client.user error).1.connections.entries =
      network.server.connections.entries.filter fun entry => entry.1 ≠ client.user.id := by
  have connected := parting.consistent.registry.connected parting.settled
  have used : network.server.connections.contains client.user.id = true := connected
  rw [Server.connections_depart, Slab.erase, if_pos used]
  rfl

/-- Slots are not shared, so the others keep their connections. -/
theorem id_ne (parting : Parting profile network number client) {other : Nat} {holder : User}
    (differs : other ≠ number) (there : network.roster other = some holder) :
    holder.id ≠ client.user.id := by
  intro same
  have known : Function.update network.roster number (some client.user.settled) other =
      some holder := by rw [Function.update_of_ne differs, there]
  have one := parting.consistent.registry.separate known parting.settled same
  exact differs (one.trans parting.queue)

theorem told_iff (parting : Parting profile network number client)
    (registered : client.user.registered = true) {other : Nat} {holder : User}
    (differs : other ≠ number) (there : network.roster other = some holder) :
    (holder.registered = true ∧ holder.nick.fold ∈
        (peersIn (network.server.channelsOf client.user.nick) client.user.nick).map Text.fold) ↔
      network.shares number other = true := by
  have known : Function.update network.roster number (some client.user.settled) other =
      some holder := by rw [Function.update_of_ne differs, there]
  simp only [mem_peersIn_iff, Server.mem_channelsOf_iff, shares_iff,
    isIn_of_roster parting.here registered]
  constructor
  · rintro ⟨listed, ⟨channel, ⟨found, present⟩, shared⟩, _⟩
    exact ⟨channel, found, present, by rw [isIn_of_roster there listed, shared]⟩
  · rintro ⟨channel, found, present, shared⟩
    rw [isIn, there, Option.any_some, Bool.and_eq_true] at shared
    have apart : holder.nick.fold ≠ client.user.settled.nick.fold :=
      parting.consistent.fold_ne known parting.settled
        (fun same => differs (same.trans parting.queue)) registered shared.1
    exact ⟨shared.1, ⟨channel, ⟨found, present⟩, shared.2⟩, apart⟩

/-- However many channels another client shares with the one that goes, it is told once. -/
theorem linesTo_depart (parting : Parting profile network number client) (error : Option Text)
    (other : Nat) :
    linesTo other (network.server.depart client.user error).2 =
      if other ≠ number ∧ network.shares number other = true then
        [client.user.line .quit [] (some (Server.departureReason client.user error))]
      else [] := by
  have registry := parting.registry error
  by_cases registered : client.user.registered = true
  · have told : (network.server.depart client.user error).2 =
        (network.server.depart client.user error).1.relay
          (peersIn (network.server.channelsOf client.user.nick) client.user.nick)
          (client.user.line .quit []
            (some (Server.departureReason client.user error))) := by
      rw [Server.depart, if_pos registered]
      exact relay_congr rfl _ _
    rw [told]
    by_cases differs : other = number
    · rw [if_neg fun both => both.1 differs]
      exact registry.linesTo_relay_absent (by rw [differs, Function.update_self]) _ _
    · cases there : network.roster other with
      | none =>
          rw [registry.linesTo_relay_absent (by rw [Function.update_of_ne differs, there]), if_neg]
          intro both
          obtain ⟨channel, _, _, shared⟩ := shares_iff.mp both.2
          rw [isIn, there] at shared
          cases shared
      | some holder =>
          rw [registry.linesTo_relay (by rw [Function.update_of_ne differs, there])
            (distinct_peersIn _ _)]
          refine if_congr ?_ rfl rfl
          rw [parting.told_iff registered differs there, and_iff_right differs]
  · rw [Server.depart, if_neg registered, if_neg]
    · rfl
    · intro both
      obtain ⟨channel, _, present, _⟩ := shares_iff.mp both.2
      rw [isIn, parting.here, Option.any_some, Bool.and_eq_true] at present
      exact registered present.1

end Parting

/-- When a client is gone, everything else stays as it was: only its connection, its entry in the
user directory and its memberships are taken away, and the channels in which it was alone.  Those
who shared a channel with it are told once, whatever it staged or held. -/
theorem departure_is_complete (profile : Profile) (number : Nat) (network : Network)
    (client : Client) (error : Option Text)
    (departing : Departing profile number network client) :
    let user := client.user
    let outcome := network.depart number client error
    let before := network.server
    let server := outcome.network.server
    let reason := (user.quitReason.or error).getD "Connection reset by peer"
    let line := Line.cut (':' :: user.fullName ++ " QUIT :" ++ reason) ++ crlf
    outcome.closed = true ∧
      outcome.network.clients = network.clients.set number { client with live := false } ∧
      server.profile = before.profile ∧ server.operators = before.operators ∧
      server.connections.find? user.id = none ∧
      server.connections.entries =
        before.connections.entries.filter (fun entry => entry.1 ≠ user.id) ∧
      (∀ other holder, other ≠ number → network.roster other = some holder →
        holder.id ≠ user.id) ∧
      server.users.entries =
        before.users.entries.filter (fun entry => entry.2.queue ≠ number) ∧
      server.channels.entries =
        Entries.filterMap (Channel.leftBy user) before.channels.entries ∧
      (∀ other, (outcome.linesFor other).map Line.wire =
        if other ≠ number ∧ network.shares number other = true ∧
          network.isListening other = true then [line] else []) ∧
      (user.registered = false → outcome.received = [] ∧ server.users = before.users ∧
        server.channels = before.channels) := by
  intro user outcome before server reason line
  have parting := departing.parting
  refine ⟨rfl, rfl, Server.profile_depart _ _ _, Server.operators_depart _ _ _, ?_,
    parting.connections error, fun other holder => parting.id_ne, parting.users error,
    parting.channels error, fun other => ?_, fun unregistered => ?_⟩
  · change (network.server.depart client.user error).1.connections.find? client.user.id = none
    rw [Server.connections_depart, Slab.find?_erase, if_pos rfl]
  · change (linesTo other (network.received (network.server.depart client.user error).2)).map
      Line.wire = _
    have written : (client.user.line .quit []
        (some (Server.departureReason client.user error))).wire = line :=
      User.wire_quit _ _
    rw [linesTo_received_eq, parting.linesTo_depart error]
    by_cases hears : network.isListening other = true
    · simp only [hears, and_true, if_true]
      rw [apply_ite (List.map Line.wire), List.map_singleton, List.map_nil, written]
    · simp [hears]
  · have silent : network.server.depart client.user error =
        (network.server.disconnect client.user.id, []) :=
      Server.depart_of_unregistered (by simpa using unregistered)
    change network.received (network.server.depart client.user error).2 = [] ∧
      (network.server.depart client.user error).1.users = network.server.users ∧
      (network.server.depart client.user error).1.channels = network.server.channels
    rw [silent]
    exact ⟨rfl, rfl, rfl⟩

/-- The reason that a client gives goes before the error of its connection. -/
theorem departure_of_teaRun :
    let network := (new teaProfile).after teaRun
    ∃ client, network.client? 0 = some client ∧
      let reaction := Handler.handle ⟨none, .command .quit, ["bye"], true⟩ network.server
        client.user
      let outcome := (network.reacted 0 client reaction).depart 0
        { client with user := reaction.user } (some "broken pipe")
      (outcome.linesFor 1).map Line.wire = [(":ann!a@east QUIT :bye\r\n" : Text)] ∧
        (outcome.linesFor 0).map Line.wire = [] := by
  intro network
  have leaver : (network.client? 0).map (fun client =>
      let reaction := Handler.handle ⟨none, .command .quit, ["bye"], true⟩ network.server
        client.user
      (client.live, reaction.user.fullName, reaction.user.quitReason,
        (network.reacted 0 client reaction).shares 0 1,
        (network.reacted 0 client reaction).isListening 1)) =
      some (true, ("ann!a@east" : Text), some ("bye" : Text), true, true) := by decide +kernel
  obtain ⟨client, found, same⟩ := Option.map_eq_some_iff.mp leaver
  simp only [Prod.mk.injEq] at same
  obtain ⟨live, fullName, reason, shared, hears⟩ := same
  refine ⟨client, found, ?_⟩
  intro reaction outcome
  obtain ⟨_, _, _, _, _, _, _, _, _, read, _⟩ :=
    departure_is_complete teaProfile 0 (network.reacted 0 client reaction)
      { client with user := reaction.user } (some "broken pipe") (.answered rfl found live rfl)
  refine ⟨(read 1).trans ?_, (read 0).trans ?_⟩
  · rw [if_pos ⟨by decide, shared, hears⟩]
    dsimp only
    rw [fullName, reason]
    decide
  · rw [if_neg fun all => all.1 rfl]

end Network

end IrcServer
