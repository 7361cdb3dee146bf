import IrcServer.Proofs.ChannelDirectory

namespace IrcServer

/-! How far clients have come on their way to registration.

This is known three times: by the names that a client has given, by the flag of its record, and by
the state of its connection.  `Progressing` says that the three agree, and that no connection is
left without its client. -/

/-- How far a client has come by the names that it has given. -/
def User.progress (user : User) : ConnectionState :=
  match user.nick?, user.username? with
  | none, none => .unknown
  | some _, some _ => .registered
  | _, _ => .identified

/-- A client is registered just when it has given both names. -/
def User.Coherent (user : User) : Prop :=
  user.registered = true ↔ user.progress = .registered

namespace User

variable {user : User}

theorem progress_unknown_iff :
    user.progress = .unknown ↔ user.nick? = none ∧ user.username? = none := by
  cases named : user.nick? <;> cases given : user.username? <;> simp [progress, named, given]

theorem progress_identified_iff :
    user.progress = .identified ↔ user.nick?.isSome ≠ user.username?.isSome := by
  cases named : user.nick? <;> cases given : user.username? <;> simp [progress, named, given]

theorem progress_registered_iff :
    user.progress = .registered ↔ user.nick?.isSome = true ∧ user.username?.isSome = true := by
  cases named : user.nick? <;> cases given : user.username? <;> simp [progress, named, given]

theorem Coherent.rank_le (coherent : user.Coherent) (unregistered : user.registered = false) :
    user.progress.rank ≤ ConnectionState.identified.rank := by
  have before : user.progress ≠ .registered := by
    intro reached
    rw [coherent.mpr reached] at unregistered
    cases unregistered
  cases known : user.progress with
  | registered => exact absurd known before
  | unknown | identified => decide

/-- Who has given a name has given one or both. -/
theorem countP_given (users : List User) :
    (users.countP fun user => user.progress = .identified) +
        (users.countP fun user => user.progress = .registered) =
      users.countP fun user => user.nick?.isSome || user.username?.isSome := by
  induction users with
  | nil => rfl
  | cons user rest inductionHypothesis =>
      rw [List.countP_cons, List.countP_cons, List.countP_cons, ← inductionHypothesis]
      cases named : user.nick? <;> cases given : user.username? <;>
        simp [progress, named, given] <;> omega

end User

/-- A connection that is not ahead of a state comes to it. -/
theorem Server.find?_advance {server : Server} {id : Nat} {connection : Connection}
    (connected : server.connections.find? id = some connection) {state : ConnectionState}
    (behind : connection.state.rank ≤ state.rank) (other : Nat) :
    (server.advance id state).connections.find? other =
      if other = id then some ⟨connection.host, state⟩ else server.connections.find? other := by
  rw [Server.advance, Slab.find?_modify]
  refine if_ctx_congr Iff.rfl (fun same => ?_) fun _ => rfl
  rw [same, connected, Option.map_some, Connection.advance, Connection.canAdvance,
    decide_eq_true behind, if_pos rfl]

namespace Act

variable {message : Message} {server : Server} {user : User} {reaction : Reaction}

theorem coherent (act : Act message server user reaction) (coherent : user.Coherent) :
    reaction.user.Coherent := by
  cases act with
  | still | marked | empowered | joined | parted | changed | titled => exact coherent
  | renamed _ registered =>
      have both := User.progress_registered_iff.mp (coherent.mp registered)
      exact iff_of_true registered (User.progress_registered_iff.mpr ⟨rfl, both.2⟩)
  | named _ unregistered _ unnamed =>
      refine iff_of_false (by simp [User.setNick, unregistered]) fun reached => ?_
      have both := User.progress_registered_iff.mp reached
      simp [User.setNick, unnamed] at both
  | introduced _ _ unregistered =>
      refine iff_of_false (by simp [unregistered]) fun reached => ?_
      have both := User.progress_registered_iff.mp reached
      simp at both
  | enrolled _ _ nickGiven usernameGiven =>
      refine iff_of_true rfl (User.progress_registered_iff.mpr ?_)
      simp [Handler.enrolled, nickGiven, usernameGiven]

/-- An act changes no connection but that of its client, and this one follows the client. -/
theorem connections (act : Act message server user reaction) (coherent : user.Coherent)
    (connected : server.connections.find? user.id = some ⟨user.host, user.progress⟩) (id : Nat) :
    reaction.server.connections.find? id =
      if id = user.id then some ⟨user.host, reaction.user.progress⟩
      else server.connections.find? id := by
  have still : server.connections.find? id =
      if id = user.id then some ⟨user.host, user.progress⟩ else server.connections.find? id := by
    split
    · rename_i same
      rw [same, connected]
    · rfl
  have advanced : user.registered = false → ∀ other,
      (server.advance user.id .identified).connections.find? other =
        if other = user.id then some ⟨user.host, .identified⟩
        else server.connections.find? other := fun unregistered =>
    Server.find?_advance connected (coherent.rank_le unregistered)
  have renewed := act.coherent coherent
  cases act with
  | still | joined | parted | changed | titled => exact still
  | marked | empowered =>
      dsimp only
      rw [Server.refresh_connections]
      exact still
  | renamed _ registered =>
      rw [coherent.mp registered] at still
      rw [renewed.mp registered]
      exact still
  | @named nick _ unregistered _ unnamed =>
      have halfway : (user.setNick nick).progress = .identified :=
        User.progress_identified_iff.mpr (by simp [User.setNick, unnamed])
      rw [halfway]
      exact advanced unregistered id
  | introduced _ _ unregistered => exact advanced unregistered id
  | @enrolled nick _ given unregistered giving =>
      have same : given.id = user.id := by
        rcases giving with ⟨_, rfl, _⟩ | ⟨_, _, _, rfl⟩ <;> rfl
      have identified := (advanced unregistered user.id).trans (if_pos rfl)
      have behind : ConnectionState.identified.rank ≤ ConnectionState.registered.rank := by decide
      have finished := Server.find?_advance identified behind id
      change ((server.advance user.id .identified).advance given.id .registered).connections.find?
        id = _
      rw [same, finished, renewed.mp rfl]
      refine if_ctx_congr Iff.rfl (fun _ => rfl) fun differs => ?_
      rw [advanced unregistered, if_neg differs]

end Act

/-- The connections are those of the live clients, each as far as its client has come. -/
structure Progressing (profile : Profile) (server : Server) (roster : Roster) : Prop where
  registry : Registry profile server roster
  coherent : ∀ {number user}, roster number = some user → user.Coherent
  connected : ∀ {number user}, roster number = some user →
    server.connections.find? user.id = some ⟨user.host, user.progress⟩
  used : ∀ {id connection}, server.connections.find? id = some connection →
    ∃ number user, roster number = some user ∧ user.id = id

namespace Progressing

variable {profile : Profile} {server : Server} {roster : Roster} {user : User}

/-- A connection keeps its client when somebody else changes or leaves. -/
theorem used_update (progressing : Progressing profile server roster) {slot : Nat}
    {connection : Connection} (found : server.connections.find? slot = some connection)
    {queue : Nat} (others : ∀ old, roster queue = some old → old.id ≠ slot)
    (change : Option User) :
    ∃ number user, Function.update roster queue change number = some user ∧ user.id = slot := by
  obtain ⟨number, user, there, same⟩ := progressing.used found
  have elsewhere : number ≠ queue := by
    intro here
    exact others user (here ▸ there) same
  exact ⟨number, user, by rw [Function.update_of_ne elsewhere, there], same⟩

theorem act (progressing : Progressing profile server roster)
    (here : roster user.queue = some user) {message : Message} {reaction : Reaction}
    (act : Act message server user reaction) :
    Progressing profile reaction.server
      (Function.update roster user.queue (some reaction.user)) := by
  have connections := act.connections (progressing.coherent here) (progressing.connected here)
  obtain ⟨_, id, host, _⟩ := act.samePerson
  refine ⟨progressing.registry.act here act, ?_, ?_, ?_⟩
  · intro number other found
    rcases Roster.of_update found with ⟨_, rfl⟩ | ⟨_, old⟩
    · exact act.coherent (progressing.coherent here)
    · exact progressing.coherent old
  · intro number other found
    rw [connections]
    rcases Roster.of_update found with ⟨_, rfl⟩ | ⟨differs, old⟩
    · rw [if_pos id, host]
    · rw [if_neg fun same => differs (progressing.registry.separate old here same)]
      exact progressing.connected old
  · intro slot connection found
    rw [connections] at found
    split at found
    · rename_i same
      exact ⟨user.queue, reaction.user, Function.update_self _ _ _, id.trans same.symm⟩
    · rename_i differs
      refine progressing.used_update found (fun old there same => ?_) _
      cases here.symm.trans there
      exact differs same.symm

theorem depart (progressing : Progressing profile server roster)
    (here : roster user.queue = some user.settled) (error : Option Text) :
    Progressing profile (server.depart user error).1
      (Function.update roster user.queue none) := by
  refine ⟨progressing.registry.depart here error, ?_, ?_, ?_⟩
  · intro number other found
    exact progressing.coherent (Roster.of_update_none found).2
  · intro number other found
    obtain ⟨differs, old⟩ := Roster.of_update_none found
    have slots : other.id ≠ user.id :=
      fun same => differs (progressing.registry.separate old here same)
    rw [Server.connections_depart, Slab.find?_erase, if_neg slots]
    exact progressing.connected old
  · intro slot connection found
    rw [Server.connections_depart, Slab.find?_erase] at found
    split at found
    · cases found
    · rename_i differs
      refine progressing.used_update found (fun old there same => ?_) _
      cases here.symm.trans there
      exact differs same.symm

theorem connect (progressing : Progressing profile server roster) (host : Text) {number : Nat}
    (unused : roster number = none) :
    Progressing profile (server.connect host).2
      (Function.update roster number (some (.new (server.connect host).1 host number))) := by
  have opened : ∀ slot, (server.connect host).2.connections.find? slot =
      if slot = (server.connect host).1 then some (.new host)
      else server.connections.find? slot :=
    server.connections.find?_insert _ _
  have fresh : server.connections.find? (server.connect host).1 = none :=
    server.connections.find?_insert_fst _ (.new host)
  refine ⟨progressing.registry.connect host unused, ?_, ?_, ?_⟩
  · intro other user found
    rcases Roster.of_update found with ⟨_, rfl⟩ | ⟨_, old⟩
    · exact iff_of_false Bool.false_ne_true nofun
    · exact progressing.coherent old
  · intro other user found
    rw [opened]
    rcases Roster.of_update found with ⟨_, rfl⟩ | ⟨_, old⟩
    · exact if_pos rfl
    · have connected := progressing.connected old
      rw [if_neg fun same => by rw [same, fresh] at connected; cases connected]
      exact connected
  · intro slot connection found
    rw [opened] at found
    split at found
    · rename_i new
      exact ⟨number, _, Function.update_self _ _ _, new.symm⟩
    · refine progressing.used_update found (fun old there => ?_) _
      cases unused.symm.trans there

theorem kept (profile : Profile) (allowed : Event → Prop) :
    Kept profile allowed (Progressing profile) where
  new := ⟨(Registry.kept profile allowed).new, nofun, nofun, nofun⟩
  connect _ progressing unused := progressing.connect _ unused
  act _ progressing here act := progressing.act here act
  depart error progressing here := progressing.depart here error

end Progressing

namespace Network

/-- The own records of the live clients. -/
def present (network : Network) : List User :=
  (network.clients.filter Client.live).map Client.user

theorem mem_present_iff {network : Network} {user : User} :
    user ∈ network.present ↔ ∃ number, network.roster number = some user := by
  unfold present
  rw [List.mem_map]
  constructor
  · rintro ⟨client, member, rfl⟩
    obtain ⟨known, live⟩ := List.mem_filter.mp member
    obtain ⟨number, found⟩ := List.mem_iff_getElem?.mp known
    exact ⟨number, roster_of_client found live⟩
  · rintro ⟨number, here⟩
    obtain ⟨client, found, live, rfl⟩ := roster_eq_some_iff.mp here
    exact ⟨client, List.mem_filter.mpr ⟨List.mem_of_getElem? found, live⟩, rfl⟩

theorem Orderly.nodup_present {network : Network} (orderly : network.Orderly) :
    network.present.Nodup := by
  refine List.Nodup.of_map User.queue ?_
  unfold present
  rw [List.map_map]
  exact orderly.nodup_queues.sublist (List.filter_sublist.map _)

theorem registered_eq_filter (network : Network) :
    network.registered = network.present.filter User.registered := by
  rw [registered, present, List.filter_map, List.filter_filter]
  refine congrArg (List.map Client.user) (List.filter_congr fun client _ => ?_)
  exact Bool.and_comm _ _

theorem progressing_after (profile : Profile) (events : List Event) :
    Progressing profile ((new profile).after events).server
      ((new profile).after events).roster :=
  (Progressing.kept profile fun _ => True).after events fun _ _ => trivial

section Counts

variable {profile : Profile} {network : Network}

/-- There is one connection for each live client, and no other. -/
theorem connections_perm (progressing : Progressing profile network.server network.roster)
    (orderly : network.Orderly) :
    network.server.connections.entries.Perm
      (network.present.map fun user => (user.id, ⟨user.host, user.progress⟩)) := by
  have distinct := network.server.connections.distinct
  refine (List.perm_ext_iff_of_nodup distinct.of_map ?_).mpr fun entry => ?_
  · refine orderly.nodup_present.map_on fun user member holder other same => ?_
    obtain ⟨number, here⟩ := mem_present_iff.mp member
    obtain ⟨another, there⟩ := mem_present_iff.mp other
    have one := progressing.registry.separate here there (congrArg Prod.fst same)
    rw [one, there] at here
    exact (Option.some.inj here).symm
  · rw [← Entries.find?_eq_some_iff distinct, List.mem_map]
    constructor
    · intro found
      obtain ⟨number, user, here, same⟩ := progressing.used found
      have connected := progressing.connected here
      rw [same] at connected
      have kept := Option.some.inj (connected.symm.trans found)
      exact ⟨user, mem_present_iff.mpr ⟨number, here⟩, by rw [same, kept]⟩
    · rintro ⟨user, member, rfl⟩
      obtain ⟨number, here⟩ := mem_present_iff.mp member
      exact progressing.connected here

theorem countConnections_eq (progressing : Progressing profile network.server network.roster)
    (orderly : network.Orderly) (state : ConnectionState) :
    network.server.countConnections state =
      network.present.countP fun user => user.progress = state := by
  have states := (connections_perm progressing orderly).map Prod.snd
  rw [Server.countConnections, Slab.values, states.countP_eq, List.map_map, List.countP_map]
  rfl

theorem users_perm (registry : Registry profile network.server network.roster)
    (orderly : network.Orderly) : network.server.users.values.Perm network.registered := by
  refine (List.perm_ext_iff_of_nodup registry.keyed.nodup_values orderly.nodup_registered).mpr
    fun user => ?_
  rw [registry.keyed.mem_values_iff, registry.listed, mem_registered_iff]
  constructor
  · rintro ⟨here, registered, _⟩
    exact ⟨⟨_, here⟩, registered⟩
  · rintro ⟨⟨number, here⟩, registered⟩
    exact ⟨registry.numbered here ▸ here, registered, rfl⟩

/-- The counts that clients are told are counts of live clients and of channels with members. -/
theorem countReplies_eq (progressing : Progressing profile network.server network.roster)
    (consistent : Consistent profile network.server network.roster) (orderly : network.Orderly) :
    network.server.countReplies =
      [.userCount (network.present.countP User.registered),
        .operatorCount network.server.operators,
        .unknownCount (network.present.countP fun user =>
          user.nick?.isNone && user.username?.isNone),
        .channelCount (network.server.channels.values.countP fun channel =>
          channel.members ≠ []),
        .clientCount (network.present.countP fun user =>
          user.nick?.isSome || user.username?.isSome)] := by
  have registered : network.server.countConnections .registered =
      network.present.countP User.registered := by
    rw [countConnections_eq progressing orderly]
    refine List.countP_congr fun user member => ?_
    obtain ⟨number, here⟩ := mem_present_iff.mp member
    rw [decide_eq_true_eq]
    exact (progressing.coherent here).symm
  have unknown : network.server.countConnections .unknown =
      network.present.countP fun user => user.nick?.isNone && user.username?.isNone := by
    rw [countConnections_eq progressing orderly]
    refine List.countP_congr fun user _ => ?_
    simp [User.progress_unknown_iff]
  have clients : network.server.countConnections .identified +
      network.server.countConnections .registered =
        network.present.countP fun user => user.nick?.isSome || user.username?.isSome := by
    rw [countConnections_eq progressing orderly, countConnections_eq progressing orderly]
    exact User.countP_given network.present
  have channels : network.server.channels.size =
      network.server.channels.values.countP fun channel => channel.members ≠ [] := by
    rw [List.countP_eq_length.mpr, Directory.values, List.length_map]
    · rfl
    · intro channel member
      have found := consistent.keyed.mem_values_iff.mp member
      exact decide_eq_true (consistent.sound found).inhabited
  rw [Server.countReplies, registered, unknown, channels, ← clients, registered]

end Counts

end Network

end IrcServer
