import IrcServer.Proofs.Keyed
import IrcServer.Proofs.Run

namespace IrcServer

/-! The user directory beside the clients' own records.

`Registry` is what makes the two copies of a registered user one: its last field says that a
look-up finds the own record of the live registered client that holds the name.  The other fields
are what every step needs to keep it so, above all that live clients have different slots.
-/

structure Registry (profile : Profile) (server : Server) (roster : Roster) : Prop where
  profileEq : server.profile = profile
  numbered : ∀ {number user}, roster number = some user → user.queue = number
  separate : ∀ {number other user holder}, roster number = some user →
    roster other = some holder → user.id = holder.id → number = other
  connected : ∀ {number user}, roster number = some user →
    server.connections.contains user.id = true
  complete : ∀ {number user}, roster number = some user → user.registered = true →
    ∃ nick username, user.nick? = some nick ∧ user.username? = some username
  valid : ∀ {number user nick}, roster number = some user → user.nick? = some nick →
    Nickname.isValid profile.nickLimit nick = true
  keyed : server.users.Keyed User.nick
  listed : ∀ {name user}, server.users.find? name = some user ↔
    roster user.queue = some user ∧ user.registered = true ∧ user.nick.fold = name.fold

namespace Registry

variable {profile : Profile} {server : Server} {roster : Roster} {user : User}

theorem found (registry : Registry profile server roster) {number : Nat}
    (here : roster number = some user) (registered : user.registered = true) {name : Text}
    (same : user.nick.fold = name.fold) : server.users.find? name = some user :=
  registry.listed.mpr ⟨registry.numbered here ▸ here, registered, same⟩

theorem eq_of_fold_eq (registry : Registry profile server roster) {number other : Nat}
    {holder : User} (here : roster number = some user) (there : roster other = some holder)
    (registered : user.registered = true) (holderRegistered : holder.registered = true)
    (same : user.nick.fold = holder.nick.fold) : user = holder := by
  have first := registry.found here registered same
  rw [registry.found there holderRegistered rfl] at first
  exact (Option.some.inj first).symm

theorem queue_ne (registry : Registry profile server roster) {number : Nat}
    (here : roster number = some user) {name : Text} {other : User}
    (found : server.users.find? name = some other) (differs : user.nick.fold ≠ name.fold) :
    other.queue ≠ number := by
  intro same
  obtain ⟨there, _, folded⟩ := registry.listed.mp found
  rw [same, here] at there
  cases there
  exact differs folded

theorem queue_ne_of_unregistered (registry : Registry profile server roster) {number : Nat}
    (here : roster number = some user) (unregistered : user.registered = false) {name : Text}
    {other : User} (found : server.users.find? name = some other) : other.queue ≠ number := by
  intro same
  obtain ⟨there, registered, _⟩ := registry.listed.mp found
  rw [same, here] at there
  cases there
  simp [unregistered] at registered

theorem valid_nick (registry : Registry profile server roster) {number : Nat}
    (here : roster number = some user) (registered : user.registered = true) :
    Nickname.isValid profile.nickLimit user.nick = true := by
  obtain ⟨nick, _, given, _⟩ := registry.complete here registered
  have named : user.nick = nick := by rw [User.nick, given, Option.getD_some]
  rw [named]
  exact registry.valid here given

/-- The entry under a client's key is the one with its queue. -/
theorem key_eq_iff (registry : Registry profile server roster) {number : Nat}
    (here : roster number = some user) (registered : user.registered = true) {entry : Text × User}
    (member : entry ∈ server.users.entries) :
    entry.1 = user.nick.fold ↔ entry.2.queue = number := by
  obtain ⟨key, listed⟩ := registry.keyed.mem_entries_iff.mp member
  obtain ⟨there, known, _⟩ := registry.listed.mp listed
  constructor
  · intro same
    have one := registry.eq_of_fold_eq there here known registered (key.symm.trans same)
    rw [one]
    exact registry.numbered here
  · intro same
    rw [same, here] at there
    rw [key, Option.some.inj there]

/-- A change that leaves the users alone and closes no connection. -/
theorem frame (registry : Registry profile server roster) {later : Server}
    (profileSame : later.profile = server.profile) (users : later.users = server.users)
    (connections : ∀ id, server.connections.contains id = true →
      later.connections.contains id = true) : Registry profile later roster where
  profileEq := profileSame.trans registry.profileEq
  numbered := registry.numbered
  separate := registry.separate
  connected here := connections _ (registry.connected here)
  complete := registry.complete
  valid := registry.valid
  keyed := users ▸ registry.keyed
  listed := users ▸ registry.listed

/-- A change of one client's record, if the directory changes with it. -/
theorem replace (registry : Registry profile server roster) {later : Server} {present : User}
    (here : roster user.queue = some user) (queue : present.queue = user.queue)
    (id : present.id = user.id) (profileSame : later.profile = server.profile)
    (connections : ∀ id, server.connections.contains id = true →
      later.connections.contains id = true)
    (complete : present.registered = true →
      ∃ nick username, present.nick? = some nick ∧ present.username? = some username)
    (valid : ∀ nick, present.nick? = some nick →
      Nickname.isValid profile.nickLimit nick = true)
    (keyed : later.users.Keyed User.nick)
    (listed : ∀ name other, later.users.find? name = some other ↔
      (other = present ∧ present.registered = true ∧ present.nick.fold = name.fold) ∨
        other.queue ≠ user.queue ∧ server.users.find? name = some other) :
    Registry profile later (Function.update roster user.queue (some present)) := by
  refine ⟨profileSame.trans registry.profileEq, ?_, ?_, ?_, ?_, ?_, keyed, ?_⟩
  · intro number other found
    rcases Roster.of_update found with ⟨rfl, rfl⟩ | ⟨_, old⟩
    · exact queue
    · exact registry.numbered old
  · intro number other first second found secondFound same
    rcases Roster.of_update found with ⟨rfl, rfl⟩ | ⟨_, old⟩ <;>
      rcases Roster.of_update secondFound with ⟨rfl, rfl⟩ | ⟨_, secondOld⟩
    · rfl
    · exact registry.separate here secondOld (id ▸ same)
    · exact registry.separate old here (id ▸ same)
    · exact registry.separate old secondOld same
  · intro number other found
    rcases Roster.of_update found with ⟨rfl, rfl⟩ | ⟨_, old⟩
    · exact connections _ (id ▸ registry.connected here)
    · exact connections _ (registry.connected old)
  · intro number other found
    rcases Roster.of_update found with ⟨rfl, rfl⟩ | ⟨_, old⟩
    · exact complete
    · exact registry.complete old
  · intro number other nick found
    rcases Roster.of_update found with ⟨rfl, rfl⟩ | ⟨_, old⟩
    · exact valid nick
    · exact registry.valid old
  · intro name other
    rw [listed, Function.update_apply]
    constructor
    · rintro (⟨rfl, registered, same⟩ | ⟨differs, found⟩)
      · exact ⟨by rw [if_pos queue], registered, same⟩
      · rw [if_neg differs]
        exact registry.listed.mp found
    · rintro ⟨found, registered, same⟩
      split at found
      · obtain rfl := Option.some.inj found
        exact .inl ⟨rfl, registered, same⟩
      · exact .inr ⟨‹_›, registry.listed.mpr ⟨found, registered, same⟩⟩

/-- A client that is not registered has no entry, so that its record may change freely. -/
theorem replace_unregistered (registry : Registry profile server roster) {later : Server}
    {present : User} (here : roster user.queue = some user) (queue : present.queue = user.queue)
    (id : present.id = user.id) (unregistered : user.registered = false)
    (stillUnregistered : present.registered = false) (profileSame : later.profile = server.profile)
    (users : later.users = server.users)
    (connections : ∀ id, server.connections.contains id = true →
      later.connections.contains id = true)
    (valid : ∀ nick, present.nick? = some nick →
      Nickname.isValid profile.nickLimit nick = true) :
    Registry profile later (Function.update roster user.queue (some present)) := by
  refine registry.replace here queue id profileSame connections ?_ valid (users ▸ registry.keyed)
    fun name other => ?_
  · intro registered
    simp [stillUnregistered] at registered
  · rw [users]
    constructor
    · intro found
      exact .inr ⟨registry.queue_ne_of_unregistered here unregistered found, found⟩
    · rintro (⟨_, registered, _⟩ | ⟨_, found⟩)
      · simp [stillUnregistered] at registered
      · exact found

theorem users_refresh (registry : Registry profile server roster)
    (here : roster user.queue = some user) (registered : user.registered = true)
    {present : User} (id : present.id = user.id) (nick : present.nick = user.nick)
    (stillRegistered : present.registered = true) :
    (server.refresh present).users = server.users.modify user.nick fun _ => present := by
  have found := registry.found here registered rfl
  unfold Server.refresh
  rw [nick, found]
  dsimp only
  rw [if_pos ⟨stillRegistered, id.symm⟩]

/-- The directory follows a registered client whose record changes in other fields than its
names. -/
theorem refresh (registry : Registry profile server roster) {later : Server} {present : User}
    (here : roster user.queue = some user) (registered : user.registered = true)
    (queue : present.queue = user.queue) (id : present.id = user.id)
    (nick : present.nick? = user.nick?) (username : present.username? = user.username?)
    (stillRegistered : present.registered = true)
    (profileSame : later.profile = server.profile) (users : later.users = server.users)
    (connections : later.connections = server.connections) :
    Registry profile (later.refresh present)
      (Function.update roster user.queue (some present)) := by
  have sameNick : present.nick = user.nick := by rw [User.nick, nick, User.nick]
  have framed : Registry profile later roster :=
    registry.frame profileSame users fun _ contained => connections ▸ contained
  have refreshed := framed.users_refresh here registered id sameNick stillRegistered
  refine registry.replace here queue id (by rw [Server.refresh_profile, profileSame]) ?_ ?_ ?_ ?_
    fun name other => ?_
  · intro slot contained
    rw [Server.refresh_connections, connections]
    exact contained
  · intro _
    rw [nick, username]
    exact registry.complete here registered
  · intro given
    rw [nick]
    exact registry.valid here
  · rw [refreshed]
    refine framed.keyed.modify fun value found => ?_
    rw [framed.found here registered rfl] at found
    cases found
    rw [sameNick]
  · rw [refreshed, users, Directory.find?_modify]
    have own := registry.found here registered rfl
    by_cases same : name.fold = user.nick.fold
    · rw [if_pos same, registry.found here registered same.symm, Option.map_some,
        Option.some.injEq]
      constructor
      · rintro rfl
        exact .inl ⟨rfl, stillRegistered, by rw [sameNick, same]⟩
      · rintro (⟨rfl, _⟩ | ⟨differs, found⟩)
        · rfl
        · cases found
          exact absurd rfl differs
    · rw [if_neg same]
      constructor
      · intro found
        exact .inr ⟨registry.queue_ne here found (Ne.symm same), found⟩
      · rintro (⟨_, _, folded⟩ | ⟨_, found⟩)
        · rw [sameNick] at folded
          exact absurd folded.symm same
        · exact found

theorem contains_advance (server : Server) (id : Nat) (state : ConnectionState) (other : Nat) :
    (server.advance id state).connections.contains other = server.connections.contains other := by
  unfold Server.advance Slab.contains
  rw [Slab.find?_modify]
  split <;> simp

theorem eq_of_not_heldByOther (registry : Registry profile server roster)
    (here : roster user.queue = some user) {nick : Text}
    (free : server.heldByOther user nick = false) {holder : User}
    (found : server.users.find? nick = some holder) : holder = user := by
  obtain ⟨there, _, _⟩ := registry.listed.mp found
  have sameId : holder.id = user.id := by
    simpa [Server.heldByOther, found] using free
  have sameQueue := registry.separate there here sameId
  rw [sameQueue, here] at there
  exact (Option.some.inj there).symm

theorem rename (registry : Registry profile server roster) (here : roster user.queue = some user)
    (registered : user.registered = true) {nick : Text}
    (valid : Nickname.isValid profile.nickLimit nick = true)
    (free : server.heldByOther user nick = false) :
    Registry profile (server.rename user nick)
      (Function.update roster user.queue (some (user.setNick nick))) := by
  refine registry.replace here rfl rfl rfl (fun _ contained => contained) ?_ ?_
    ((registry.keyed.erase _).insert rfl) fun name other => ?_
  · intro _
    obtain ⟨_, username, _, given⟩ := registry.complete here registered
    exact ⟨nick, username, rfl, given⟩
  · intro chosen given
    cases given
    exact valid
  · unfold Server.rename
    rw [Directory.find?_insert]
    by_cases same : name.fold = nick.fold
    · rw [if_pos same, Option.some.injEq]
      constructor
      · rintro rfl
        exact .inl ⟨rfl, registered, same.symm⟩
      · rintro (⟨rfl, _⟩ | ⟨differs, found⟩)
        · rfl
        · -- Whoever is found under the new name is the client itself, as nobody else holds it.
          have foundNick := (Directory.find?_congr same).symm.trans found
          exact absurd (congrArg User.queue (registry.eq_of_not_heldByOther here free foundNick))
            differs
    · rw [if_neg same, Directory.find?_erase]
      by_cases old : name.fold = user.nick.fold
      · rw [if_pos old]
        constructor
        · intro absent
          cases absent
        · rintro (⟨_, _, folded⟩ | ⟨differs, found⟩)
          · exact absurd folded.symm same
          · rw [registry.found here registered old.symm] at found
            cases found
            exact absurd rfl differs
      · rw [if_neg old]
        constructor
        · intro found
          exact .inr ⟨registry.queue_ne here found (Ne.symm old), found⟩
        · rintro (⟨_, _, folded⟩ | ⟨_, found⟩)
          · exact absurd folded.symm same
          · exact found

theorem enroll (registry : Registry profile server roster) (here : roster user.queue = some user)
    (unregistered : user.registered = false) {given : User} {nick username : Text}
    (queue : given.queue = user.queue) (id : given.id = user.id)
    (nickGiven : given.nick? = some nick) (usernameGiven : given.username? = some username)
    (valid : Nickname.isValid profile.nickLimit nick = true)
    (free : server.users.contains nick = false) :
    Registry profile
      ((server.advance user.id .identified).enroll nick { given with registered := true })
      (Function.update roster user.queue (some { given with registered := true })) := by
  have named : User.nick { given with registered := true } = nick := by
    rw [User.nick, nickGiven, Option.getD_some]
  have absent : server.users.find? nick = none := by
    simpa [Directory.contains] using free
  refine registry.replace here queue id rfl ?_ (fun _ => ⟨nick, username, nickGiven, usernameGiven⟩)
    ?_ ?_ fun name other => ?_
  · intro slot contained
    exact (contains_advance _ _ _ slot).trans ((contains_advance _ _ _ slot).trans contained)
  · intro chosen chosenGiven
    rw [← Option.some.inj (nickGiven.symm.trans chosenGiven)]
    exact valid
  · exact registry.keyed.insert (by rw [named])
  · change (server.users.insert nick _).find? name = some other ↔ _
    rw [Directory.find?_insert, named]
    by_cases same : name.fold = nick.fold
    · rw [if_pos same, Option.some.injEq]
      constructor
      · rintro rfl
        exact .inl ⟨rfl, rfl, same.symm⟩
      · rintro (⟨rfl, _⟩ | ⟨_, found⟩)
        · rfl
        · rw [Directory.find?, same] at found
          cases absent.symm.trans found
    · rw [if_neg same]
      constructor
      · intro found
        exact .inr ⟨registry.queue_ne_of_unregistered here unregistered found, found⟩
      · rintro (⟨_, _, folded⟩ | ⟨_, found⟩)
        · exact absurd folded.symm same
        · exact found

theorem act (registry : Registry profile server roster) (here : roster user.queue = some user)
    {message : Message} {reaction : Reaction} (act : Act message server user reaction) :
    Registry profile reaction.server
      (Function.update roster user.queue (some reaction.user)) := by
  have unchanged : Function.update roster user.queue (some user) = roster := by
    rw [← here, Function.update_eq_self]
  have advanced : ∀ slot, server.connections.contains slot = true →
      (server.advance user.id .identified).connections.contains slot = true := by
    intro slot contained
    rw [contains_advance]
    exact contained
  cases act with
  | still =>
      rw [unchanged]
      exact registry
  | marked _ registered =>
      exact registry.refresh here registered rfl rfl rfl rfl registered rfl rfl rfl
  | empowered _ registered =>
      exact registry.refresh here registered rfl rfl rfl rfl registered rfl rfl rfl
  | joined | parted | changed | titled =>
      dsimp only [Handler.entered]
      rw [unchanged]
      exact registry.frame rfl rfl fun _ contained => contained
  | renamed _ registered valid _ free =>
      exact registry.rename here registered (registry.profileEq ▸ valid) free
  | named _ unregistered valid =>
      refine registry.replace_unregistered here rfl rfl unregistered unregistered rfl rfl advanced
        fun nick given => ?_
      cases given
      exact registry.profileEq ▸ valid
  | introduced _ _ unregistered =>
      exact registry.replace_unregistered here rfl rfl unregistered unregistered rfl rfl advanced
        fun nick given => by cases given
  | enrolled unregistered giving nickGiven usernameGiven free =>
      rcases giving with ⟨_, rfl, valid⟩ | ⟨_, _, realname, rfl⟩
      · exact registry.enroll here unregistered rfl rfl nickGiven usernameGiven
          (registry.profileEq ▸ valid) free
      · exact registry.enroll here unregistered rfl rfl nickGiven usernameGiven
          (registry.valid here nickGiven) free

theorem connect (registry : Registry profile server roster) (host : Text) {number : Nat}
    (unused : roster number = none) :
    Registry profile (server.connect host).2
      (Function.update roster number (some (.new (server.connect host).1 host number))) := by
  have fresh : server.connections.find? (server.connect host).1 = none :=
    server.connections.find?_insert_fst _ (.new host)
  have opened : ∀ slot, (server.connect host).2.connections.find? slot =
      if slot = (server.connect host).1 then some (.new host)
      else server.connections.find? slot :=
    server.connections.find?_insert _ _
  -- Slots in use are not given out, so a new client shares its slot with nobody.
  have otherSlot : ∀ {other user}, roster other = some user →
      user.id ≠ (server.connect host).1 := by
    intro other user found same
    have contained := registry.connected found
    rw [same, Slab.contains, fresh] at contained
    cases contained
  refine ⟨registry.profileEq, ?_, ?_, ?_, ?_, ?_, registry.keyed, ?_⟩
  · intro other user found
    rcases Roster.of_update found with ⟨rfl, rfl⟩ | ⟨_, old⟩
    · rfl
    · exact registry.numbered old
  · intro first second user holder found secondFound same
    rcases Roster.of_update found with ⟨rfl, rfl⟩ | ⟨_, old⟩ <;>
      rcases Roster.of_update secondFound with ⟨rfl, rfl⟩ | ⟨_, secondOld⟩
    · rfl
    · exact absurd same.symm (otherSlot secondOld)
    · exact absurd same (otherSlot old)
    · exact registry.separate old secondOld same
  · intro other user found
    rw [Slab.contains, opened]
    rcases Roster.of_update found with ⟨rfl, rfl⟩ | ⟨_, old⟩
    · simp [User.new]
    · rw [if_neg (otherSlot old)]
      exact registry.connected old
  · intro other user found registered
    rcases Roster.of_update found with ⟨rfl, rfl⟩ | ⟨_, old⟩
    · cases registered
    · exact registry.complete old registered
  · intro other user nick found given
    rcases Roster.of_update found with ⟨rfl, rfl⟩ | ⟨_, old⟩
    · cases given
    · exact registry.valid old given
  · intro name user
    change server.users.find? name = some user ↔ _
    rw [registry.listed, Function.update_apply]
    split
    · rename_i here
      constructor
      · rintro ⟨old, _⟩
        rw [here, unused] at old
        cases old
      · rintro ⟨new, registered, _⟩
        cases new
        cases registered
    · rfl

theorem depart (registry : Registry profile server roster)
    (here : roster user.queue = some user.settled) (error : Option Text) :
    Registry profile (server.depart user error).1 (Function.update roster user.queue none) := by
  refine ⟨?_, ?_, ?_, ?_, ?_, ?_, ?_, ?_⟩
  · exact (Server.profile_depart server user error).trans registry.profileEq
  · intro other holder found
    exact registry.numbered (Roster.of_update_none found).2
  · intro first second one another found secondFound same
    exact registry.separate (Roster.of_update_none found).2 (Roster.of_update_none secondFound).2 same
  · intro other holder found
    obtain ⟨differs, old⟩ := Roster.of_update_none found
    have slots : holder.id ≠ user.id := fun same => differs (registry.separate old here same)
    rw [Server.connections_depart, Slab.contains, Slab.find?_erase, if_neg slots]
    exact registry.connected old
  · intro other holder found
    exact registry.complete (Roster.of_update_none found).2
  · intro other holder nick found
    exact registry.valid (Roster.of_update_none found).2
  · rw [Server.users_depart]
    split
    · exact registry.keyed.erase _
    · exact registry.keyed
  · intro name holder
    rw [Server.users_depart, Function.update_apply]
    by_cases registered : user.registered = true
    · rw [if_pos registered, Directory.find?_erase]
      have own : ∀ label : Text, user.nick.fold = label.fold →
          server.users.find? label = some user.settled :=
        fun label same => registry.found here registered same
      by_cases same : name.fold = user.nick.fold
      · rw [if_pos same]
        constructor
        · intro absent
          cases absent
        · rintro ⟨found, holderRegistered, folded⟩
          split at found
          · cases found
          · rename_i differs
            have listed := registry.listed.mpr ⟨found, holderRegistered, folded⟩
            rw [own name same.symm] at listed
            cases listed
            exact absurd rfl differs
      · rw [if_neg same]
        constructor
        · intro found
          have differs := registry.queue_ne here found (Ne.symm same)
          rw [if_neg differs]
          exact registry.listed.mp found
        · rintro ⟨found, holderRegistered, folded⟩
          split at found
          · cases found
          · exact registry.listed.mpr ⟨found, holderRegistered, folded⟩
    · have unregistered : user.settled.registered = false := eq_false_of_ne_true registered
      rw [if_neg registered]
      constructor
      · intro found
        rw [if_neg (registry.queue_ne_of_unregistered here unregistered found)]
        exact registry.listed.mp found
      · rintro ⟨found, holderRegistered, folded⟩
        split at found
        · cases found
        · exact registry.listed.mpr ⟨found, holderRegistered, folded⟩

theorem kept (profile : Profile) (allowed : Event → Prop) :
    Kept profile allowed (Registry profile) where
  new := by
    refine ⟨rfl, ?_, ?_, ?_, ?_, ?_, Directory.Keyed.empty, ?_⟩ <;> simp [Server.new]
  connect _ registry unused := registry.connect _ unused
  act _ registry here act := registry.act here act
  depart error registry here := registry.depart here error

end Registry

end IrcServer
