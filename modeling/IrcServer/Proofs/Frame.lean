import IrcServer.Proofs.Changes
import IrcServer.Proofs.Others
import IrcServer.Proofs.Progress
import IrcServer.Proofs.Provenance

namespace IrcServer

/-! What a client's message leaves as it was.

`Spares` says it for everybody and everything else on the network.  It is read off `Aftermath`: the
server agrees with the clients before the message and after it, the records of the others are the
same, and in every channel the members besides the client are as they were. -/

/-- The message asks for this channel and this flag of a member, as the channel's modes go. -/
def Message.Flags (message : Message) (label nick : Text) (flag : Bool) : Prop :=
  message.verb = .command .mode ∧ label.fold = (message.param 0).fold ∧
    ∃ name ∈ message.params.drop 2, name.fold = nick.fold ∧
      .ok ⟨flag, name⟩ ∈ Mode.channelChanges (message.param 1) (message.params.drop 2)

/-- The message has a topic for this channel. -/
def Message.Titles (message : Message) (label : Text) : Prop :=
  message.verb = .command .topic ∧ label.fold = (message.param 0).fold ∧
    ∃ title, message.params[1]? = some title

/-- A change of the channels that has no flag or topic but by MODE and TOPIC of who may. -/
structure Lawful (message : Message) (user : User) (server later : Server) : Prop where
  flags : message.verb = .command .mode → ∀ {label new member},
    later.channels.find? label = some new → member ∈ new.members →
      ∃ old, server.channels.find? label = some old ∧ ∃ was ∈ old.members,
        was.nick = member.nick ∧ (member.operator = was.operator ∨
          message.Flags label member.nick member.operator ∧
            (user.operator = true ∨ old.isOperator user.nick = true))
  topics : message.verb = .command .topic → ∀ {label old new},
    server.channels.find? label = some old → later.channels.find? label = some new →
      new.topic = old.topic ∨ message.Titles label ∧ user.registered = true ∧
        old.isMember user.nick = true

theorem Lawful.refl (message : Message) (user : User) (server : Server) :
    Lawful message user server server := by
  refine ⟨fun _ {label new member} known present => ?_, fun _ {label old new} found known => ?_⟩
  · exact ⟨new, known, member, present, rfl, .inl rfl⟩
  · cases found.symm.trans known
    exact .inl rfl

/-- A departure changes no flag and no topic. -/
theorem Lawful.depart {message : Message} {user : User} {server later : Server}
    (lawful : Lawful message user server later) (gone : User) (error : Option Text) :
    Lawful message user server (later.depart gone error).1 := by
  refine ⟨fun asked {label new member} known present => ?_,
    fun asked {label old new} found known => ?_⟩
  · obtain ⟨mid, between, members, rfl, kept⟩ := Server.of_find?_depart known
    exact lawful.flags asked between (kept present)
  · obtain ⟨mid, between, members, rfl, _⟩ := Server.of_find?_depart known
    have titled := lawful.topics asked found between
    exact titled

theorem Handler.handle_lawful {profile : Profile} {server : Server} {roster : Roster}
    (consistent : Consistent profile server roster) (message : Message) (user : User) :
    Lawful message user server (handle message server user).server := by
  refine ⟨fun asked {label new member} known present => ?_,
    fun asked {label old new} found known => ?_⟩
  · rcases handle_mode asked with same | ⟨channel, changes, found, valid, _, authority, same⟩
    · rw [same] at known
      exact (Lawful.refl message user server).flags asked known present
    · rw [same] at known
      obtain ⟨old, before, was, listed, sameNick, either⟩ :=
        forEach_changeMode (fun _ found => (consistent.sound found).distinct) known present
      refine ⟨old, before, was, listed, sameNick, either.imp_right ?_⟩
      rintro ⟨here, change, made, named, given⟩
      have one : old = channel := by
        rw [Directory.find?_congr here, found] at before
        exact (Option.some.inj before).symm
      have ordered := Mode.of_validate valid change made
      refine ⟨⟨asked, here, change.nick, Mode.nick_of_channelChanges ordered, named, ?_⟩,
        one ▸ authority⟩
      rw [← given]
      exact ordered
  · rcases handle_topic asked with same | ⟨title, channel, given, listed, registered, present, same⟩
    · rw [same] at known
      exact (Lawful.refl message user server).topics asked found known
    · rw [same, Server.find?_setChannel] at known
      split at known
      · rename_i here
        have one : old = channel := by
          rw [Directory.find?_congr here, listed] at found
          exact (Option.some.inj found).symm
        exact .inr ⟨⟨asked, here, title, given⟩, registered, one ▸ present⟩
      · cases found.symm.trans known
        exact .inl rfl

namespace Network

/-- The nicknames of those in a channel other than the client, in the order in which they came. -/
def othersIn (network : Network) (number : Nat) (label : Text) : List Text :=
  (besides (network.roster number) (network.server.channels.find? label)).map Member.nick

/-- The client is in the channel of that name. -/
def attends (network : Network) (number : Nat) (label : Text) : Bool :=
  (network.server.channels.find? label).any (network.isIn number)

/-- What a message of a client leaves as it was on the network. -/
structure Spares (network : Network) (number : Nat) (client : Client) (message : Message)
    (later : Network) : Prop where
  clients : ∀ {other}, other ≠ number → later.client? other = network.client? other
  users : ∀ {entry : Text × User}, entry.2.queue ≠ number →
    (entry ∈ later.server.users.entries ↔ entry ∈ network.server.users.entries)
  connections : ∀ {other holder}, other ≠ number → network.roster other = some holder →
    later.server.connections.find? holder.id = network.server.connections.find? holder.id
  memberships : ∀ {other}, other ≠ number → ∀ label,
    later.attends other label = network.attends other label
  order : ∀ label, later.othersIn number label = network.othersIn number label
  /-- Flags of others change by MODE of a client that may give them. -/
  flags : ∀ {other label flag now}, other ≠ number → network.HasFlag other label flag →
    later.HasFlag other label now → now = flag ∨
      ∃ holder channel, network.roster other = some holder ∧
        message.Flags label holder.nick now ∧
        network.server.channels.find? label = some channel ∧
        (client.user.operator = true ∨ channel.isOperator client.user.nick = true)
  names : ∀ {label old new}, network.server.channels.find? label = some old →
    later.server.channels.find? label = some new → new.name = old.name
  /-- Topics change by TOPIC of a member. -/
  topics : ∀ {label old new}, network.server.channels.find? label = some old →
    later.server.channels.find? label = some new → new.topic = old.topic ∨
      message.Titles label ∧ network.isIn number old = true
  /-- A channel is given up when its client was the only one in it. -/
  vanished : ∀ {label old}, network.server.channels.find? label = some old →
    later.server.channels.find? label = none →
      client.user.registered = true ∧ ∃ flag, old.members = [⟨client.user.nick, flag⟩]

/-- The network before a message of a client and after it. -/
structure Aftermath (profile : Profile) (network : Network) (number : Nat) (client : Client)
    (message : Message) (later : Network) (roster : Roster) : Prop where
  found : network.client? number = some client
  live : client.live = true
  before : Consistent profile network.server network.roster
  progressing : Progressing profile network.server network.roster
  clients : ∀ {other}, other ≠ number → later.client? other = network.client? other
  after : Consistent profile later.server roster
  progressingAfter : Progressing profile later.server roster
  others : ∀ {other}, other ≠ number → roster other = network.roster other
  /-- The name that the client has afterwards is its own. -/
  apart : ∀ {other holder user}, other ≠ number → network.roster other = some holder →
    holder.registered = true → later.roster number = some user → user.registered = true →
      holder.nick.fold ≠ user.nick.fold
  kept : ∀ label, OthersKept message.verb (network.roster number) (later.roster number)
    (network.server.channels.find? label) (later.server.channels.find? label)
  lawful : Lawful message client.user network.server later.server

section Attends

variable {network : Network} {number other : Nat} {holder : User}

theorem roster_congr {later : Network} (same : later.client? other = network.client? other) :
    later.roster other = network.roster other := by
  rw [roster, same, roster]

/-- Somebody else in a channel is not taken for the client. -/
theorem mem_besides {who : Option User} {channel : Channel} {member : Member}
    (apart : ∀ user, who = some user → user.registered = true → member.key ≠ user.nick.fold) :
    member ∈ besides who (some channel) ↔ member ∈ channel.members := by
  have other : member.isOwn who = false := by
    cases known : who with
    | none => rfl
    | some user =>
        cases registered : user.registered with
        | false => simp [Member.isOwn, registered]
        | true => simp [Member.isOwn, apart user known registered]
  simp [besides, other]

theorem attends_iff (there : network.roster other = some holder)
    (registered : holder.registered = true)
    (apart : ∀ user, network.roster number = some user → user.registered = true →
      holder.nick.fold ≠ user.nick.fold) (label : Text) :
    network.attends other label = true ↔
      holder.nick.fold ∈ (network.othersIn number label).map Text.fold := by
  rw [attends, othersIn, List.map_map, List.mem_map]
  cases network.server.channels.find? label with
  | none => simp [besides]
  | some channel =>
      rw [Option.any_some, isIn_of_roster there registered, Channel.isMember, any_isNamed_iff]
      refine exists_congr fun member => and_congr_left fun same => ?_
      exact (mem_besides fun user known given own =>
        apart user known given (same.symm.trans own)).symm

theorem attends_eq_false (unregistered : ∀ holder, network.roster other = some holder →
    holder.registered = false) (label : Text) : network.attends other label = false := by
  rw [attends]
  cases network.server.channels.find? label with
  | none => rfl
  | some channel =>
      rw [Option.any_some, isIn]
      cases there : network.roster other with
      | none => rfl
      | some holder => simp [unregistered holder there]

end Attends

namespace Aftermath

variable {profile : Profile} {network later : Network} {number : Nat} {client : Client}
  {message : Message} {roster : Roster}

theorem here (aftermath : Aftermath profile network number client message later roster) :
    network.roster number = some client.user :=
  roster_of_client aftermath.found aftermath.live

theorem apart_before (aftermath : Aftermath profile network number client message later roster)
    {other : Nat} {holder user : User} (differs : other ≠ number)
    (there : network.roster other = some holder) (registered : holder.registered = true)
    (own : network.roster number = some user) (known : user.registered = true) :
    holder.nick.fold ≠ user.nick.fold := by
  have queue := aftermath.before.registry.numbered own
  exact aftermath.before.fold_ne there (queue.symm ▸ own) (queue.symm ▸ differs) known registered

theorem roster_other (aftermath : Aftermath profile network number client message later roster)
    {other : Nat} (differs : other ≠ number) : later.roster other = network.roster other :=
  roster_congr (aftermath.clients differs)

theorem users (aftermath : Aftermath profile network number client message later roster)
    {entry : Text × User} (differs : entry.2.queue ≠ number) :
    entry ∈ later.server.users.entries ↔ entry ∈ network.server.users.entries := by
  have before := aftermath.before.registry
  have after := aftermath.after.registry
  rw [after.keyed.mem_entries_iff, before.keyed.mem_entries_iff, after.listed, before.listed,
    aftermath.others differs]

theorem connections (aftermath : Aftermath profile network number client message later roster)
    {other : Nat} {holder : User} (differs : other ≠ number)
    (there : network.roster other = some holder) :
    later.server.connections.find? holder.id = network.server.connections.find? holder.id := by
  have still : roster other = some holder := (aftermath.others differs).trans there
  rw [aftermath.progressingAfter.connected still, aftermath.progressing.connected there]

theorem order (aftermath : Aftermath profile network number client message later roster)
    (label : Text) : later.othersIn number label = network.othersIn number label :=
  (aftermath.kept label).nicks

theorem memberships (aftermath : Aftermath profile network number client message later roster)
    {other : Nat} (differs : other ≠ number) (label : Text) :
    later.attends other label = network.attends other label := by
  have same := aftermath.roster_other differs
  by_cases known : ∃ holder, network.roster other = some holder ∧ holder.registered = true
  · obtain ⟨holder, there, registered⟩ := known
    rw [Bool.eq_iff_iff, attends_iff (same.trans there) registered
        (fun user own given => aftermath.apart differs there registered own given),
      attends_iff there registered
        (fun user own given => aftermath.apart_before differs there registered own given),
      aftermath.order]
  · have unregistered : ∀ holder, network.roster other = some holder →
        holder.registered = false :=
      fun holder there => eq_false_of_ne_true fun given => known ⟨holder, there, given⟩
    rw [attends_eq_false unregistered, attends_eq_false (same.symm ▸ unregistered)]

theorem flags (aftermath : Aftermath profile network number client message later roster)
    {other : Nat} {label : Text} {flag now : Bool} (differs : other ≠ number)
    (has : network.HasFlag other label flag) (hasNow : later.HasFlag other label now) :
    now = flag ∨ ∃ holder channel, network.roster other = some holder ∧
      message.Flags label holder.nick now ∧
      network.server.channels.find? label = some channel ∧
      (client.user.operator = true ∨ channel.isOperator client.user.nick = true) := by
  obtain ⟨present, channel, member, known, live, registered, found, listed, named, rfl⟩ := has
  obtain ⟨again, new, latest, knownNow, _, _, foundNow, listedNow, namedNow, rfl⟩ := hasNow
  rw [aftermath.clients differs, known] at knownNow
  cases knownNow
  have there := roster_of_client known live
  have distinct := (aftermath.before.sound found).distinct
  have sameNick : latest.nick = member.nick := namedNow.trans named.symm
  by_cases asked : message.verb = .command .mode
  · obtain ⟨old, before, was, listedBefore, wasNamed, either⟩ :=
      aftermath.lawful.flags asked foundNow listedNow
    rw [found] at before
    cases before
    -- No other member has the nickname, so it is the same one that had the flag before.
    have one : was = member := distinct.eq_of_key_eq listedBefore listed
      (congrArg Text.fold (wasNamed.trans sameNick))
    refine either.imp (fun same => one ▸ same) fun given => ?_
    exact ⟨present.user, channel, there, namedNow ▸ given.1, found, given.2⟩
  · have apart : ∀ user, network.roster number = some user → user.registered = true →
        member.key ≠ user.nick.fold := by
      intro user own given same
      refine aftermath.apart_before differs there registered own given ?_
      rw [← named]
      exact same
    have still : member ∈ besides (later.roster number) (some new) := by
      rw [← foundNow, (aftermath.kept label).flags asked, found]
      exact (mem_besides apart).mpr listed
    have one : latest = member :=
      (aftermath.after.sound foundNow).distinct.eq_of_key_eq listedNow
        (List.mem_filter.mp still).1 (congrArg Text.fold sameNick)
    exact .inl (congrArg Member.operator one)

theorem topics (aftermath : Aftermath profile network number client message later roster)
    {label : Text} {old new : Channel} (found : network.server.channels.find? label = some old)
    (known : later.server.channels.find? label = some new) :
    new.topic = old.topic ∨ message.Titles label ∧ network.isIn number old = true := by
  by_cases asked : message.verb = .command .topic
  · refine (aftermath.lawful.topics asked found known).imp_right ?_
    rintro ⟨titles, registered, present⟩
    exact ⟨titles, (isIn_of_roster aftermath.here registered old).trans present⟩
  · exact .inl (((aftermath.kept label).same found known).2 asked)

theorem vanished (aftermath : Aftermath profile network number client message later roster)
    {label : Text} {old : Channel} (found : network.server.channels.find? label = some old)
    (gone : later.server.channels.find? label = none) :
    client.user.registered = true ∧ ∃ flag, old.members = [⟨client.user.nick, flag⟩] := by
  have sound := aftermath.before.sound found
  have nobody := (aftermath.kept label).nicks
  rw [gone, found, aftermath.here] at nobody
  have own : ∀ member ∈ old.members, client.user.registered = true ∧
      member.nick = client.user.nick := by
    intro member listed
    have itself : member.isOwn (some client.user) = true := by
      by_contra other
      have left : member ∈ besides (some client.user) (some old) :=
        List.mem_filter.mpr ⟨listed, by simpa using other⟩
      rw [List.map_eq_nil_iff.mp nobody.symm] at left
      cases left
    rw [Member.isOwn, Option.any_some, Bool.and_eq_true, decide_eq_true_eq] at itself
    obtain ⟨registered, same⟩ := itself
    obtain ⟨holder, there, known, named⟩ := aftermath.before.client_of_member found listed
    have one := aftermath.before.registry.eq_of_fold_eq there aftermath.here known registered
      ((congrArg Text.fold named).trans same)
    exact ⟨registered, by rw [← named, one]⟩
  obtain ⟨first, rest, shape⟩ := List.exists_cons_of_ne_nil sound.inhabited
  rw [shape] at own
  obtain ⟨⟨registered, firstOwn⟩, restOwn⟩ := List.forall_mem_cons.mp own
  refine ⟨registered, first.operator, ?_⟩
  have alone : rest = [] := by
    refine List.eq_nil_iff_forall_not_mem.mpr fun second listed => ?_
    have distinct := sound.distinct
    rw [shape] at distinct
    refine (List.nodup_cons.mp distinct).1 (List.mem_map.mpr ⟨second, listed, ?_⟩)
    exact congrArg Text.fold ((restOwn second listed).2.trans firstOwn.symm)
  rw [shape, alone, ← firstOwn]

theorem spares (aftermath : Aftermath profile network number client message later roster) :
    network.Spares number client message later where
  clients := aftermath.clients
  users := aftermath.users
  connections := aftermath.connections
  memberships := aftermath.memberships
  order := aftermath.order
  flags := aftermath.flags
  names found known := ((aftermath.kept _).same found known).1
  topics := aftermath.topics
  vanished := aftermath.vanished

end Aftermath

section Handled

variable {profile : Profile} {events : List Event} {network : Network} {number : Nat}
  {client : Client}

/-- What holds once the message has been handled, whether its client stays or not. -/
theorem aftermath_reacted (reached : (new profile).after events = network)
    (found : network.client? number = some client) (live : client.live = true)
    (message : Message) :
    let reaction := Handler.handle message network.server client.user
    Aftermath profile network number client message (network.reacted number client reaction)
      (Function.update network.roster number (some reaction.user.settled)) := by
  intro reaction
  have before : Consistent profile network.server network.roster :=
    reached ▸ consistent_after profile events
  have progressing : Progressing profile network.server network.roster :=
    reached ▸ progressing_after profile events
  have orderly : network.Orderly := reached ▸ orderly_after profile events
  have acts := Handler.handle_acts message network.server client.user
  have after := (Consistent.kept profile fun _ => True).reacted reached found live message
  have progressingAfter :=
    (Progressing.kept profile fun _ => True).reacted reached found live message
  have present : (network.reacted number client reaction).roster number = some reaction.user := by
    rw [roster_reacted found live, Function.update_self]
  refine ⟨found, live, before, progressing, fun {other} differs => ?_, after, progressingAfter,
    fun differs => Function.update_of_ne differs _ _, fun {other holder user} differs there known
      own registered => ?_, fun label => ?_, Handler.handle_lawful before message client.user⟩
  · rw [client?_reacted found, if_neg differs]
  · rw [present] at own
    cases own
    have settled : reaction.user.settled.queue = number :=
      acts.queue.trans (orderly number client found).1
    have thereAfter : Function.update network.roster number (some reaction.user.settled) other =
        some holder := by rw [Function.update_of_ne differs, there]
    have ownAfter : Function.update network.roster number (some reaction.user.settled)
        reaction.user.settled.queue = some reaction.user.settled := by
      rw [settled, Function.update_self]
    have different : holder.nick.fold ≠ reaction.user.settled.nick.fold :=
      after.fold_ne thereAfter ownAfter (settled.symm ▸ differs) registered known
    exact different
  · rw [present, roster_of_client found live]
    exact acts.othersKept before (orderly.here found live) label

/-- What holds once the message has been handled and its client is gone if it has to go. -/
theorem aftermath_handle (reached : (new profile).after events = network)
    (found : network.client? number = some client) (live : client.live = true)
    (message : Message) :
    Aftermath profile network number client message
      (network.handle number client message).network
      (network.handle number client message).network.roster := by
  have heard := aftermath_reacted reached found live message
  have later : (new profile).after (events ++ [.said number message]) =
      (network.handle number client message).network := by
    rw [after_append, reached, step_said found live]
  have after : Consistent profile (network.handle number client message).network.server
      (network.handle number client message).network.roster :=
    later ▸ consistent_after profile (events ++ [.said number message])
  have clients : ∀ {other}, other ≠ number →
      (network.handle number client message).network.client? other = network.client? other := by
    intro other differs
    rw [client?_handle message found]
    exact if_neg differs
  refine ⟨found, live, heard.before, heard.progressing, clients, after,
    later ▸ progressing_after profile (events ++ [.said number message]),
    fun differs => roster_congr (clients differs), fun {other holder user} differs there known
      own registered => ?_, fun label => ?_, ?_⟩
  · have queue := after.registry.numbered own
    exact after.fold_ne ((roster_congr (clients differs)).trans there) (queue.symm ▸ own)
      (queue.symm ▸ differs) registered known
  · have reacted := heard.kept label
    rw [roster_reacted found live, Function.update_self] at reacted
    rw [roster_handle message found live, Function.update_self, server_handle]
    dsimp only
    split
    · have parting := parting_reacted reached found live message
      exact reacted.trans (parting.othersKept none label).of_quit
        fun absent => .inr (Server.find?_depart_of_none absent)
    · exact reacted
  · rw [server_handle]
    dsimp only
    split
    · exact heard.lawful.depart _ _
    · exact heard.lawful

end Handled

/-- A message of a client touches only what is its own, and so does its departure if the message
makes it depart.  Messages that ask or talk change no channel and no connection. -/
theorem message_touches_own (profile : Profile) (events : List Event) {number : Nat}
    {client : Client} (found : ((new profile).after events).client? number = some client)
    (live : client.live = true) (message : Message) :
    let network := (new profile).after events
    let reaction := Handler.handle message network.server client.user
    let outcome := network.step (.said number message)
    network.Spares number client message (network.reacted number client reaction) ∧
      network.Spares number client message outcome.network ∧
      ((∃ command ∈ [Command.away, .list, .lusers, .motd, .names, .oper, .ping, .pong, .privmsg,
            .notice, .whois], message.verb = .command command) ∨
          message.verb = .command .topic ∧ message.params[1]? = none →
        (reaction.server.channels = network.server.channels ∧
          reaction.server.connections = network.server.connections) ∧
        (outcome.closed = false →
          outcome.network.server.channels = network.server.channels ∧
          outcome.network.server.connections = network.server.connections)) := by
  intro network reaction outcome
  have handled : outcome = network.handle number client message := step_said found live
  refine ⟨(aftermath_reacted rfl found live message).spares, ?_, fun quiet => ?_⟩
  · rw [handled]
    exact (aftermath_handle rfl found live message).spares
  · have calm : reaction.server.channels = network.server.channels ∧
        reaction.server.connections = network.server.connections :=
      Handler.handle_calm quiet
    refine ⟨calm, fun stays => ?_⟩
    have server : outcome.network.server = reaction.server := by
      rw [handled, handle_eq] at stays ⊢
      dsimp only at stays ⊢
      split at stays
      · cases stays
      · rename_i open_
        rw [if_neg open_]
        rfl
    rw [server]
    exact calm

/-- Who opened a channel quits, and the other stays in it as before. -/
theorem touch_of_teaRun :
    let network := (new teaProfile).after teaRun
    let outcome := network.step (.said 0 ⟨none, .command .quit, ["bye"], true⟩)
    (network.client? 0).map Client.live = some true ∧ network.attends 0 "#tea" = true ∧
      outcome.closed = true ∧ outcome.network.attends 0 "#tea" = false ∧
      outcome.network.attends 1 "#Tea" = true ∧
      outcome.network.othersIn 0 "#tea" = [("Bert" : Text)] := by
  intro network outcome
  have leaver : (network.client? 0).map Client.live = some true := by decide +kernel
  obtain ⟨client, found, live⟩ := Option.map_eq_some_iff.mp leaver
  have spares := (message_touches_own teaProfile teaRun found live
    ⟨none, .command .quit, ["bye"], true⟩).2.1
  refine ⟨leaver, by decide +kernel, by decide +kernel, by decide +kernel, ?_, ?_⟩
  · rw [spares.memberships (by decide)]
    decide +kernel
  · rw [spares.order]
    decide +kernel

end Network

end IrcServer
