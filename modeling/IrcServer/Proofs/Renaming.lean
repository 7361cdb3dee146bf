import IrcServer.Proofs.Departure

namespace IrcServer

/-! What a registered client's change of nickname comes to.

The old name gives way to the new one in the user directory and in every channel at once, and
everything else stays.  The new name is refused only if another client holds it, so that a client
may change the case of its own name. -/

/-- The channel with a user's membership under another nickname. -/
def Channel.renamedBy (user : User) (nick : Text) (channel : Channel) : Channel :=
  { channel with
    members := channel.members.map fun member =>
      if member.nick = user.nick then { member with nick } else member }

/-- What everybody concerned reads when a client has changed its nickname. -/
theorem User.wire_nick (user : User) {nick : Text} (isWord : nick.IsWord) :
    (user.line .nick [.word nick] none).wire =
      Line.cut (':' :: user.fullName ++ " NICK " ++ nick) ++ crlf := by
  have words : (" NICK " : Text) = ' ' :: Command.name .nick ++ [' '] := by decide
  rw [Line.wire, user.raw_line, words]
  simp [isWord.raw_eq, Line.rawText]

namespace Handler

variable {server : Server} {user : User} {name : Text}

/-- A good new nickname of a registered client is turned down only for another client's sake. -/
theorem nick_of_registered (registered : user.registered = true)
    (valid : Nickname.isValid server.profile.nickLimit name = true) (differs : user.nick ≠ name) :
    nick name server user =
      if server.heldByOther user name then refuse [.nicknameInUse name] server user
      else
        { server := server.rename user name
          user := user.setNick name
          relayed := (server.rename user name).relay
            (peersIn (server.renamedChannels user name) name) (user.line .nick [.word name] none)
          replies := [user.line .nick [.word name] none]
          verdict := .accepted } := by
  rw [nick, if_neg (Nickname.ne_nil_of_isValid valid), valid, if_neg (by simp),
    if_pos registered, nextNick, if_neg differs]

end Handler

namespace Network

/-- A live client other than `number` is registered under the nickname. -/
def HeldByOther (network : Network) (number : Nat) (nick : Text) : Prop :=
  ∃ other holder, other ≠ number ∧ network.roster other = some holder ∧
    holder.registered = true ∧ holder.nick.fold = nick.fold

variable {profile : Profile} {network : Network} {number : Nat} {user : User} {nick : Text}

/-- The server asks whose slot the name belongs to, which comes to whose name it is. -/
theorem heldByOther_iff (registry : Registry profile network.server network.roster)
    (here : network.roster number = some user) :
    network.server.heldByOther user nick = true ↔ network.HeldByOther number nick := by
  constructor
  · intro held
    rw [Server.heldByOther, Option.any_eq_true] at held
    obtain ⟨holder, found, differs⟩ := held
    obtain ⟨there, registered, named⟩ := registry.listed.mp found
    refine ⟨holder.queue, holder, ?_, there, registered, named⟩
    intro same
    rw [same, here] at there
    cases there
    simp at differs
  · rintro ⟨other, holder, differs, there, registered, named⟩
    have slots : holder.id ≠ user.id := fun same => differs (registry.separate there here same)
    rw [Server.heldByOther, registry.found there registered named]
    simpa using slots

section Renamed

variable (consistent : Consistent profile network.server network.roster)
  (here : network.roster number = some user) (registered : user.registered = true)

include consistent here registered

theorem users_rename (free : network.server.heldByOther user nick = false) :
    (network.server.rename user nick).users.entries =
      network.server.users.entries.filter (fun entry => entry.2.queue ≠ number) ++
        [(nick.fold, user.setNick nick)] := by
  have registry := consistent.registry
  have queue := registry.numbered here
  refine congrArg (· ++ _) ?_
  change List.filter _ (List.filter _ _) = _
  rw [List.filter_filter]
  refine List.filter_congr fun entry member => ?_
  have own := registry.key_eq_iff here registered member
  have new : entry.1 = nick.fold → entry.2.queue = number := by
    intro same
    obtain ⟨key, listed⟩ := registry.keyed.mem_entries_iff.mp member
    rw [Directory.find?_congr (key.symm.trans same)] at listed
    rw [registry.eq_of_not_heldByOther (queue.symm ▸ here) free listed, queue]
  by_cases same : entry.2.queue = number
  · simp [own.mpr same, same]
  · simp [mt own.mp same, mt new same, same]

theorem channels_rename :
    (network.server.rename user nick).channels.entries =
      network.server.channels.entries.map fun entry =>
        (entry.1, entry.2.renamedBy user nick) := by
  refine List.map_congr_left fun entry member => Prod.ext rfl ?_
  obtain ⟨_, found⟩ := consistent.keyed.mem_entries_iff.mp member
  change (entry.2.rename user.nick nick).2 = _
  rw [Channel.rename_snd (consistent.sound found).distinct]
  refine congrArg (fun members => { entry.2 with members }) (List.map_congr_left ?_)
  intro member present
  simp only [consistent.key_eq_iff here registered found present]

/-- The peers are looked up by the names that they have after the change. -/
theorem mem_peersIn_renamed_iff {other : Nat} {holder : User} (differs : other ≠ number)
    (there : network.roster other = some holder)
    (free : network.server.heldByOther user nick = false) :
    holder.registered = true ∧ holder.nick.fold ∈
        (peersIn (network.server.renamedChannels user nick) nick).map Text.fold ↔
      network.shares number other = true := by
  have queue := consistent.registry.numbered here
  have stays : ∀ channel ∈ network.server.channels.values, holder.registered = true →
      ((channel.rename user.nick nick).2.isMember holder.nick = true ↔
        channel.isMember holder.nick = true) := fun channel listed known =>
    consistent.isMember_renamed_other there (queue.symm ▸ here) (queue.symm ▸ differs) registered
      free (consistent.keyed.mem_values_iff.mp listed) known
  rw [mem_peersIn_iff, shares_iff]
  constructor
  · rintro ⟨known, ⟨_, renamed, present⟩, _⟩
    obtain ⟨channel, member, rfl⟩ := List.mem_map.mp renamed
    obtain ⟨listed, shared⟩ := List.mem_filter.mp member
    refine ⟨channel, listed, ?_, ?_⟩
    · rwa [isIn_of_roster here registered]
    · rwa [isIn_of_roster there known, ← stays channel listed known]
  · rintro ⟨channel, listed, shared, present⟩
    rw [isIn_of_roster here registered] at shared
    rw [isIn, there, Option.any_some, Bool.and_eq_true] at present
    obtain ⟨known, present⟩ := present
    refine ⟨known, ⟨_, List.mem_map.mpr ⟨channel, List.mem_filter.mpr ⟨listed, shared⟩, rfl⟩,
      (stays channel listed known).mpr present⟩, ?_⟩
    intro folded
    exact absurd ((heldByOther_iff consistent.registry here).mpr
      ⟨other, holder, differs, there, known, folded⟩) (by simp [free])

/-- Whoever shares a channel with the client, or many, is told once. -/
theorem linesTo_rename (valid : Nickname.isValid profile.nickLimit nick = true)
    (free : network.server.heldByOther user nick = false) (line : Line) (other : Nat) :
    linesTo other ((network.server.rename user nick).relay
        (peersIn (network.server.renamedChannels user nick) nick) line) =
      if other ≠ number ∧ network.shares number other = true then [line] else [] := by
  have queue := consistent.registry.numbered here
  have registry := consistent.registry.rename (queue.symm ▸ here) registered valid free
  have distinct := distinct_peersIn (network.server.renamedChannels user nick) nick
  by_cases same : other = number
  · have there : Function.update network.roster user.queue (some (user.setNick nick)) other =
        some (user.setNick nick) := by rw [same, queue, Function.update_self]
    rw [registry.linesTo_relay there distinct, if_neg, if_neg fun both => both.1 same]
    exact fun both => (mem_peersIn_iff.mp both.2).2 rfl
  have elsewhere : Function.update network.roster user.queue (some (user.setNick nick)) other =
      network.roster other := Function.update_of_ne (queue.symm ▸ same) _ _
  cases there : network.roster other with
  | none =>
      rw [registry.linesTo_relay_absent (elsewhere.trans there), if_neg]
      rintro ⟨_, shared⟩
      obtain ⟨channel, _, _, present⟩ := shares_iff.mp shared
      rw [isIn, there] at present
      cases present
  | some holder =>
      rw [registry.linesTo_relay (elsewhere.trans there) distinct]
      refine if_congr ?_ rfl rfl
      rw [and_iff_right same]
      exact mem_peersIn_renamed_iff consistent here registered same there free

end Renamed

/-- A registered client asks for another nickname, which is a valid one, and its queue is open. -/
structure Renames (network : Network) (number : Nat) (client : Client) (message : Message)
    (nick : Text) (more : List Text) : Prop
    extends network.Gives number client message .nick nick more where
  valid : Nickname.isValid network.server.profile.nickLimit nick = true
  differs : client.user.nick ≠ nick

namespace Renames

variable {client : Client} {message : Message} {more : List Text}
  (renames : network.Renames number client message nick more)

include renames

theorem handle_nick :
    Handler.handle message network.server client.user =
      Handler.nick nick network.server client.user := by
  rw [renames.handled (by decide) (by decide)]
  exact congrArg (fun name => Handler.nick name network.server client.user) renames.first

variable (orderly : network.Orderly)

include orderly

theorem refused (held : network.server.heldByOther client.user nick = true) :
    (network.step (.said number message)).network = network ∧
      (network.step (.said number message)).closed = false ∧
      ∀ other, (network.step (.said number message)).linesFor other =
        if other = number then [network.server.reply client.user (.nicknameInUse nick)] else [] := by
  have handled := renames.handle_nick
  rw [Handler.nick_of_registered renames.registered renames.valid renames.differs, if_pos held]
    at handled
  exact step_answer orderly renames.found renames.live renames.listening handled

theorem renamed (consistent : Consistent profile network.server network.roster)
    (free : network.server.heldByOther client.user nick = false) :
    (network.step (.said number message)).network =
        { network with server := network.server.rename client.user nick }.setClient number
          { client with user := client.user.setNick nick } ∧
      (network.step (.said number message)).closed = false ∧
      ∀ other, (network.step (.said number message)).linesFor other =
        if other = number ∨ network.shares number other = true ∧
          network.isListening other = true then [client.user.line .nick [.word nick] none]
        else [] := by
  have handled := renames.handle_nick
  rw [Handler.nick_of_registered renames.registered renames.valid renames.differs,
    if_neg (by simp [free])] at handled
  obtain ⟨after, stays, lines⟩ := renames.answered orderly handled rfl
  refine ⟨after, stays, fun other => ?_⟩
  rw [lines, linesTo_rename consistent renames.here renames.registered
    (consistent.registry.profileEq ▸ renames.valid) free]
  by_cases same : other = number
  · simp [same]
  · by_cases hears : network.isListening other = true
    · simp [same, hears]
    · simp [same, hears]

end Renames

/-- A valid nickname is refused to a registered client if another one holds it, and nothing changes
then.  Otherwise, be it the client's own name in other letters, the client goes under it from now
on in the directory and in its channels, and it and those who share a channel with it are told
once. -/
theorem nickname_changes_at_once (profile : Profile) (events : List Event) (number : Nat)
    (client : Client) (message : Message) (nick : Text) (more : List Text)
    (found : ((new profile).after events).client? number = some client)
    (live : client.live = true) (registered : client.user.registered = true)
    (listening : client.listening = true) (asked : message.verb = .command .nick)
    (params : message.params = nick :: more)
    (valid : Nickname.isValid profile.nickLimit nick = true) (differs : client.user.nick ≠ nick) :
    let network := (new profile).after events
    let outcome := network.step (.said number message)
    let user := client.user
    let renamed := { user with nick? := some nick }
    let before := network.server
    let server := outcome.network.server
    let line := Line.cut (':' :: user.fullName ++ " NICK " ++ nick) ++ crlf
    outcome.closed = false ∧
      (before.heldByOther user nick = true ↔ network.HeldByOther number nick) ∧
      (network.HeldByOther number nick →
        outcome.network = network ∧
        ∀ other, outcome.linesFor other =
          if other = number then [before.reply user (.nicknameInUse nick)] else []) ∧
      (¬ network.HeldByOther number nick →
        renamed.fullName = nick ++ '!' :: user.username ++ '@' :: user.host ∧
        outcome.network.clients = network.clients.set number { client with user := renamed } ∧
        server.profile = before.profile ∧ server.connections = before.connections ∧
        server.operators = before.operators ∧
        server.users.entries =
          before.users.entries.filter (fun entry => entry.2.queue ≠ number) ++
            [(nick.fold, renamed)] ∧
        server.channels.entries =
          before.channels.entries.map (fun entry => (entry.1, entry.2.renamedBy user nick)) ∧
        ∀ other, (outcome.linesFor other).map Line.wire =
          if other = number ∨ network.shares number other = true ∧
            network.isListening other = true then [line] else []) := by
  intro network outcome user renamed before server line
  have consistent : Consistent profile network.server network.roster :=
    consistent_after profile events
  have orderly : network.Orderly := orderly_after profile events
  have here : network.roster number = some user := roster_of_client found live
  have held : before.heldByOther user nick = true ↔ network.HeldByOther number nick :=
    heldByOther_iff consistent.registry here
  have renames : network.Renames number client message nick more :=
    ⟨⟨found, live, registered, listening, asked, params⟩,
      consistent.registry.profileEq.symm ▸ valid, differs⟩
  by_cases taken : network.HeldByOther number nick
  · obtain ⟨after, stays, lines⟩ := renames.refused orderly (held.mpr taken)
    exact ⟨stays, held, fun _ => ⟨after, lines⟩, absurd taken⟩
  · have free : network.server.heldByOther user nick = false :=
      eq_false_of_ne_true (mt held.mp taken)
    obtain ⟨after, stays, lines⟩ := renames.renamed orderly consistent free
    have written : (user.line .nick [.word nick] none).wire = line :=
      user.wire_nick (Nickname.isWord_of_isValid valid)
    refine ⟨stays, held, fun other => absurd other taken, fun _ => ⟨rfl, ?_, ?_, ?_, ?_, ?_, ?_,
      fun other => ?_⟩⟩
    · exact congrArg Network.clients after
    · exact congrArg (fun later => later.server.profile) after
    · exact congrArg (fun later => later.server.connections) after
    · exact congrArg (fun later => later.server.operators) after
    · exact (congrArg (fun later => later.server.users.entries) after).trans
        (users_rename consistent here registered free)
    · exact (congrArg (fun later => later.server.channels.entries) after).trans
        (channels_rename consistent here registered)
    · rw [lines, apply_ite (List.map Line.wire), List.map_singleton, List.map_nil, written]

/-- A client changes the case of its name, and keeps its place and its flag. -/
theorem renaming_of_teaRun :
    let network := (new teaProfile).after teaRun
    let outcome := network.step (.said 1 ⟨none, .command .nick, ["BERT"], false⟩)
    (outcome.network.server.channels.entries.map fun entry => entry.2.members) =
        [[⟨"ann", true⟩, ⟨"BERT", true⟩]] ∧
      (outcome.linesFor 0).map Line.wire = [(":Bert!b@west NICK BERT\r\n" : Text)] ∧
      (outcome.linesFor 1).map Line.wire = [(":Bert!b@west NICK BERT\r\n" : Text)] := by
  intro network outcome
  have speaker : (network.client? 1).map (fun client =>
      (client.live, client.listening, client.user.registered, client.user.nick,
        client.user.fullName)) =
      some (true, true, true, ("Bert" : Text), ("Bert!b@west" : Text)) := by decide +kernel
  obtain ⟨client, found, same⟩ := Option.map_eq_some_iff.mp speaker
  simp only [Prod.mk.injEq] at same
  obtain ⟨live, listening, registered, named, fullName⟩ := same
  have unheld : (network.client? 1).map (fun client =>
      network.server.heldByOther client.user "BERT") = some false := by decide +kernel
  have free : network.server.heldByOther client.user "BERT" = false := by simpa [found] using unheld
  have members : (network.server.channels.entries.map fun entry =>
      (entry.2.renamedBy client.user "BERT").members) = [[⟨"ann", true⟩, ⟨"BERT", true⟩]] := by
    simp only [Channel.renamedBy, named]
    decide +kernel
  have shared : network.shares 1 0 = true ∧ network.isListening 0 = true := by decide +kernel
  have reached : network = (new teaProfile).after teaRun := rfl
  have change := nickname_changes_at_once teaProfile teaRun 1 client
    ⟨none, .command .nick, ["BERT"], false⟩ "BERT" [] found live registered listening rfl rfl
    (by decide) (by rw [named]; decide)
  rw [← reached] at change
  -- The run itself is not computed again.
  clear_value network
  obtain ⟨_, held, _, renamed⟩ := change
  have alone : ¬ network.HeldByOther 1 "BERT" := fun taken => by
    cases (held.mpr taken).symm.trans free
  obtain ⟨_, _, _, _, _, _, channels, read⟩ := renamed alone
  refine ⟨?_, (read 0).trans ?_, (read 1).trans ?_⟩
  · rw [channels, List.map_map]
    exact members
  · rw [if_pos (.inr shared), fullName]
    decide
  · rw [if_pos (.inl rfl), fullName]
    decide

end Network

end IrcServer
