import IrcServer.Proofs.Flags
import IrcServer.Proofs.Powers

namespace IrcServer

/-! Who may change the modes of a channel, and where all operators come from. -/

section Told

variable {profile : Profile} {message : Message} {server : Server} {user : User}
  {roster : Roster} {reaction : Reaction} {line : Line}

/-- A JOIN is told of by JOIN only, and a change of a mode by MODE only, under the name that it
gave for the channel. -/
theorem Act.told (act : Act message server user reaction)
    (keyed : server.channels.Keyed Channel.name) (told : line ∈ reaction.replies) :
    line.Quiet ∨ (message.verb = .command .join ∧ line.command = Command.join.name) ∨
      (message.verb = .command .mode ∧ line.command = Command.mode.name ∧
        ∃ name rest, line.params = .word name :: rest ∧ name.fold = (message.param 0).fold) := by
  cases act with
  | still _ answers => exact .inl (answers line told).quiet
  | marked _ _ answers => exact .inl (answers line told).quiet
  | empowered _ _ answers => exact .inl (answers line told).quiet
  | introduced _ _ _ answers => exact .inl (answers line told).quiet
  | joined asked =>
      rcases List.mem_cons.mp told with own | shown
      · exact .inr (.inl ⟨asked, by rw [own]; rfl⟩)
      · exact .inl (Server.quiet_reply shown)
  | parted => exact .inl (User.quiet_line Command.noConfusion Command.noConfusion told)
  | titled => exact .inl (User.quiet_line Command.noConfusion Command.noConfusion told)
  | renamed => exact .inl (User.quiet_line Command.noConfusion Command.noConfusion told)
  | named => cases told
  | enrolled => exact .inl (Server.quiet_reply told)
  | changed asked _ found =>
      obtain rfl := List.mem_singleton.mp told
      exact .inr (.inr ⟨asked, rfl, _, _, rfl, keyed.fold_eq found⟩)

theorem Acts.told (acts : Acts message server user reaction)
    (consistent : Consistent profile server roster) (here : roster user.queue = some user)
    (told : line ∈ reaction.replies) :
    line.Quiet ∨ (message.verb = .command .join ∧ line.command = Command.join.name) ∨
      (message.verb = .command .mode ∧ line.command = Command.mode.name ∧
        ∃ name rest, line.params = .word name :: rest ∧ name.fold = (message.param 0).fold) := by
  induction acts generalizing roster with
  | quit =>
      have closing : line.command = ("ERROR" : Text) := by rw [List.mem_singleton.mp told]
      refine .inl ⟨?_, ?_⟩
      · rw [closing]
        decide
      · rw [closing]
        decide
  | last act => exact act.told consistent.keyed told
  | @next server user first rest act _ inductionHypothesis =>
      rcases List.mem_append.mp told with early | late
      · exact act.told consistent.keyed early
      · refine inductionHypothesis (consistent.act here act) ?_ late
        rw [act.samePerson.1, Function.update_self]

end Told

namespace Handler

variable {message : Message} {server : Server} {user : User} {line : Line}

/-- A mode is told of only if its client may change the channel as the MODE comes. -/
theorem mode_authority {target modes : Text} {params : List Text}
    (told : line ∈ (mode target modes params server user).replies)
    (changed : line.command = Command.mode.name) :
    ∃ channel, server.channels.find? target = some channel ∧
      (user.operator = true ∨ channel.isOperator user.nick = true) := by
  unfold mode at told
  split at told
  · exact absurd changed (Server.quiet_reply told).2
  · rename_i channel found
    split at told
    · exact absurd changed (Server.quiet_reply told).2
    · split at told
      · rename_i authority
        exact ⟨channel, found, Bool.or_eq_true_iff.mp authority⟩
      · exact absurd changed (Server.quiet_reply told).2

theorem handle_authority (asked : message.verb = .command .mode)
    (told : line ∈ (handle message server user).replies)
    (changed : line.command = Command.mode.name) :
    ∃ channel, server.channels.find? (message.param 0) = some channel ∧
      (user.operator = true ∨ channel.isOperator user.nick = true) := by
  rcases handle_cases message server user with ⟨_, _, same, _⟩ | ⟨_, admits, same⟩
  · rw [same] at told
    exact absurd changed (Server.quiet_reply told).2
  · obtain rfl := Verb.command.inj (asked.symm.trans admits.asked)
    rw [same] at told
    exact mode_authority told changed

end Handler

namespace Network

/-- Deeds are done by the client that is heard, by JOIN and by MODE.  Who changes a mode may do so
as its message comes. -/
theorem deed_cases (profile : Profile) (events : List Event) {event : Event} {deed : Deed}
    (done : deed ∈ ((new profile).after events).deeds event) :
    let network := (new profile).after events
    ∃ number client message, network.speaker? event = some (number, client, message) ∧
      ((message.verb = .command .join ∧
          ∃ name, deed = .joined number name (!network.server.channels.contains name)) ∨
        (message.verb = .command .mode ∧ ∃ target name enabled channel,
          deed = .changed number target name enabled ∧
            network.server.channels.find? name = some channel ∧
              (client.user.operator = true ∨ channel.isOperator client.user.nick = true))) := by
  intro network
  unfold deeds at done
  split at done
  · rename_i number client message heard
    obtain ⟨line, told, read⟩ := List.mem_filterMap.mp done
    obtain ⟨_, found, live⟩ := speaker?_eq_some_iff.mp heard
    obtain ⟨queue, _⟩ := orderly_after profile events number client found
    subst queue
    refine ⟨_, client, message, heard, ?_⟩
    have meant := (Handler.handle_acts message network.server client.user).told
      (consistent_after profile events) (roster_of_client found live) told
    rcases Deed.ofLine_cases read with ⟨command, joined⟩ |
      ⟨command, target, name, enabled, rest, rfl, params⟩ <;>
        rcases meant with quiet | ⟨asked, other⟩ | ⟨asked, other, label, _, labelled, same⟩
    · exact absurd command quiet.1
    · exact .inl ⟨asked, joined⟩
    · cases Command.name_injective (command.symm.trans other)
    · exact absurd command quiet.2
    · cases Command.name_injective (command.symm.trans other)
    · obtain ⟨channel, listed, authority⟩ := Handler.handle_authority asked told command
      rw [labelled] at params
      cases params
      exact .inr ⟨asked, target, name, enabled, channel, rfl,
        (Directory.find?_congr same).trans listed, authority⟩
  · cases done

/-- A client is in a channel, as its operator or not. -/
def HasFlag (network : Network) (number : Nat) (name : Text) (flag : Bool) : Prop :=
  ∃ client channel member, network.client? number = some client ∧ client.live = true ∧
    client.user.registered = true ∧ network.server.channels.find? name = some channel ∧
      member ∈ channel.members ∧ member.nick = client.user.nick ∧ member.operator = flag

theorem HasFlag.eq_standing {profile : Profile} {events : List Event} {number : Nat} {name : Text}
    {flag : Bool} (has : ((new profile).after events).HasFlag number name flag) :
    flag = Deed.standing ((new profile).history events) number name := by
  obtain ⟨client, channel, member, known, live, registered, found, present, named, rfl⟩ := has
  exact (flagged_after profile events).flag found present (roster_of_client known live) registered
    (congrArg Text.fold named.symm)

theorem HasFlag.eq_standing_step {profile : Profile} {events : List Event} {event : Event}
    {number : Nat} {name : Text} {flag : Bool}
    (has : (((new profile).after events).step event).network.HasFlag number name flag) :
    flag = Deed.standing
      ((new profile).history events ++ ((new profile).after events).deeds event) number name := by
  rw [← after_append] at has
  rw [has.eq_standing, history, gathered_append]

/-- No flag changes without a JOIN or a MODE, whatever becomes of nicknames. -/
theorem flag_kept {profile : Profile} {events : List Event} {event : Event}
    (other : ∀ number client message,
      ((new profile).after events).speaker? event = some (number, client, message) →
        message.verb ≠ .command .join ∧ message.verb ≠ .command .mode)
    {number : Nat} {name : Text} {flag now : Bool}
    (before : ((new profile).after events).HasFlag number name flag)
    (after : (((new profile).after events).step event).network.HasFlag number name now) :
    now = flag := by
  have idle : ((new profile).after events).deeds event = [] := by
    refine List.eq_nil_iff_forall_not_mem.mpr fun deed done => ?_
    obtain ⟨speaker, client, message, heard, meant⟩ := deed_cases profile events done
    obtain ⟨notJoin, notMode⟩ := other speaker client message heard
    rcases meant with ⟨join, _⟩ | ⟨mode, _⟩
    · exact notJoin join
    · exact notMode mode
  rw [after.eq_standing_step, before.eq_standing, idle, List.append_nil]

/-- Who enters a channel has the flag if it creates the channel, whatever was there before. -/
theorem flag_of_joined {profile : Profile} {events : List Event} {event : Event} {number : Nat}
    {name : Text} {creating : Bool}
    (done : .joined number name creating ∈ ((new profile).after events).deeds event) :
    creating = (!((new profile).after events).server.channels.contains name) ∧
      ∀ flag, (((new profile).after events).step event).network.HasFlag number name flag →
        flag = creating := by
  obtain ⟨speaker, client, message, heard, ⟨join, label, same⟩ | ⟨_, _, _, _, _, same, _⟩⟩ :=
    deed_cases profile events done
  · cases same
    refine ⟨rfl, fun flag has => ?_⟩
    rw [has.eq_standing_step]
    -- A message may join a channel more than once by name, but all its deeds read the same list.
    refine Deed.standing_agreed (fun deed also => ?_) ⟨_, done, if_pos ⟨rfl, rfl⟩⟩
    obtain ⟨_, _, said, alsoHeard, ⟨_, other, rfl⟩ | ⟨mode, _⟩⟩ := deed_cases profile events also
    · cases heard.symm.trans alsoHeard
      by_cases here : other.fold = name.fold
      · rw [Directory.contains_congr here]
        exact .inr (if_pos ⟨rfl, here⟩)
      · exact .inl (if_neg fun both => here both.2)
    · cases heard.symm.trans alsoHeard
      cases join.symm.trans mode
  · cases same

/-- Where operators come from.  A member of a channel has the flag just when the last deed since it
joined that bears on it, its own creation of the channel or a change of its mode, gives it the
flag; a nickname or a channel that comes again brings none.  Only operators change modes.  The
operators of the server are the clients that have given the password while registered, and they
are counted once each, gone or not. -/
theorem operators_have_provenance (profile : Profile) (events : List Event) :
    let network := (new profile).after events
    (∀ name channel, network.server.channels.find? name = some channel →
      ∀ member ∈ channel.members, ∃ number client, network.client? number = some client ∧
        client.live = true ∧ client.user.registered = true ∧ client.user.nick = member.nick ∧
          (member.operator = true ↔ ∃ before deed later,
            (new profile).history events = before ++ deed :: later ∧
              deed.flagFor number name = some true ∧
                ∀ other ∈ later, other.flagFor number name = none)) ∧
      (∀ event, (∀ number client message,
          network.speaker? event = some (number, client, message) →
            message.verb ≠ .command .join ∧ message.verb ≠ .command .mode) →
        ∀ number name flag now, network.HasFlag number name flag →
          (network.step event).network.HasFlag number name now → now = flag) ∧
      (∀ event number name creating, .joined number name creating ∈ network.deeds event →
        creating = (!network.server.channels.contains name) ∧
          ∀ flag, (network.step event).network.HasFlag number name flag → flag = creating) ∧
      (∀ event issuer target name enabled,
        .changed issuer target name enabled ∈ network.deeds event →
          ∃ client message channel, network.speaker? event = some (issuer, client, message) ∧
            message.verb = .command .mode ∧ network.server.channels.find? name = some channel ∧
              (client.user.operator = true ∨ channel.isOperator client.user.nick = true)) ∧
      (∀ number client, network.client? number = some client →
        (client.user.operator = true ↔ Granted profile events number)) ∧
      ∃ granted : List Nat, granted.Nodup ∧ (∀ number, number ∈ granted ↔
        Granted profile events number) ∧ network.server.operators = granted.length := by
  intro network
  have consistent := consistent_after profile events
  have orderly := orderly_after profile events
  obtain ⟨granted, counted⟩ := operators_after profile events
  refine ⟨?_, ?_, ?_, ?_, ?_, ?_⟩
  · intro name channel found member present
    obtain ⟨holder, there, registered, named⟩ := consistent.client_of_member found present
    obtain ⟨client, known, live, rfl⟩ := roster_eq_some_iff.mp there
    refine ⟨_, client, known, live, registered, named, ?_⟩
    rw [(flagged_after profile events).flag found present there registered
      (congrArg Text.fold named), Deed.standing_iff]
  · intro event other number name flag now before after
    exact flag_kept other before after
  · intro event number name creating done
    exact flag_of_joined done
  · intro event issuer target name enabled done
    obtain ⟨number, client, message, heard, ⟨_, _, same⟩ |
      ⟨asked, _, _, _, channel, same, listed, authority⟩⟩ := deed_cases profile events done
    · cases same
    · cases same
      exact ⟨client, message, channel, heard, asked, listed, authority⟩
  · intro number client found
    rw [← granted number]
    constructor
    · intro operator
      exact ⟨client, found, operator⟩
    · rintro ⟨other, there, operator⟩
      cases found.symm.trans there
      exact operator
  · refine ⟨network.operators, orderly.nodup_operators, fun number => ?_, ?_⟩
    · rw [← granted number]
      exact orderly.mem_operators_iff
    · rw [operators, List.length_map, ← List.countP_eq_length_filter]
      exact counted

end Network

end IrcServer
