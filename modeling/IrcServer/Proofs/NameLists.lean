import IrcServer.Proofs.Talk
import IrcServer.Proofs.Utterance

namespace IrcServer

/-! The list of a channel's members, as it is sent.

The budget for the names on one line is reckoned with the longest nickname that the server allows.
It covers what stands in front of the names whoever asks for them, so that no name is cut. -/

/-- The names of one line after another are all the names. -/
theorem intercalate_shownTogether {groups : List (List Member)} (each : ∀ group ∈ groups, group ≠ []) :
    [' '].intercalate (groups.map shownTogether) = shownTogether groups.flatten := by
  induction groups with
  | nil => rfl
  | cons group rest inductionHypothesis =>
      obtain ⟨here, others⟩ := List.forall_mem_cons.mp each
      cases rest with
      | nil => simp
      | cons next rest =>
          have later : (next :: rest).flatten ≠ [] :=
            List.append_ne_nil_of_left_ne_nil (List.forall_mem_cons.mp others).1 _
          have whole : shownTogether (group :: next :: rest).flatten = _ :=
            shownTogether_append here later
          rw [List.map_cons, List.intercalate_cons_of_ne_nil (by simp),
            inductionHypothesis others, whole, List.append_assoc, List.singleton_append]

theorem Line.byteLength_rawOrigin_le (origin : Text) :
    (rawOrigin origin).byteLength ≤ origin.byteLength + 2 := by
  have signs : ':'.utf8Size = 1 ∧ ' '.utf8Size = 1 := by decide
  unfold rawOrigin
  split
  · exact Nat.zero_le _
  · simp only [Text.byteLength_append, Text.byteLength_cons, Text.byteLength_nil, signs]
    omega

theorem Channel.Sound.visible {limit : Nat} {roster : Roster} {channel : Channel}
    (sound : channel.Sound limit roster) : channel.name.trim ≠ [] :=
  Text.trim_ne_nil_of_head (ChannelName.head?_of_isValid sound.valid) (by decide)

namespace Server

/-- What stands in front of the names on a line for this client. -/
def namesFront (server : Server) (user : User) (channel : Channel) : Text :=
  Line.rawOrigin server.profile.domain ++ "353 " ++ user.nick ++ " = " ++ channel.name.trim ++ " :"

variable {server : Server} {user : User} {channel : Channel}

theorem raw_names (registered : user.registered = true) (isWord : user.nick.IsWord)
    (visible : channel.name.trim ≠ []) (shown : Text) :
    (server.reply user (.names channel.name shown)).raw =
      server.namesFront user channel ++ shown := by
  have sign : Param.raw (.word "=") = " =" := by decide
  have label : Param.raw (.word channel.name) = ' ' :: channel.name.trim := if_neg visible
  have params : (Reply.names channel.name shown).params.flatMap Param.raw =
      " =" ++ ' ' :: channel.name.trim := by
    rw [← sign, ← label, Reply.params]
    simp only [List.flatMap_cons, List.flatMap_nil, List.append_nil]
  have given : (Reply.names channel.name shown).text = some shown := rfl
  have spaces : ("353 " : Text) = "353" ++ [' '] ∧ (" = " : Text) = " =" ++ [' '] := by decide
  rw [raw_reply server registered isWord, params, given, namesFront, spaces.1, spaces.2]
  simp [Line.rawText]
  rfl

/-- The list of names as it is sent. -/
theorem wires_namesReplies (server : Server) {user : User} (channel : Channel)
    (registered : user.registered = true) (isWord : user.nick.IsWord)
    (visible : channel.name.trim ≠ []) (named : ∀ member ∈ channel.members, member.nick ≠ []) :
    ∃ groups : List (List Member),
      groups.flatten = channel.members ∧
      (∀ group ∈ groups, FitTogether (server.namesBudget channel) group) ∧
      (server.namesReplies channel).map (fun reply => (server.reply user reply).wire) =
        groups.map (fun group =>
          Line.cut (server.namesFront user channel ++ shownTogether group) ++ crlf) ++
          [Line.cut (server.replyFront user "366" channel.name.trim ++ "End of NAMES list") ++
            crlf] := by
  obtain ⟨groups, texts, flat, fit⟩ := nameTexts_eq_map (server.namesBudget channel) named
  have ended : (server.reply user (.endOfNames channel.name)).raw = _ :=
    server.raw_about registered isWord rfl rfl visible
  refine ⟨groups, flat, fit, ?_⟩
  rw [namesReplies, texts, List.map_append, List.map_map, List.map_map, List.map_singleton, Line.wire,
    ended]
  refine congrArg (· ++ _) (List.map_congr_left fun group _ => ?_)
  rw [Function.comp_apply, Function.comp_apply, Line.wire, raw_names registered isWord visible]

/-- The header leaves a line of members its budget. -/
theorem byteLength_namesFront_le (channel : Channel)
    (nick : user.nick.byteLength ≤ server.profile.nickLimit) :
    (server.namesFront user channel).byteLength + 2 ≤
      server.profile.domain.byteLength + server.profile.nickLimit + channel.name.byteLength + 13 := by
  have origin := Line.byteLength_rawOrigin_le server.profile.domain
  have texts : Text.byteLength "353 " = 4 ∧ Text.byteLength " = " = 3 ∧ Text.byteLength " :" = 2 := by
    decide
  have shorter := Text.byteLength_trim_le channel.name
  simp only [namesFront, Text.byteLength_append, texts]
  omega

/-- If the limits leave room for a single name, no line of members is cut. -/
theorem byteLength_names_le {limit : Nat}
    (nick : Nickname.isValid server.profile.nickLimit user.nick = true)
    (fits : server.profile.domain.byteLength + 2 * server.profile.nickLimit + limit + 14 ≤
      maxLineBytes)
    (short : channel.name.byteLength ≤ limit) {group : List Member}
    (together : FitTogether (server.namesBudget channel) group)
    (each : ∀ member ∈ group, Nickname.isValid server.profile.nickLimit member.nick = true) :
    (server.namesFront user channel ++ shownTogether group).byteLength ≤ maxLineBytes - 2 := by
  have front := byteLength_namesFront_le channel (Nickname.byteLength_le_of_isValid nick)
  have budget : server.namesBudget channel = maxLineBytes -
    (server.profile.domain.byteLength + server.profile.nickLimit + channel.name.byteLength + 13) := rfl
  have names : (shownTogether group).byteLength ≤ server.namesBudget channel := by
    obtain ⟨-, alone | small⟩ := together
    · obtain ⟨member, rfl⟩ := List.length_eq_one_iff.mp alone
      have own := Nickname.byteLength_le_of_isValid (each member (List.mem_singleton_self _))
      have shown := byteLength_shown_le member
      rw [shownTogether_singleton]
      omega
    · exact small
  rw [Text.byteLength_append]
  omega

end Server

namespace Network

/-- For whomever the names in a channel are listed, the list shows all of them in the order of
joining, and then comes its end.  No line is too long, so that no name is lost, split or written
twice. -/
theorem names_lose_nobody (profile : Profile) (events : List Event) (number : Nat) (user : User)
    (channel : Channel)
    (fits : profile.domain.byteLength + 2 * profile.nickLimit + profile.channelLimit + 14 ≤ 512)
    (here : ((new profile).after events).roster number = some user)
    (registered : user.registered = true)
    (listed : channel ∈ ((new profile).after events).server.channels.values) :
    let server := ((new profile).after events).server
    let front := Line.rawOrigin profile.domain ++ "353 " ++ user.nick ++ " = " ++
      channel.name.trim ++ " :"
    let ending := Line.rawOrigin profile.domain ++ "366" ++ ' ' :: user.nick ++
      ' ' :: channel.name.trim ++ " :" ++ "End of NAMES list"
    ∃ groups : List (List Member),
      groups.flatten = channel.members ∧
      (∀ group ∈ groups, group ≠ [] ∧ (front ++ shownTogether group ++ crlf).byteLength ≤ 512) ∧
      (server.namesReplies channel).map (fun reply => (server.reply user reply).wire) =
        groups.map (fun group => front ++ shownTogether group ++ crlf) ++
          [Line.cut ending ++ crlf] ∧
      [' '].intercalate (groups.map shownTogether) =
        [' '].intercalate (channel.members.map Member.shown) := by
  intro server front ending
  have consistent : Consistent profile server _ := consistent_after profile events
  have same : server.profile = profile := consistent.registry.profileEq
  have found := consistent.keyed.mem_values_iff.mp listed
  have sound := consistent.sound found
  have short := ChannelName.byteLength_le_of_isValid sound.valid
  have nick : Nickname.isValid server.profile.nickLimit user.nick = true :=
    same.symm ▸ consistent.registry.valid_nick here registered
  have each : ∀ member ∈ channel.members,
      Nickname.isValid server.profile.nickLimit member.nick = true :=
    fun member present => same.symm ▸ consistent.member_valid found present
  obtain ⟨groups, flat, fit, wires⟩ := server.wires_namesReplies channel registered
    (Nickname.isWord_of_isValid nick) sound.visible
    fun member present => Nickname.ne_nil_of_isValid (each member present)
  have begun : server.namesFront user channel = front := by rw [Server.namesFront, same]
  have ended : server.replyFront user "366" channel.name.trim ++ "End of NAMES list" = ending := by
    rw [Server.replyFront, same]
  have whole : ∀ group ∈ groups, (front ++ shownTogether group).byteLength ≤ maxLineBytes - 2 := by
    intro group listed
    rw [← begun]
    refine Server.byteLength_names_le nick (same.symm ▸ fits) short (fit group listed) ?_
    intro member inside
    exact each member (flat ▸ List.mem_flatten_of_mem listed inside)
  refine ⟨groups, flat, fun group listed => ⟨(fit group listed).1, ?_⟩, ?_, ?_⟩
  · have bytes := whole group listed
    have sign : Text.byteLength crlf = 2 := by decide
    rw [Text.byteLength_append, sign]
    exact Nat.add_le_of_le_sub (by decide) bytes
  · rw [wires, begun, ended]
    refine congrArg (· ++ _) (List.map_congr_left fun group listed => ?_)
    rw [Line.cut, Text.takeBytes_eq_self (whole group listed)]
  · rw [intercalate_shownTogether fun group listed => (fit group listed).1, flat]
    rfl

/-- Two operators on one line. -/
theorem list_of_teaRun :
    ∃ groups : List (List Member),
      groups.flatten = [⟨"ann", true⟩, ⟨"Bert", true⟩] ∧
      groups.map (fun group => ":irc.test 353 ann = #tea :" ++ shownTogether group ++ crlf) =
        [(":irc.test 353 ann = #tea :@ann @Bert\r\n" : Text)] := by
  let network := (new teaProfile).after teaRun
  have asker : (network.roster 0).map (fun user => (user.registered, user.nick)) =
      some (true, ("ann" : Text)) := by decide +kernel
  have channels : network.server.channels.values.map (fun channel =>
      (channel.name, channel.members)) =
      [(("#tea" : Text), [⟨"ann", true⟩, ⟨"Bert", true⟩])] := by decide +kernel
  have wires : (network.roster 0).map (fun user => network.server.channels.values.map fun channel =>
      (network.server.namesReplies channel).map fun reply =>
        (network.server.reply user reply).wire) =
      some [[(":irc.test 353 ann = #tea :@ann @Bert\r\n" : Text),
        ":irc.test 366 ann #tea :End of NAMES list\r\n"]] := by decide +kernel
  have reached : network = (new teaProfile).after teaRun := rfl
  have listing := names_lose_nobody teaProfile teaRun 0
  rw [← reached] at listing
  -- The run itself is not computed again.
  clear_value network
  obtain ⟨user, here, known⟩ := Option.map_eq_some_iff.mp asker
  obtain ⟨channel, listed, shown⟩ := List.map_eq_singleton_iff.mp channels
  simp only [Prod.mk.injEq] at known shown
  obtain ⟨registered, named⟩ := known
  obtain ⟨label, members⟩ := shown
  obtain ⟨groups, flat, _, lines, _⟩ := listing user channel (by decide) here registered
    (by rw [listed]; exact List.mem_singleton_self _)
  rw [here, listed] at wires
  have front : Line.rawOrigin teaProfile.domain ++ "353 " ++ user.nick ++ " = " ++
      channel.name.trim ++ " :" = ":irc.test 353 ann = #tea :" := by
    rw [named, label]
    decide
  rw [front] at lines
  have written : _ = [(":irc.test 353 ann = #tea :@ann @Bert\r\n" : Text)] ++ [_] :=
    lines.symm.trans (List.singleton_inj.mp (Option.some.inj wires))
  exact ⟨groups, flat.trans members, List.append_inj_left' written rfl⟩

end Network

end IrcServer
