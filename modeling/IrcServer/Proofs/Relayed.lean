import IrcServer.Proofs.ChannelDirectory
import IrcServer.Proofs.Sent
import IrcServer.Proofs.Utterance

namespace IrcServer

/-! The lines that are relayed can be read.

Nothing bounds a username, so that the cut of a line can reach what stands before its final text.
Where it does not, the line is read as a message of the client on whose behalf it was written
(`Network.relayed_lines_are_legible`). -/

/-- Hosts hold no space and have at most 63 bytes, messages are read from lines, and no text from
elsewhere holds a NUL. -/
def Event.Readable : Event → Prop
  | .connected host => ' ' ∉ host ∧ Char.ofNat 0 ∉ host ∧ host.byteLength ≤ 63
  | .said _ message => ∃ line, Message.parse? line = some message
  | .left _ error => ∀ text ∈ error, Char.ofNat 0 ∉ text
  | .lostQueue _ => True

theorem Message.lacks_nul {line : Text} {message : Message}
    (parsed : parse? line = some message) : message.Lacks (Char.ofNat 0) :=
  lacks_of_parse? (by decide) parsed (parse?_eq_some_iff.mp parsed).2.1

theorem User.fullName_ne_nil (user : User) : user.fullName ≠ [] := by
  simp [fullName]

/-- A client whose full name is read as it is written. -/
structure User.Readable (profile : Profile) (user : User) : Prop where
  nick : ∀ nick ∈ user.nick?, Nickname.isValid profile.nickLimit nick = true
  username : ∀ username ∈ user.username?, ' ' ∉ username ∧ Char.ofNat 0 ∉ username
  host : ' ' ∉ user.host ∧ Char.ofNat 0 ∉ user.host ∧ user.host.byteLength ≤ 63

namespace User.Readable

variable {profile : Profile} {user : User}

theorem shownNick (readable : user.Readable profile) :
    ' ' ∉ user.nick ∧ Char.ofNat 0 ∉ user.nick ∧
      user.nick.byteLength ≤ max 1 profile.nickLimit := by
  rw [User.nick]
  cases given : user.nick? with
  | none => exact ⟨by decide, by decide, Nat.le_max_left _ _⟩
  | some nick =>
      have valid := readable.nick nick given
      refine ⟨?_, ?_, ?_⟩
      · exact Nickname.not_mem_of_isValid valid (by decide)
      · exact Nickname.not_mem_of_isValid valid (by decide)
      · exact Nat.le_trans (Nickname.byteLength_le_of_isValid valid) (Nat.le_max_right _ _)

theorem shownUsername (readable : user.Readable profile) :
    ' ' ∉ user.username ∧ Char.ofNat 0 ∉ user.username := by
  rw [User.username]
  cases given : user.username? with
  | none => decide
  | some username => exact readable.username username given

theorem fullName (readable : user.Readable profile) :
    ' ' ∉ user.fullName ∧ Char.ofNat 0 ∉ user.fullName ∧
      user.fullName.byteLength ≤
        max 1 profile.nickLimit + user.username.byteLength + 65 := by
  obtain ⟨nickSingle, nickClean, nickFits⟩ := readable.shownNick
  obtain ⟨userSingle, userClean⟩ := readable.shownUsername
  obtain ⟨hostSingle, hostClean, hostFits⟩ := readable.host
  have signs : '!'.utf8Size = 1 ∧ '@'.utf8Size = 1 := by decide
  refine ⟨?_, ?_, ?_⟩
  · simp [User.fullName, nickSingle, userSingle, hostSingle]
  · simp [User.fullName, nickClean, userClean, hostClean]
  · simp only [User.fullName, Text.byteLength_append, Text.byteLength_cons, signs]
    omega

end User.Readable

/-- Every client of a roster is readable. -/
def Readable (profile : Profile) (server : Server) (roster : Roster) : Prop :=
  Registry profile server roster ∧
    ∀ {number user}, roster number = some user → user.Readable profile

namespace Readable

variable {profile : Profile}

theorem kept (profile : Profile) : Kept profile Event.Readable (Readable profile) where
  new := ⟨(Registry.kept profile Event.Readable).new, fun found => by cases found⟩
  connect host readable unused := by
    use readable.1.connect _ unused
    intro number user found
    rcases Roster.of_update found with ⟨_, rfl⟩ | ⟨_, old⟩
    · exact ⟨by simp [User.new], by simp [User.new], host⟩
    · exact readable.2 old
  act said readable here act := by
    obtain ⟨line, parsed⟩ := said
    have registry := readable.1.act here act
    use registry
    intro number known found
    rcases Roster.of_update found with ⟨_, rfl⟩ | ⟨_, old⟩
    · have before := readable.2 here
      constructor
      · intro nick given
        exact registry.valid found given
      · intro username given
        rcases act.username with same | ⟨asked, enough, fresh⟩
        · exact before.username username (same ▸ given)
        · cases fresh.symm.trans given
          exact ⟨space_not_mem_username parsed asked enough, (Message.lacks_nul parsed).param 0⟩
      · rw [act.samePerson.2.2.1]
        exact before.host
    · exact readable.2 old
  depart error readable here := by
    use readable.1.depart here error
    intro number user found
    exact readable.2 (Roster.of_update_none found).2

end Readable

/-! Why a client is gone. -/

section Reason

variable {message : Message} {server : Server} {user : User} {reaction : Reaction}

theorem Acts.quitReason (acts : Acts message server user reaction)
    (staying : message.verb ≠ .command .quit) : reaction.user.quitReason = user.quitReason := by
  induction acts with
  | quit asked => exact absurd asked staying
  | last act => exact act.samePerson.2.2.2
  | next act _ inductionHypothesis => exact inductionHypothesis.trans act.samePerson.2.2.2

/-- Only a QUIT gives a reason, and it is the text of the message or the server's own. -/
theorem Handler.quitReason_handle (message : Message) (server : Server) (user : User) :
    (handle message server user).user.quitReason = user.quitReason ∨
      (handle message server user).user.quitReason =
        some (if message.param 0 = [] then clientQuit else message.param 0) := by
  by_cases asked : message.verb = .command .quit
  · have quits : handle message server user = quit (message.param 0) server user := by
      simp [handle, asked, Command.beforeRegistration, Message.hasEnoughParams, Command.minParams,
        run]
    rw [quits]
    exact .inr rfl
  · exact .inl ((handle_acts message server user).quitReason asked)

end Reason

/-- A departure has others told of nothing but a QUIT. -/
theorem Server.quit_of_depart {server : Server} {user : User} {error : Option Text}
    {delivery : Delivery} (told : delivery ∈ (server.depart user error).2) {command : Command}
    (named : delivery.line.command = command.name) :
    command = .quit ∧
      delivery.line = user.line .quit ([].map .word) (some (departureReason user error)) := by
  have line := line_of_depart told
  rw [line] at named
  exact ⟨(@Command.name_injective .quit command named).symm, line⟩

namespace Network

/-- On behalf of whom an event has the server write, and what: a message of a client comes to its
utterances, and a client that goes is quoted with its own words or those of its connection. -/
inductive Voices (profile : Profile) (network : Network) :
    Event → User → Command → List Text → Option Text → Prop
  | message {number : Nat} {client : Client} {message : Message} {command : Command}
      {words : List Text} {text : Option Text}
      (found : network.client? number = some client) (live : client.live = true)
      (utterance : Utterance profile message command words text) :
      Voices profile network (.said number message) client.user command words text
  | quit {number : Nat} {client : Client} {message : Message} {user : User}
      (found : network.client? number = some client) (live : client.live = true)
      (handled : (Handler.handle message network.server client.user).user = user) :
      Voices profile network (.said number message) user .quit []
        (some (Server.departureReason user none))
  | lost {number : Nat} {client : Client} {error : Option Text}
      (found : network.client? number = some client) (live : client.live = true) :
      Voices profile network (.left number error) client.user .quit []
        (some (Server.departureReason client.user error))

variable {profile : Profile} {events : List Event} {network : Network} {event : Event}

/-- Every line of a relayed command has somebody on whose behalf it is written. -/
theorem voices_of_sent (reached : (new profile).after events = network) {delivery : Delivery}
    (sent : delivery ∈ network.sent event) {command : Command} (relayed : command ∈ Command.relayed)
    (named : delivery.line.command = command.name) :
    ∃ user words text, network.Voices profile event user command words text ∧
      delivery.line = user.line command (words.map .word) text := by
  rcases network.step_cases event with ⟨silent, same⟩ | ⟨host, rfl, same⟩ |
    ⟨number, client, found, live, ⟨message, rfl, same⟩ | ⟨error, rfl, same⟩ | ⟨rfl, same⟩⟩
  · rw [sent_eq_nil silent same] at sent
    cases sent
  · cases sent
  · rw [sent_said found live, List.mem_append] at sent
    rcases sent with told | departed
    · have consistent : Consistent profile network.server network.roster :=
        reached ▸ consistent_after profile events
      have here := (reached ▸ orderly_after profile events : network.Orderly).here found live
      have voiced := @Handler.voiced_handle profile message _ _ _ consistent here
      have voice : Voice profile message client.user delivery.line := by
        rcases List.mem_append.mp told with others | own
        · exact voiced.relayed delivery others
        · obtain ⟨line, written, rfl⟩ := List.mem_map.mp own
          exact voiced.replies line written
      obtain ⟨words, text, utterance, line⟩ := voice.utterance relayed named
      exact ⟨_, words, text, .message found live utterance, line⟩
    · split at departed
      · obtain ⟨rfl, line⟩ := Server.quit_of_depart departed named
        exact ⟨_, _, _, .quit found live rfl, line⟩
      · cases departed
  · rw [sent_left found live] at sent
    obtain ⟨rfl, line⟩ := Server.quit_of_depart sent named
    exact ⟨_, _, _, .lost found live, line⟩
  · cases sent

namespace Voices

variable {user : User} {command : Command} {words : List Text} {text : Option Text}

theorem readable (reached : (new profile).after events = network)
    (permitted : ∀ event ∈ events, event.Readable) (readable : event.Readable)
    (voices : network.Voices profile event user command words text) : user.Readable profile := by
  have holds : Readable profile network.server network.roster :=
    reached ▸ (Readable.kept profile).after events permitted
  have orderly : network.Orderly := reached ▸ orderly_after profile events
  cases voices with
  | message found live | lost found live => exact holds.2 (roster_of_client found live)
  | @quit number client message user found live handled =>
      have acts := Handler.handle_acts message network.server client.user
      have later := (Readable.kept profile).acts readable acts holds (orderly.here found live)
        ((orderly number client found).2 live)
      rw [handled] at later
      -- The reason that the client gives is no part of its name.
      obtain ⟨nick, username, host⟩ := later.2 (Function.update_self _ _ _)
      exact ⟨nick, username, host⟩

/-- The words are written so that they can be read, and short. -/
theorem words_fit (voices : network.Voices profile event user command words text) :
    (∀ word ∈ words, word.trim.IsWord) ∧ words.length ≤ 3 ∧
      command.name.byteLength + Text.byteLength ((words.map Param.word).flatMap Param.raw) ≤
        profile.channelLimit + profile.nickLimit + 9 := by
  cases voices with
  | message _ _ utterance =>
      exact ⟨utterance.isWord_trim, utterance.length_words.2, utterance.byteLength_le⟩
  | quit | lost =>
      have short : Command.quit.name.byteLength = 4 := by decide
      simp [short]

theorem lacks (reached : (new profile).after events = network) (readable : event.Readable)
    (voices : network.Voices profile event user command words text) :
    (∀ word ∈ words, Char.ofNat 0 ∉ word) ∧ ∀ last ∈ text, Char.ofNat 0 ∉ last := by
  have orderly : network.Orderly := reached ▸ orderly_after profile events
  have control : (Char.ofNat 0).toNat < 32 := by decide
  cases voices with
  | message _ _ utterance =>
      obtain ⟨line, parsed⟩ := readable
      exact utterance.lacks control (Message.lacks_nul parsed)
  | @quit number client message user found live handled =>
      obtain ⟨line, parsed⟩ := readable
      have first := (Message.lacks_nul parsed).param 0
      have staying := (orderly number client found).2 live
      have quits : ∀ reason ∈ user.quitReason, Char.ofNat 0 ∉ reason := by
        rw [← handled]
        rcases Handler.quitReason_handle message network.server client.user with same | said
        · simp [same, staying]
        · rw [said]
          split <;> simp [first]
          decide
      simpa using Server.lacks_departureReason control quits (by simp)
  | @lost number client error found live =>
      have staying := (orderly number client found).2 live
      simpa using Server.lacks_departureReason control (by simp [staying]) readable

/-- With the usual limits there is room for all that stands before the final text unless the
username has more than 366 bytes. -/
theorem headFits (readable : user.Readable profile)
    (voices : network.Voices profile event user command words text)
    (nickLimit : profile.nickLimit ≤ 9) (channelLimit : profile.channelLimit ≤ 50)
    (short : user.username.byteLength ≤ 366) :
    (user.line command (words.map .word) text).HeadFits := by
  have name := readable.fullName.2.2
  have fits := voices.words_fit.2.2
  have signs : ':'.utf8Size = 1 ∧ ' '.utf8Size = 1 := by decide
  have head : (user.line command (words.map .word) text).head =
      ':' :: user.fullName ++ [' '] ++ command.name ++ (words.map Param.word).flatMap Param.raw := by
    rw [Line.head, User.line, Line.rawOrigin, if_neg user.fullName_ne_nil]
  rw [Line.HeadFits, head]
  simp only [Text.byteLength_append, Text.byteLength_cons, Text.byteLength_nil, List.cons_append,
    signs, maxLineBytes]
  omega

theorem parse?_wire (reached : (new profile).after events = network)
    (own : user.Readable profile) (readable : event.Readable)
    (voices : network.Voices profile event user command words text)
    (fits : (user.line command (words.map .word) text).HeadFits) :
    let line := user.line command (words.map .word) text
    Message.parse? line.wire =
      some { origin := some user.fullName
             verb := .command command
             params := words.map Text.trim ++ line.shownText.toList
             trailing := line.shownText.isSome } := by
  obtain ⟨single, clean, _⟩ := own.fullName
  obtain ⟨each, few, _⟩ := voices.words_fit
  obtain ⟨wordsClean, textClean⟩ := voices.lacks reached readable
  have room : words.length ≤ maxParams - 1 := Nat.le_trans few (by decide)
  apply Line.parse?_wire rfl rfl user.fullName_ne_nil single each room _ fits
  apply Line.lacks_raw (by decide) clean command.nul_not_mem_name _ textClean
  intro param member
  obtain ⟨word, held, rfl⟩ := List.mem_map.mp member
  exact (Param.lacks_raw (by decide) (wordsClean word held)).1

end Voices

/-- Every line of a relayed command that a client receives is written on behalf of another or of
itself, with words and a text that `Voices` gives.  If the cut does not reach what stands before the
text, it is read as a message with the full name of that client as its origin, with its command and
with all its words, and at most the text is shortened.  So it is with the usual limits unless the
username has more than 366 bytes. -/
theorem relayed_lines_are_legible (profile : Profile) (events : List Event) (event : Event)
    (permitted : ∀ earlier ∈ events, earlier.Readable) (readable : event.Readable) :
    let network := (new profile).after events
    ∀ delivery ∈ (network.step event).received, ∀ command ∈ Command.relayed,
      delivery.line.command = command.name →
        ∃ user words text, network.Voices profile event user command words text ∧
          delivery.line = user.line command (words.map .word) text ∧
          (profile.nickLimit ≤ 9 → profile.channelLimit ≤ 50 → user.username.byteLength ≤ 366 →
            delivery.line.HeadFits) ∧
          (delivery.line.HeadFits →
            Message.parse? delivery.line.wire =
              some { origin := some user.fullName
                     verb := .command command
                     params := words.map Text.trim ++ delivery.line.shownText.toList
                     trailing := delivery.line.shownText.isSome } ∧
            (∀ shown ∈ delivery.line.shownText, ∃ whole ∈ text, shown <+: whole) ∧
            (delivery.line.Uncut → delivery.line.shownText =
              text.map fun whole => whole.trimEndWhile Message.isLineEnd)) := by
  intro network delivery received command relayed named
  rw [received_step] at received
  obtain ⟨user, words, text, voices, line⟩ :=
    voices_of_sent rfl (List.mem_filter.mp received).1 relayed named
  have own := voices.readable rfl permitted readable
  refine ⟨user, words, text, voices, line, ?_, fun fits => ⟨?_, ?_, ?_⟩⟩
  · rw [line]
    exact voices.headFits own
  · rw [line] at fits ⊢
    exact voices.parse?_wire rfl own readable fits
  · rw [line]
    exact Line.shownText_begins
  · rw [line]
    exact Line.shownText_of_uncut

/-- What is read from lines is readable. -/
theorem readable_spoken (lines : List (Nat × Text)) : ∀ event ∈ spoken lines, event.Readable := by
  intro event member
  obtain ⟨line, _, made⟩ := List.mem_flatMap.mp member
  obtain ⟨message, parsed, rfl⟩ := List.mem_map.mp made
  exact ⟨line.2, Option.mem_toList.mp parsed⟩

/-- A text that is cut after 512 bytes. -/
theorem legible_of_teaRun :
    let text := List.replicate 600 'x'
    let said := Event.said 1 ⟨none, .command .privmsg, ["#TEA", text], true⟩
    (((new teaProfile).after teaRun).step said).received.map (fun delivery =>
      Message.parse? delivery.line.wire) =
        [some ⟨some "Bert!b@west", .command .privmsg, ["#TEA", text.take 483], true⟩] := by
  intro text said
  have hosts : ∀ event ∈ [Event.connected "east", .connected "west"], event.Readable := by
    simp [Event.Readable]
    decide
  have permitted : ∀ event ∈ teaRun, event.Readable :=
    List.forall_mem_append.mpr ⟨hosts, readable_spoken _⟩
  have readable : said.Readable := ⟨"PRIVMSG #TEA :" ++ text, by decide +kernel⟩
  let line : Line :=
    { origin := "Bert!b@west", command := Command.privmsg.name, params := [.word "#TEA"]
      text := some text }
  have received : (((new teaProfile).after teaRun).step said).received = [⟨0, line⟩] := by
    decide +kernel
  obtain ⟨user, words, final, _, same, _, read⟩ := relayed_lines_are_legible teaProfile teaRun said
    permitted readable ⟨0, line⟩ (by simp [received]) .privmsg (by decide) rfl
  have fits : line.HeadFits := by
    unfold Line.HeadFits
    decide
  have shown : line.shownText = some (text.take 483) := by decide +kernel
  have fullName : user.fullName = "Bert!b@west" := (congrArg Line.origin same).symm
  obtain ⟨word, rfl, named⟩ :=
    List.map_eq_singleton_iff.mp (congrArg Line.params same).symm
  cases named
  rw [received, List.map_singleton, (read fits).1, fullName, shown]
  rfl

/-- A username as long as a line can give leaves no room for the command.  A line with a NUL of a
host or of an error is read as no message, and white space at the end of a name is lost. -/
theorem username_hides_command :
    let username := List.replicate 499 'u'
    let lines : List (Nat × Text) := [(0, "NICK ann"), (0, "USER " ++ username ++ " 0 * r")]
    let join := Event.said 0 ⟨none, .command .join, ["#c"], false⟩
    let tabbed := Event.said 0 ⟨none, .command .join, ["#c\t"], false⟩
    (teaProfile.nickLimit = 9 ∧ teaProfile.channelLimit = 50 ∧ spoken [(0, "JOIN #c")] = [join] ∧
        spoken [(0, "JOIN #c\t")] = [tabbed]) ∧
      ((∀ line ∈ lines, line.2.byteLength ≤ maxLineBytes - 2) ∧
        ∃ delivery ∈ (((new teaProfile).after (.connected "east" :: spoken lines)).step
            join).received,
          delivery.line.command = Command.join.name ∧
            Message.parse? delivery.line.wire = none) ∧
      (∃ delivery ∈ (((new teaProfile).after (.connected [Char.ofNat 0] ::
            spoken [(0, "NICK ann"), (0, "USER a 0 * Ann")])).step join).received,
          delivery.line.command = Command.join.name ∧
            Message.parse? delivery.line.wire = none) ∧
      (∃ delivery ∈ (((new teaProfile).after teaRun).step
            (.left 0 (some [Char.ofNat 0]))).received,
          delivery.line.command = Command.quit.name ∧
            Message.parse? delivery.line.wire = none) ∧
      ∃ delivery ∈ (((new teaProfile).after teaRun).step tabbed).received,
        delivery.line.params = [.word "#c\t"] ∧
          Message.parse? delivery.line.wire =
            some ⟨some "ann!a@east", .command .join, ["#c"], false⟩ := by
  decide +kernel

end Network

end IrcServer
