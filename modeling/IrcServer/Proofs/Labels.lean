import IrcServer.Proofs.Numerics
import IrcServer.Proofs.Talk

namespace IrcServer

/-! The names under which channels are shown.

A line shows the name of a channel without the white space around it.  As a channel name starts
with `#`, only white space at its end is lost, so that the name that is shown finds the channel just
if the channel's own name does not end in white space. -/

namespace Text

def endsBlank (text : Text) : Bool :=
  text.getLast?.any isBlank

theorem isBlank_toLower (c : Char) : isBlank c.toLower = isBlank c := by
  by_cases letter : Nickname.isChar c = true
  · rw [Nickname.visible_of_isChar letter,
      Nickname.visible_of_isChar ((Nickname.isChar_toLower c).trans letter)]
  · have same : c.toLower = c := by
      rw [← Char.toNat_inj, Nickname.toNat_toLower]
      rw [Nickname.isChar_iff] at letter
      exact if_neg (by omega)
    rw [same]

theorem endsBlank_eq_of_fold_eq {left right : Text} (same : left.fold = right.fold) :
    left.endsBlank = right.endsBlank := by
  have folded : ∀ text : Text, text.fold.endsBlank = text.endsBlank := by
    intro text
    rw [endsBlank, fold, List.getLast?_map, endsBlank]
    cases text.getLast? with
    | none => rfl
    | some c => exact isBlank_toLower c
  rw [← folded, same, folded]

/-- A text that ends in white space is not its own trimmed form, in any spelling. -/
theorem fold_trim_ne {text : Text} (blank : text.endsBlank = true) :
    text.trim.fold ≠ text.fold := by
  intro same
  have length : text.trim.length = text.length := by
    simpa [fold] using congrArg List.length same
  have whole := text.trim_sublist.eq_of_length length
  have filled : text.trim ≠ [] := by
    intro nothing
    rw [nothing] at whole
    rw [← whole] at blank
    cases blank
  obtain ⟨_, c, last, visible⟩ := trim_ends filled
  rw [endsBlank, ← whole, last, Option.any_some, visible] at blank
  cases blank

end Text

namespace Consistent

variable {profile : Profile} {server : Server} {roster : Roster} {label : Text} {channel : Channel}

/-- What is shown of a name finds the channel just if the channel's name does not end in white
space. -/
theorem find?_trim_iff (consistent : Consistent profile server roster)
    (found : server.channels.find? label = some channel) :
    server.channels.find? label.trim = some channel ↔ channel.name.endsBlank = false := by
  have same : channel.name.fold = label.fold := consistent.keyed.fold_eq found
  rw [Text.endsBlank_eq_of_fold_eq same]
  constructor
  · intro again
    have shown : channel.name.fold = label.trim.fold := consistent.keyed.fold_eq again
    exact eq_false_of_ne_true fun blank => Text.fold_trim_ne blank (shown.symm.trans same)
  · intro tidy
    have valid := ChannelName.isValid_of_fold_eq (consistent.sound found).valid same.symm
    rwa [(ChannelName.isWord_of_isValid valid tidy).trim_eq]

theorem found_of_lists (consistent : Consistent profile server roster)
    (listed : server.Lists label) : ∃ channel, server.channels.find? label = some channel := by
  obtain ⟨other, channel, found, rfl | rfl⟩ := listed
  · exact ⟨channel, found⟩
  · exact ⟨channel, (Directory.find?_congr (consistent.keyed.fold_eq found)).trans found⟩

end Consistent

namespace Line

variable {line : Line} {label : Text}

theorem word_of_label (named : line.label? = some label) :
    .word label ∈ line.params ∧ label.head? = some '#' := by
  obtain ⟨param, held, shown⟩ := Option.bind_eq_some_iff.mp named
  obtain ⟨place, _, inside⟩ := Option.bind_eq_some_iff.mp held
  cases param with
  | exact => cases shown
  | word text =>
      obtain ⟨marked, rfl⟩ := Param.channel?_eq_some_iff.mp shown
      exact ⟨List.mem_of_getElem? inside, marked⟩

/-- The name stands on the wire as a word of its own. -/
theorem shown_of_label (uncut : line.Uncut) (named : line.label? = some label) :
    ∃ front back, line.wire = front ++ ' ' :: label.trim ++ back ∧
      (back = crlf ∨ ∃ rest, back = ' ' :: rest) := by
  obtain ⟨member, marked⟩ := word_of_label named
  obtain ⟨before, after, params⟩ := List.append_of_mem member
  have filled := Text.trim_ne_nil_of_head marked (by decide)
  refine ⟨rawOrigin line.origin ++ line.command ++ before.flatMap Param.raw,
    tail { line with params := after } ++ crlf, ?_, ?_⟩
  · rw [wire_eq uncut, raw, params, List.flatMap_append, List.flatMap_cons, Param.raw,
      if_neg filled, tail]
    simp
  · rcases tail_apart { line with params := after } with nothing | ⟨rest, shape⟩
    · exact .inl (by rw [nothing, List.nil_append])
    · exact .inr ⟨rest ++ crlf, by rw [shape, List.cons_append]⟩

end Line

/-! Who is told that it has entered a channel is in it. -/

/-- A member of that nickname is in the channel that is found under this name, or bears it. -/
def Server.Seats (server : Server) (name nick : Text) : Prop :=
  ∃ label channel, server.channels.find? label = some channel ∧
    (name = label ∨ name = channel.name) ∧ channel.isMember nick = true

section Entered

variable {message : Message} {server : Server} {user : User} {reaction : Reaction}

/-- Members stay where they are while a client enters a channel. -/
theorem Server.Seats.setChannel {name label nick : Text} {channel : Channel} {members : List Member}
    (seats : server.Seats label nick)
    (listed : (server.channels.find? name).getD (.new name) = channel) :
    (server.setChannel name { channel with members := channel.members ++ members }).Seats label
      nick := by
  obtain ⟨other, present, found, same, inside⟩ := seats
  by_cases alike : other.fold = name.fold
  · rw [Directory.find?_congr alike] at found
    rw [found, Option.getD_some] at listed
    subst listed
    refine ⟨other, _, (Server.find?_setChannel _ _ _ _).trans (if_pos alike), same, ?_⟩
    simp only [Channel.isMember, List.any_append] at inside ⊢
    rw [inside, Bool.true_or]
  · exact ⟨other, present, ((Server.find?_setChannel _ _ _ _).trans (if_neg alike)).trans found,
      same, inside⟩

theorem Act.entered (act : Act message server user reaction)
    (asked : message.verb = .command .join) :
    reaction.user = user ∧
      (∀ label, server.Seats label user.nick → reaction.server.Seats label user.nick) ∧
      ∀ line ∈ reaction.lines, line.command = Command.join.name →
        ∀ label, line.label? = some label →
          user.registered = true ∧ reaction.server.Seats label user.nick := by
  cases act with
  | still talk answers =>
      refine ⟨rfl, fun _ => id, fun line member named => ?_⟩
      rcases List.mem_append.mp member with told | own
      · obtain ⟨delivery, sent, rfl⟩ := List.mem_map.mp told
        obtain ⟨_, command, params, text, spoken, same⟩ := talk delivery sent
        rw [same] at named
        cases Command.name_injective named
        simp at spoken
      · exact absurd named (answers line own).quiet.1
  | @joined name channel _ _ registered _ listed =>
      refine ⟨rfl, fun label seats => seats.setChannel listed, fun line member named label given => ?_⟩
      have here := Server.find?_setChannel_self server name { channel with
        members := channel.members ++ [⟨user.nick, (server.channels.find? name).isNone⟩] }
      have written : line = user.line .join [.word channel.name] none := by
        rcases List.mem_append.mp member with told | own
        · obtain ⟨delivery, sent, rfl⟩ := List.mem_map.mp told
          exact (Server.of_mem_relay sent).1
        rcases List.mem_cons.mp own with same | later
        · exact same
        · exact absurd named (Server.quiet_reply later).1
      rw [written, Line.label?_line, if_pos (by decide)] at given
      obtain ⟨_, rfl⟩ := Param.channel?_eq_some_iff.mp given
      exact ⟨registered, name, _, here, .inr rfl, by simp [Channel.isMember, Member.isNamed]⟩
  | enrolled _ giving =>
      rcases giving with ⟨other, _⟩ | ⟨other, _⟩ <;> cases asked.symm.trans other
  | marked other =>
      rcases other with other | other <;> cases asked.symm.trans other
  | empowered other | parted other | changed other | titled other | renamed other | named other
  | introduced other => cases asked.symm.trans other

theorem Acts.entered (acts : Acts message server user reaction)
    (asked : message.verb = .command .join) :
    reaction.user = user ∧
      (∀ label, server.Seats label user.nick → reaction.server.Seats label user.nick) ∧
      ∀ line ∈ reaction.lines, line.command = Command.join.name →
        ∀ label, line.label? = some label →
          user.registered = true ∧ reaction.server.Seats label user.nick := by
  induction acts with
  | quit other => cases asked.symm.trans other
  | last act => exact act.entered asked
  | @next server user first rest act acts inductionHypothesis =>
      obtain ⟨same, kept, told⟩ := act.entered asked
      obtain ⟨later, stay, toldLater⟩ := inductionHypothesis
      rw [same] at later stay toldLater
      refine ⟨later, fun label seats => stay label (kept label seats), ?_⟩
      intro line member named label given
      have either : line ∈ first.lines ∨ line ∈ rest.lines := by
        simp only [Reaction.lines, List.map_append, List.mem_append] at member ⊢
        tauto
      rcases either with now | after
      · exact (told line now named label given).imp_right (stay label)
      · exact toldLater line after named label given

end Entered

namespace Network

/-- The server as an event finds it, or as the reaction to a client's message leaves it. -/
inductive Stage (network : Network) : Event → Server → Prop
  | before {event : Event} : Stage network event network.server
  | after {number : Nat} {client : Client} {message : Message}
      (found : network.client? number = some client) (live : client.live = true) :
      Stage network (.said number message)
        (Handler.handle message network.server client.user).server

variable {profile : Profile} {events : List Event} {network : Network} {event : Event}

theorem Stage.consistent (reached : (new profile).after events = network) {server : Server}
    (stage : network.Stage event server) : ∃ roster, Consistent profile server roster := by
  cases stage with
  | before => exact ⟨network.roster, reached ▸ consistent_after profile events⟩
  | after found live => exact ⟨_, consistent_reaction reached found live _⟩

/-- Every line that names a channel names one that is listed, or ends a list of no names. -/
theorem listed_of_sent (reached : (new profile).after events = network) {delivery : Delivery}
    (sent : delivery ∈ network.sent event) {label : Text}
    (named : delivery.line.label? = some label) :
    ∃ server, network.Stage event server ∧
      (server.Lists label ∨ delivery.line.command = "366") := by
  have consistent : Consistent profile network.server network.roster :=
    reached ▸ consistent_after profile events
  rcases sent_cases sent with ⟨number, client, message, rfl, found, live, told⟩ | ⟨_, _, departed⟩
  · obtain ⟨stage, known, grounded⟩ := Handler.grounded_handle consistent.keyed message client.user
    refine ⟨stage, ?_, (grounded _ (Reaction.line_of_deliveries told)).labelled label named⟩
    rcases known with rfl | rfl
    · exact .before
    · exact .after found live
  · rw [departed] at named
    cases named

/-- A client that stays is in the channels that its JOIN is answered with. -/
theorem isIn_of_join (reached : (new profile).after events = network) {number : Nat}
    {message : Message} (asked : message.verb = .command .join)
    (stays : (network.step (.said number message)).closed = false) {delivery : Delivery}
    (sent : delivery ∈ network.sent (.said number message))
    (join : delivery.line.command = Command.join.name) {label : Text}
    (named : delivery.line.label? = some label) :
    let later := (network.step (.said number message)).network
    ∃ channel, later.server.channels.find? label = some channel ∧
      later.isIn number channel = true := by
  intro later
  have consistent : Consistent profile later.server later.roster := by
    have next := consistent_after profile (events ++ [.said number message])
    rwa [after_append, reached] at next
  rcases sent_cases sent with ⟨_, client, _, same, found, live, told⟩ | ⟨_, _, departed⟩
  · cases same
    obtain ⟨user, _, entered⟩ :=
      (Handler.handle_acts message network.server client.user).entered asked
    obtain ⟨registered, other, channel, listed, either, inside⟩ :=
      entered delivery.line (Reaction.line_of_deliveries told) join label named
    rw [step_said found live, closed_handle] at stays
    have server : later.server = (Handler.handle message network.server client.user).server := by
      dsimp only [later]
      rw [step_said found live, server_handle]
      simp only [stays, Bool.false_eq_true, if_false]
    have here : later.roster number = some client.user := by
      dsimp only [later]
      rw [step_said found live, roster_handle message found live]
      simp only [stays, Bool.false_eq_true, if_false, user, Function.update_self]
    rw [← server] at listed
    refine ⟨channel, ?_, (isIn_of_roster here registered channel).trans inside⟩
    rcases either with rfl | rfl
    · exact listed
    · exact (Directory.find?_congr (consistent.keyed.fold_eq listed)).trans listed
  · rw [departed] at named
    cases named

/-- What a line shows of the name of a channel is the name without white space at its end, and finds
the channel just if its own name does not end in white space.  Different channels with such names
are not shown alike, and a client that has entered one reaches all others in it, and nobody else,
with a text for the name that it was shown. -/
theorem shown_names_find_channels (profile : Profile) (events : List Event) (event : Event) :
    let network := (new profile).after events
    let outcome := network.step event
    let find? := network.server.channels.find?
    (∀ label channel, find? label = some channel →
      find? channel.name = some channel ∧
        (find? label.trim = some channel ↔ channel.name.endsBlank = false)) ∧
    (∀ label other channel rival, find? label = some channel → find? other = some rival →
      channel.name.endsBlank = false → rival.name.endsBlank = false →
        label.trim.fold = other.trim.fold → channel = rival) ∧
    (∀ delivery ∈ outcome.received, ∀ label, delivery.line.label? = some label →
      ∃ server, network.Stage event server ∧
        match server.channels.find? label with
        | some channel => label.trim.IsWord ∧
            (delivery.line.Uncut → ∃ front back,
              delivery.line.wire = front ++ ' ' :: label.trim ++ back ∧
                (back = crlf ∨ ∃ rest, back = ' ' :: rest)) ∧
            (server.channels.find? label.trim = some channel ↔ channel.name.endsBlank = false)
        | none => delivery.line.command = "366") ∧
    (∀ number message, event = .said number message → message.verb = .command .join →
      outcome.closed = false → ∀ delivery ∈ outcome.received,
        delivery.line.command = Command.join.name → ∀ label, delivery.line.label? = some label →
          ∃ channel, outcome.network.server.channels.find? label = some channel ∧
            outcome.network.isIn number channel = true) ∧
    (∀ label channel number client message text more, find? label = some channel →
      channel.name.endsBlank = false → network.client? number = some client →
      client.live = true → client.user.registered = true → client.listening = true →
      network.isIn number channel = true → message.verb = .command .privmsg →
      message.params = label.trim :: text :: more → text ≠ [] →
        ∀ other, (network.step (.said number message)).linesFor other =
          if other ≠ number ∧ network.isIn other channel = true ∧
            network.isListening other = true then
            [client.user.line .privmsg [.word label.trim] (some text)]
          else []) := by
  intro network outcome find?
  have consistent : Consistent profile network.server network.roster :=
    consistent_after profile events
  have orderly : network.Orderly := orderly_after profile events
  refine ⟨?_, ?_, ?_, ?_, ?_⟩
  · intro label channel found
    have own := (Directory.find?_congr (consistent.keyed.fold_eq found)).trans found
    exact ⟨own, consistent.find?_trim_iff found⟩
  · intro label other channel rival found foundOther tidy tidyOther same
    have first := (consistent.find?_trim_iff found).mpr tidy
    have second := (consistent.find?_trim_iff foundOther).mpr tidyOther
    rw [Directory.find?_congr same, second] at first
    exact (Option.some.inj first).symm
  · intro delivery received label named
    rw [received_step] at received
    obtain ⟨server, stage, listed⟩ := listed_of_sent rfl (List.mem_filter.mp received).1 named
    obtain ⟨roster, stable⟩ := stage.consistent rfl
    use server, stage
    cases found : server.channels.find? label with
    | some channel =>
        have target := stable.isTarget_of_lists (Server.Lists.of_found found).1
        exact ⟨target.isWord_trim, fun uncut => Line.shown_of_label uncut named,
          stable.find?_trim_iff found⟩
    | none =>
        refine listed.resolve_left fun listed => ?_
        obtain ⟨channel, present⟩ := stable.found_of_lists listed
        cases found.symm.trans present
  · rintro number message rfl asked stays delivery received join label named
    have received := received_step network (.said number message) ▸ received
    exact isIn_of_join rfl asked stays (List.mem_filter.mp received).1 join named
  · intro label channel number client message text more found tidy client? live registered listening
      present asked params given other
    have talks : network.Talks number client message .privmsg label.trim text :=
      ⟨client?, live, registered, listening, asked, .inl rfl, ⟨more, params⟩, given⟩
    have shown := (consistent.find?_trim_iff found).mpr tidy
    have valid := ChannelName.isValid_of_fold_eq (consistent.sound shown).valid
      (consistent.keyed.fold_eq shown).symm
    have marked := ChannelName.head?_of_isValid valid
    exact talks.linesFor_channel orderly consistent ⟨marked, shown, present⟩ other

/-- A client enters a second channel, and is heard in the first by the name of it that it knows. -/
theorem names_of_teaRun :
    let network := (new teaProfile).after teaRun
    let outcome := network.step (.said 0 ⟨none, .command .join, ["#milk"], false⟩)
    let talk := network.step (.said 0 ⟨none, .command .privmsg, ["#TEA", "hi"], true⟩)
    network.server.channels.find? "#TEA" = network.server.channels.find? "#tea" ∧
      (∃ channel, outcome.network.server.channels.find? "#milk" = some channel ∧
        outcome.network.isIn 0 channel = true) ∧
      (talk.linesFor 1).map Line.wire = [(":ann!a@east PRIVMSG #TEA :hi\r\n" : Text)] := by
  have speaker : (((new teaProfile).after teaRun).client? 0).map (fun client =>
      (client.live, client.listening, client.user.registered,
        (client.user.line .privmsg [.word "#TEA"] (some "hi")).wire)) =
      some (true, true, true, (":ann!a@east PRIVMSG #TEA :hi\r\n" : Text)) := by decide +kernel
  have room : (((new teaProfile).after teaRun).server.channels.find? "#tea").map (fun channel =>
      (channel.name.endsBlank, ((new teaProfile).after teaRun).isIn 0 channel,
        ((new teaProfile).after teaRun).isIn 1 channel)) =
      some (false, true, true) := by decide +kernel
  have hears : ((new teaProfile).after teaRun).isListening 1 = true := by decide +kernel
  let join := Event.said 0 ⟨none, .command .join, ["#milk"], false⟩
  have told : ⟨0, ⟨"ann!a@east", "JOIN", [.word "#milk"], none⟩⟩ ∈
      (((new teaProfile).after teaRun).step join).received := by decide +kernel
  have stays : (((new teaProfile).after teaRun).step join).closed = false := by decide +kernel
  have main := shown_names_find_channels teaProfile teaRun join
  -- The run itself is not computed again.
  generalize (new teaProfile).after teaRun = network at *
  obtain ⟨client, client?, same⟩ := Option.map_eq_some_iff.mp speaker
  simp only [Prod.mk.injEq] at same
  obtain ⟨live, listening, registered, wire⟩ := same
  obtain ⟨channel, found, same⟩ := Option.map_eq_some_iff.mp room
  simp only [Prod.mk.injEq] at same
  obtain ⟨tidy, here, there⟩ := same
  have alike : Text.fold "#TEA" = Text.fold "#tea" := by decide
  have known := (Directory.find?_congr alike).trans found
  obtain ⟨_, _, _, entered, reaches⟩ := main
  refine ⟨known.trans found.symm, entered 0 _ rfl rfl stays _ told rfl "#milk" rfl, ?_⟩
  have read := reaches "#TEA" channel 0 client
    ⟨none, .command .privmsg, ["#TEA", "hi"], true⟩ "hi" [] known tidy client? live registered
    listening here rfl (by decide) (by decide) 1
  rw [if_pos ⟨by decide, there, hears⟩] at read
  exact (congrArg (List.map Line.wire) read).trans (congrArg (fun line => [line]) wire)

/-- White space at the end of a name is not shown: two channels are shown alike, and a text for the
name that a client was shown does not reach the channel that it has entered. -/
theorem blank_end_hides_channel :
    let greeted := [Event.connected "east"] ++ spoken [(0, "NICK ann"), (0, "USER a 0 * Ann")]
    let join := fun name : Text => Event.said 0 ⟨none, .command .join, [name], false⟩
    let talk := Event.said 0 ⟨none, .command .privmsg, ["#a", "hi"], true⟩
    let echo := fun name : Text => Line.mk "ann!a@east" "JOIN" [.word name] none
    let network := (new teaProfile).after (greeted ++ [join "#a\t"])
    spoken [(0, "JOIN #a\t"), (0, "JOIN #a"), (0, "PRIVMSG #a :hi")] =
        [join "#a\t", join "#a", talk] ∧
      ⟨0, echo "#a\t"⟩ ∈ (((new teaProfile).after greeted).step (join "#a\t")).received ∧
      (echo "#a\t").wire = ":ann!a@east JOIN #a\r\n" ∧
      network.server.channels.find? "#a" = none ∧
      (network.step talk).received =
        [⟨0, Addressee.reply ⟨"irc.test", "ann"⟩ (.noSuchNick "#a")⟩] ∧
      ⟨0, echo "#a"⟩ ∈ (network.step (join "#a")).received ∧
      (echo "#a").wire = (echo "#a\t").wire ∧
      (((network.step (join "#a")).network.server.channels.find? "#a").map Channel.name,
          ((network.step (join "#a")).network.server.channels.find? "#a\t").map Channel.name) =
        (some ("#a" : Text), some ("#a\t" : Text)) := by
  decide +kernel

end Network

end IrcServer
