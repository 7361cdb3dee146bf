import IrcServer.Proofs.Encoding
import IrcServer.Proofs.NameLists

namespace IrcServer

/-! What WHOIS tells of a user.

All channels of the user stand on one line, in the order of the bytes of their names.  Unlike a list
of members this line is not continued on another one, so that it is the whole list just if it is not
cut. -/

namespace Text

theorem le_trans {first second third : Text} (left : first.le second = true)
    (right : second.le third = true) : first.le third = true := by
  induction first generalizing second third with
  | nil => rfl
  | cons a first inductionHypothesis =>
      cases second with
      | nil => cases left
      | cons b second =>
          cases third with
          | nil => cases right
          | cons c third =>
              simp only [le, Bool.or_eq_true, decide_eq_true_eq, Bool.and_eq_true, beq_iff_eq]
                at left right ⊢
              rcases left with less | ⟨rfl, left⟩
              · rcases right with more | ⟨rfl, _⟩
                · exact .inl (Nat.lt_trans less more)
                · exact .inl less
              · rcases right with more | ⟨rfl, right⟩
                · exact .inl more
                · exact .inr ⟨rfl, inductionHypothesis left right⟩

theorem le_total (first second : Text) : (first.le second || second.le first) = true := by
  induction first generalizing second with
  | nil => rfl
  | cons a first inductionHypothesis =>
      cases second with
      | nil => rfl
      | cons b second =>
          have rest := inductionHypothesis second
          simp only [le, Bool.or_eq_true, decide_eq_true_eq, Bool.and_eq_true, beq_iff_eq] at rest ⊢
          rcases Nat.lt_trichotomy a.toNat b.toNat with less | same | more
          · exact .inl (.inl less)
          · have same := Char.toNat_inj.mp same
            exact rest.imp (fun order => .inr ⟨same, order⟩) fun order => .inr ⟨same.symm, order⟩
          · exact .inr (.inl more)

theorem takeBytes_eq_self_iff {limit : Nat} {text : Text} :
    text.takeBytes limit = text ↔ text.byteLength ≤ limit :=
  ⟨fun same => same ▸ byteLength_takeBytes_le limit text, takeBytes_eq_self⟩

theorem byteLength_intercalate_le {limit : Nat} {pieces : List Text}
    (each : ∀ piece ∈ pieces, piece.byteLength ≤ limit) :
    byteLength ([' '].intercalate pieces) ≤ pieces.length * (limit + 1) := by
  have space : ' '.utf8Size = 1 := by decide
  induction pieces with
  | nil => exact Nat.zero_le _
  | cons piece rest inductionHypothesis =>
      obtain ⟨here, others⟩ := List.forall_mem_cons.mp each
      have later := inductionHypothesis others
      cases rest with
      | nil => simpa using Nat.le_succ_of_le here
      | cons next rest =>
          rw [List.intercalate_cons_cons, byteLength_append, byteLength_append, byteLength_cons,
            byteLength_nil, space, List.length_cons, Nat.succ_mul]
          omega

theorem intercalate_eq_nil_iff {separator : Text} {pieces : List Text}
    (filled : ∀ piece ∈ pieces, piece ≠ []) : separator.intercalate pieces = [] ↔ pieces = [] := by
  rcases pieces with - | ⟨piece, - | ⟨next, rest⟩⟩
  · simp
  · simpa using filled
  · have first := (List.forall_mem_cons.mp filled).1
    simp [first]

/-- A list that is cut is read as it was just if nothing was lost. -/
theorem splitOn_takeBytes_iff {entries : List Text} (filled : entries ≠ [])
    (single : ∀ entry ∈ entries, ' ' ∉ entry) (limit : Nat) :
    (takeBytes limit ([' '].intercalate entries)).splitOn ' ' = entries ↔
      byteLength ([' '].intercalate entries) ≤ limit := by
  constructor
  · intro read
    have joined : [' '].intercalate ((takeBytes limit ([' '].intercalate entries)).splitOn ' ') = _ :=
      List.intercalate_splitOn ' '
    rw [read] at joined
    exact takeBytes_eq_self_iff.mp joined.symm
  · intro fits
    rw [takeBytes_eq_self fits]
    exact List.splitOn_intercalate ' ' single filled

end Text

/-- The cut of a line whose beginning fits. -/
theorem Line.cut_append {front : Text} (fits : front.byteLength ≤ maxLineBytes - 2) (text : Text) :
    cut (front ++ text) = front ++ text.takeBytes (maxLineBytes - 2 - front.byteLength) := by
  rw [← Text.takeBytes_append, Nat.add_sub_cancel' fits]
  rfl

/-- The channel as a list of its member's channels shows it. -/
def Channel.shownFor (nick : Text) (channel : Channel) : Text :=
  if channel.isOperator nick then '@' :: channel.name else channel.name

namespace Server

variable {server : Server} {user : User} {nick : Text}

theorem pairwise_sortedChannels (server : Server) :
    server.sortedChannels.Pairwise fun left right => left.name.le right.name = true := by
  apply List.pairwise_mergeSort
  · exact fun _ _ _ => Text.le_trans
  · exact fun _ _ => Text.le_total _ _

theorem wire_about (server : Server) (registered : user.registered = true)
    (isWord : user.nick.IsWord) (named : nick.IsWord) {reply : Reply} {text : Text}
    (params : reply.params = [.word nick]) (given : reply.text = some text) :
    (server.reply user reply).wire =
      Line.cut (server.replyFront user reply.code nick ++ text) ++ crlf := by
  have visible : nick.trim ≠ [] := named.trim_eq.symm ▸ named.ne_nil
  rw [Line.wire, server.raw_about registered isWord params given visible, named.trim_eq]

theorem byteLength_replyFront_le (server : Server) (user : User) {code : Text}
    (size : code.byteLength = 3) (nick : Text) :
    (server.replyFront user code nick).byteLength ≤
      server.profile.domain.byteLength + user.nick.byteLength + nick.byteLength + 9 := by
  have origin := Line.byteLength_rawOrigin_le server.profile.domain
  have signs : ' '.utf8Size = 1 ∧ Text.byteLength " :" = 2 := by decide
  simp only [replyFront, Text.byteLength_append, Text.byteLength_cons, signs, size]
  omega

/-- If the channels are in order already, one that is in all of them is shown them as they are. -/
theorem channelsOf_eq_values
    (sorted : (server.channels.values.map Channel.name).Pairwise fun left right => left.le right = true)
    (each : ∀ channel ∈ server.channels.values, channel.isMember nick = true) :
    server.channelsOf nick = server.channels.values := by
  have order : server.channels.values.Pairwise fun left right => left.name.le right.name = true :=
    List.pairwise_map.mp sorted
  rw [channelsOf, sortedChannels, List.mergeSort_of_pairwise order, List.filter_eq_self]
  exact each

theorem channelsText_eq (server : Server) (nick : Text) :
    server.channelsText nick = [' '].intercalate ((server.channelsOf nick).map (Channel.shownFor nick)) :=
  rfl

/-- The lines that a WHOIS is answered with. -/
theorem wires_whoisReplies (server : Server) {user target : User}
    (registered : user.registered = true) (isWord : user.nick.IsWord)
    (named : target.nick.IsWord) :
    (server.whoisReplies target).map (fun reply => (server.reply user reply).wire) =
      [(server.reply user
          (.whoisUser target.nick target.username target.host target.realname)).wire] ++
        (if server.channelsText target.nick = [] then [] else
          [Line.cut (server.replyFront user "319" target.nick ++ server.channelsText target.nick) ++
            crlf]) ++
        [(server.reply user (.whoisServer target.nick server.profile.domain)).wire] ++
        (target.away.toList.map fun away =>
          Line.cut (server.replyFront user "301" target.nick ++ away) ++ crlf) ++
        (if target.operator then
          [Line.cut (server.replyFront user "313" target.nick ++ "is an IRC operator") ++ crlf]
        else []) ++
        [Line.cut (server.replyFront user "318" target.nick ++ "End of WHOIS list") ++ crlf] := by
  have channels (text : Text) : (server.reply user (.whoisChannels target.nick text)).wire = _ :=
    server.wire_about registered isWord named rfl rfl
  have away (text : Text) : (server.reply user (.away target.nick text)).wire = _ :=
    server.wire_about registered isWord named rfl rfl
  have operator : (server.reply user (.whoisOperator target.nick)).wire = _ :=
    server.wire_about registered isWord named rfl rfl
  have ended : (server.reply user (.endOfWhois target.nick)).wire = _ :=
    server.wire_about registered isWord named rfl rfl
  simp only [whoisReplies, List.map_append, apply_ite (List.map _), List.map_cons, List.map_nil,
    List.map_map, Function.comp_def, channels, away, operator, ended]
  rfl

end Server

namespace Consistent

variable {profile : Profile} {network : Network} {other : Nat} {target : User}
  (consistent : Consistent profile network.server network.roster)

include consistent

/-- Channels are listed in the order of the bytes of their names, each once. -/
theorem pairwise_channelsOf (nick : Text) :
    ((network.server.channelsOf nick).map fun channel => Utf8.encode channel.name).Pairwise
      (· < ·) := by
  have order : (network.server.channelsOf nick).Pairwise fun left right =>
      left.name.le right.name = true :=
    network.server.pairwise_sortedChannels.sublist List.filter_sublist
  have distinct := List.pairwise_map.mp (Server.nodup_channelsOf consistent.keyed nick)
  refine List.pairwise_map.mpr ((order.and distinct).imp fun {left right} both => ?_)
  exact Utf8.encode_lt_encode both.1 fun same => both.2 (congrArg Text.fold same)

theorem isOperator_iff (there : network.roster other = some target)
    (known : target.registered = true) {channel : Channel}
    (listed : channel ∈ network.server.channels.values) :
    channel.isOperator target.nick = true ↔ ⟨target.nick, true⟩ ∈ channel.members := by
  have found := consistent.keyed.mem_values_iff.mp listed
  constructor
  · intro marked
    rw [Channel.isOperator, Option.any_eq_true] at marked
    obtain ⟨member, first, operator⟩ := marked
    have present := List.mem_of_find?_eq_some first
    have named := (consistent.key_eq_iff there known found present).mp
      (isNamed_iff.mp (List.find?_some first))
    rwa [← named, ← operator]
  · intro present
    have own : Member.isNamed target.nick ⟨target.nick, true⟩ = true := isNamed_iff.mpr rfl
    cases first : channel.member? target.nick with
    | none => exact absurd own (List.find?_eq_none.mp first _ present)
    | some member =>
        have one := (consistent.sound found).distinct.eq_of_key_eq (List.mem_of_find?_eq_some first)
          present (isNamed_iff.mp (List.find?_some first))
        rw [Channel.isOperator, first, one]
        rfl

theorem shownFor_entry {nick : Text} {channel : Channel}
    (listed : channel ∈ network.server.channels.values) :
    ' ' ∉ channel.shownFor nick ∧ channel.shownFor nick ≠ [] ∧
      (channel.shownFor nick).byteLength ≤ profile.channelLimit + 1 := by
  have valid := (consistent.sound (consistent.keyed.mem_values_iff.mp listed)).valid
  have short := ChannelName.byteLength_le_of_isValid valid
  have single := ChannelName.not_mem_of_isValid valid (c := ' ') (by decide)
  have filled := ChannelName.ne_nil_of_isValid valid
  have mark : '@'.utf8Size = 1 := by decide
  unfold Channel.shownFor
  split
  · exact ⟨by simp [single], List.cons_ne_nil _ _, by rw [Text.byteLength_cons, mark]; omega⟩
  · exact ⟨single, filled, Nat.le_succ_of_le short⟩

end Consistent

theorem Handler.handle_whois {message : Message} {server : Server} {user target : User}
    {nick : Text} {more : List Text} (asked : message.verb = .command .whois)
    (params : message.params = nick :: more) (registered : user.registered = true)
    (found : server.users.find? nick = some target) :
    handle message server user = say (server.whoisReplies target) server user := by
  rw [handle_eq_run asked registered (by decide) (by simp [params, Command.minParams])]
  change whois (message.param 0) server user = _
  rw [Message.param_zero params, whois, found]

/-- The channels of a client, in order. -/
structure Network.OwnChannels (network : Network) (number : Nat) (user : User)
    (channels : List Channel) : Prop where
  members : ∀ channel, channel ∈ channels ↔
    channel ∈ network.server.channels.values ∧ network.isIn number channel = true
  ordered : (channels.map fun channel => Utf8.encode channel.name).Pairwise (· < ·)
  marked : ∀ channel ∈ channels,
    channel.isOperator user.nick = true ↔ ⟨user.nick, true⟩ ∈ channel.members

namespace Consistent

variable {profile : Profile} {network : Network} {other : Nat} {target : User}

theorem ownChannels (consistent : Consistent profile network.server network.roster)
    (there : network.roster other = some target) (known : target.registered = true) :
    network.OwnChannels other target (network.server.channelsOf target.nick) where
  members channel := by
    rw [Server.mem_channelsOf_iff, Network.isIn_of_roster there known]
  ordered := consistent.pairwise_channelsOf target.nick
  marked channel listed :=
    consistent.isOperator_iff there known (Server.mem_channelsOf_iff.mp listed).1

end Consistent

namespace Network

/-- A WHOIS changes nothing, and nobody but the client that asks is told anything. -/
theorem Gives.step_whois {profile : Profile} {network : Network} {number other : Nat}
    {client : Client} {target : User} {message : Message} {nick : Text} {more : List Text}
    (gives : network.Gives number client message .whois nick more) (orderly : network.Orderly)
    (consistent : Consistent profile network.server network.roster)
    (there : network.roster other = some target) (known : target.registered = true)
    (named : target.nick.fold = nick.fold) :
    (network.step (.said number message)).network = network ∧
      (network.step (.said number message)).closed = false ∧
      ∀ reader, (network.step (.said number message)).linesFor reader =
        if reader = number then
          (network.server.whoisReplies target).map (network.server.reply client.user)
        else [] := by
  have handled := Handler.handle_whois gives.asked gives.params gives.registered
    (consistent.registry.found there known named)
  exact step_answer orderly gives.found gives.live gives.listening handled

/-- WHOIS tells a client, and nobody else, of all channels of a user on a single line, in the order
of the bytes of their names.  The line shows the whole list just if it need not be cut, as is so
for at most eight channels under the usual limits. -/
theorem whois_lists_what_fits (profile : Profile) (events : List Event) (number : Nat)
    (client : Client) (message : Message) (nick : Text) (more : List Text) (other : Nat)
    (target : User) (found : ((new profile).after events).client? number = some client)
    (live : client.live = true) (registered : client.user.registered = true)
    (asked : message.verb = .command .whois) (params : message.params = nick :: more)
    (there : ((new profile).after events).roster other = some target)
    (known : target.registered = true) (named : target.nick.fold = nick.fold)
    (domain : profile.domain.byteLength ≤ 63) (nickLimit : profile.nickLimit = 9)
    (channelLimit : profile.channelLimit = 50) :
    let network := (new profile).after events
    let server := network.server
    let user := client.user
    let reaction := Handler.handle message server user
    let outcome := network.step (.said number message)
    let channels := server.channelsOf target.nick
    let entries := channels.map (Channel.shownFor target.nick)
    let list : Text := [' '].intercalate entries
    let front := fun code : Text =>
      Line.rawOrigin profile.domain ++ code ++ ' ' :: user.nick ++ ' ' :: target.nick ++ " :"
    let room := 510 - (front "319").byteLength
    reaction.server = server ∧ reaction.user = user ∧ reaction.relayed = [] ∧
      reaction.replies.map Line.wire =
        [(server.reply user
            (.whoisUser target.nick target.username target.host target.realname)).wire] ++
          (if channels = [] then [] else [front "319" ++ list.takeBytes room ++ crlf]) ++
          [(server.reply user (.whoisServer target.nick profile.domain)).wire] ++
          (target.away.toList.map fun away => Line.cut (front "301" ++ away) ++ crlf) ++
          (if target.operator then [Line.cut (front "313" ++ "is an IRC operator") ++ crlf]
          else []) ++
          [Line.cut (front "318" ++ "End of WHOIS list") ++ crlf] ∧
      (client.listening = true → outcome.network = network ∧ outcome.closed = false ∧
        ∀ reader, outcome.linesFor reader = if reader = number then reaction.replies else []) ∧
      network.OwnChannels other target channels ∧
      (channels ≠ [] →
        ((list.takeBytes room).splitOn ' ' = entries ↔ list.byteLength ≤ room)) ∧
      (channels.length ≤ 8 → list.byteLength ≤ room) := by
  intro network server user reaction outcome channels entries list front room
  have consistent : Consistent profile server network.roster := consistent_after profile events
  have orderly : network.Orderly := orderly_after profile events
  have same : server.profile = profile := consistent.registry.profileEq
  have here : network.roster number = some user := roster_of_client found live
  have own := consistent.registry.valid_nick here registered
  have about := consistent.registry.valid_nick there known
  have handled := Handler.handle_whois asked params registered
    (consistent.registry.found there known named)
  have entry : ∀ entry ∈ entries, ' ' ∉ entry ∧ entry ≠ [] ∧
      entry.byteLength ≤ profile.channelLimit + 1 := by
    refine List.forall_mem_map.mpr fun channel listed => ?_
    exact consistent.shownFor_entry (Server.mem_channelsOf_iff.mp listed).1
  have begin (code : Text) : server.replyFront user code target.nick = front code := by
    rw [Server.replyFront, same]
  have header : (front "319").byteLength ≤ 90 := by
    have sizes := server.byteLength_replyFront_le user (by decide : Text.byteLength "319" = 3) target.nick
    have asking := Nickname.byteLength_le_of_isValid own
    have asked := Nickname.byteLength_le_of_isValid about
    rw [begin, same] at sizes
    omega
  have cut : Line.cut (front "319" ++ list) = front "319" ++ list.takeBytes room :=
    Line.cut_append (Nat.le_trans header (by decide)) list
  have nothing : server.channelsText target.nick = [] ↔ channels = [] :=
    (Text.intercalate_eq_nil_iff fun piece listed => (entry piece listed).2.1).trans
      List.map_eq_nil_iff
  have wires : (server.whoisReplies target).map (fun reply => (server.reply user reply).wire) = _ :=
    server.wires_whoisReplies registered (Nickname.isWord_of_isValid own)
      (Nickname.isWord_of_isValid about)
  refine ⟨?_, ?_, ?_, ?_, ?_, consistent.ownChannels there known, ?_, ?_⟩
  · exact congrArg Reaction.server handled
  · exact congrArg Reaction.user handled
  · exact congrArg Reaction.relayed handled
  · simp only [begin, nothing, same] at wires
    refine (congrArg (fun answer => answer.replies.map Line.wire) handled).trans
      (List.map_map.trans (wires.trans ?_))
    rw [← cut]
    rfl
  · intro listening
    have answered : reaction.replies = _ := congrArg Reaction.replies handled
    rw [answered]
    have gives : network.Gives number client message .whois nick more :=
      ⟨found, live, registered, listening, asked, params⟩
    exact gives.step_whois orderly consistent there known named
  · intro some
    exact Text.splitOn_takeBytes_iff (mt List.map_eq_nil_iff.mp some)
      (fun piece listed => (entry piece listed).1) room
  · intro few
    have bytes := Text.byteLength_intercalate_le fun piece listed => (entry piece listed).2.2
    rw [List.length_map, channelLimit] at bytes
    change list.byteLength ≤ _ at bytes
    omega

/-- A client asks about another one, whose name it gives in capitals. -/
theorem whois_of_teaRun :
    let network := (new teaProfile).after teaRun
    let outcome := network.step (.said 1 ⟨none, .command .whois, ["ANN"], false⟩)
    (outcome.linesFor 0).map Line.wire = [] ∧
      (outcome.linesFor 1).map Line.wire =
        [(":irc.test 311 Bert ann a east * :Ann\r\n" : Text),
          ":irc.test 319 Bert ann :@#tea\r\n",
          ":irc.test 312 Bert ann irc.test :parlance IRC server\r\n",
          ":irc.test 318 Bert ann :End of WHOIS list\r\n"] := by
  intro network outcome
  have asker : (network.client? 1).map (fun client =>
      (client.live, client.listening, client.user.registered, client.user.nick)) =
      some (true, true, true, ("Bert" : Text)) := by decide +kernel
  have known : (network.roster 0).map (fun target =>
      (target.registered, target.nick, target.away, target.operator)) =
      some (true, ("ann" : Text), none, false) := by decide +kernel
  have about : (network.client? 1).bind (fun client => (network.roster 0).map fun target =>
      ((network.server.reply client.user
          (.whoisUser target.nick target.username target.host target.realname)).wire,
        (network.server.reply client.user (.whoisServer target.nick "irc.test")).wire)) =
      some ((":irc.test 311 Bert ann a east * :Ann\r\n" : Text),
        (":irc.test 312 Bert ann irc.test :parlance IRC server\r\n" : Text)) := by decide +kernel
  have labels : network.server.channels.values.map Channel.name = [("#tea" : Text)] := by
    decide +kernel
  have marks : network.server.channels.values.map (Channel.shownFor "ann") =
      [("@#tea" : Text)] := by decide +kernel
  have everywhere : network.server.channels.values.all (fun channel => channel.isMember "ann") =
      true := by decide +kernel
  have listed := Server.channelsOf_eq_values (labels ▸ by decide) (List.all_eq_true.mp everywhere)
  obtain ⟨client, found, same⟩ := Option.map_eq_some_iff.mp asker
  obtain ⟨target, there, alike⟩ := Option.map_eq_some_iff.mp known
  rw [found, Option.bind_some, there, Option.map_some, Option.some_inj] at about
  simp only [Prod.mk.injEq] at same alike about
  obtain ⟨live, listening, registered, nick⟩ := same
  obtain ⟨known, named, present, plain⟩ := alike
  have reached : network = (new teaProfile).after teaRun := rfl
  have told := whois_lists_what_fits teaProfile teaRun 1 client
    ⟨none, .command .whois, ["ANN"], false⟩ "ANN" [] 0 target found live registered rfl rfl there
    known (by rw [named]; decide) (by decide) rfl rfl
  rw [← reached] at told
  -- The run itself is not computed again.
  clear_value network
  obtain ⟨_, _, _, wires, heard, _, _, _⟩ := told
  obtain ⟨_, _, lines⟩ := heard listening
  refine ⟨congrArg (List.map Line.wire) (lines 0), ?_⟩
  have some : network.server.channels.values ≠ [] := by
    intro empty
    rw [empty] at labels
    cases labels
  have domain : teaProfile.domain = "irc.test" := rfl
  refine (congrArg (List.map Line.wire) (lines 1)).trans (wires.trans ?_)
  rw [domain, about.1, about.2, present, plain]
  simp only [named, nick, listed, marks, if_neg some]
  decide

/-- A client in ten channels of which it is told nine and a half. -/
theorem whois_loses_channels :
    let names : List Text :=
      "0123456789".toList.map fun digit => '#' :: digit :: List.replicate 48 'a'
    let network := (new teaProfile).after
      ([.connected "east"] ++ spoken [(0, "NICK ann"), (0, "USER a 0 * Ann")] ++
        names.map fun name => .said 0 ⟨none, .command .join, [name], false⟩)
    let outcome := network.step (.said 0 ⟨none, .command .whois, ["ann"], false⟩)
    let entries := names.map fun name => '@' :: name
    let shown := Text.takeBytes 487 ([' '].intercalate entries)
    (network.server.channelsOf "ann").map (Channel.shownFor "ann") = entries ∧
      (outcome.linesFor 0).map Line.wire =
        [(":irc.test 311 ann ann a east * :Ann\r\n" : Text),
          ":irc.test 319 ann ann :" ++ shown ++ crlf,
          ":irc.test 312 ann ann irc.test :parlance IRC server\r\n",
          ":irc.test 318 ann ann :End of WHOIS list\r\n"] ∧
      shown.splitOn ' ' ≠ entries := by
  intro names network outcome entries shown
  have speaker : (network.client? 0).map (fun client =>
      (client.live, client.listening, client.user.registered, client.user.nick,
        (network.server.reply client.user (.whoisUser client.user.nick client.user.username
          client.user.host client.user.realname)).wire)) =
      some (true, true, true, ("ann" : Text),
        (":irc.test 311 ann ann a east * :Ann\r\n" : Text)) := by decide +kernel
  have told : (network.client? 0).map (fun client =>
      (client.user.away, client.user.operator,
        (network.server.reply client.user (.whoisServer client.user.nick
          network.server.profile.domain)).wire)) =
      some (none, false, (":irc.test 312 ann ann irc.test :parlance IRC server\r\n" : Text)) := by
    decide +kernel
  have labels : network.server.channels.values.map Channel.name = names := by decide +kernel
  have marks : network.server.channels.values.map (Channel.shownFor "ann") = entries := by
    decide +kernel
  have everywhere : network.server.channels.values.all (fun channel => channel.isMember "ann") =
      true := by decide +kernel
  have consistent : Consistent teaProfile network.server network.roster := consistent_after _ _
  have orderly : network.Orderly := orderly_after _ _
  -- The run itself is not computed again.
  clear_value network
  obtain ⟨client, found, same⟩ := Option.map_eq_some_iff.mp speaker
  rw [found, Option.map_some, Option.some_inj] at told
  simp only [Prod.mk.injEq] at same told
  obtain ⟨live, listening, registered, named, asker⟩ := same
  obtain ⟨present, plain, host⟩ := told
  have listed := Server.channelsOf_eq_values (labels ▸ by decide) (List.all_eq_true.mp everywhere)
  have here := roster_of_client found live
  have isWord := Nickname.isWord_of_isValid (consistent.registry.valid_nick here registered)
  have gives : network.Gives 0 client ⟨none, .command .whois, ["ann"], false⟩ .whois "ann" [] :=
    ⟨found, live, registered, listening, rfl, rfl⟩
  obtain ⟨_, _, lines⟩ :=
    gives.step_whois orderly consistent here registered (congrArg Text.fold named)
  have text : network.server.channelsText client.user.nick = [' '].intercalate entries := by
    rw [Server.channelsText_eq, named, listed, marks]
  have wires := network.server.wires_whoisReplies registered isWord isWord
  refine ⟨listed ▸ marks, ?_, by decide⟩
  change ((network.step _).linesFor 0).map Line.wire = _
  rw [lines, if_pos rfl, List.map_map]
  have profile : network.server.profile.domain = "irc.test" := by
    rw [consistent.registry.profileEq]
    rfl
  refine Eq.trans wires ?_
  rw [asker, host, text, present, plain]
  simp only [Server.replyFront, profile, named]
  decide +kernel

end Network

end IrcServer
