import IrcServer.Proofs.Utterance
import IrcServer.Proofs.Written

namespace IrcServer

/-! Where the names come from that the server writes.

A reply names channels that are listed, clients that are registered and the domain of the server,
or it gives back what the client has just sent.  A line on behalf of a client names a listed channel
as well.  One lemma for each command says so of all its lines; a JOIN writes of channels that are
listed after it, and every other message of channels that were listed before
(`Handler.grounded_handle`). -/

namespace Server

/-- A channel is found under this name, or bears it. -/
def Lists (server : Server) (name : Text) : Prop :=
  ∃ label channel, server.channels.find? label = some channel ∧
    (name = label ∨ name = channel.name)

/-- A registered user is found under this nickname, or bears it. -/
def Knows (server : Server) (nick : Text) : Prop :=
  ∃ label holder, server.users.find? label = some holder ∧ (nick = label ∨ nick = holder.nick)

/-- Every channel of `server` is in `later`, and so are all users. -/
structure Within (server later : Server) : Prop where
  profile : later.profile = server.profile
  users : later.users = server.users
  channels : ∀ {label channel}, server.channels.find? label = some channel →
    ∃ present, later.channels.find? label = some present ∧ present.name = channel.name

end Server

/-- What the texts are that a reply shows before its final text. -/
def Reply.Grounded (message : Message) (server : Server) : Reply → Prop
  | .myInfo domain => domain = server.profile.domain
  | .away nick _ | .whoisOperator nick | .endOfWhois nick | .whoisChannels nick _
  | .nicknameInUse nick => server.Knows nick
  | .whoisUser nick username host _ =>
      ∃ label holder, server.users.find? label = some holder ∧ nick = holder.nick ∧
        username = holder.username ∧ host = holder.host
  | .whoisServer nick domain => server.Knows nick ∧ domain = server.profile.domain
  | .listItem channel _ _ | .noTopic channel | .topic channel _ | .names channel _
  | .cannotSend channel | .notOnChannel channel | .notChannelOperator channel =>
      server.Lists channel
  | .endOfNames channel => server.Lists channel ∨ channel ∈ (message.param 0).pieces
  | .userNotInChannel nick channel => nick ∈ message.params ∧ server.Lists channel
  | .unknownMode letter channel => letter ∈ message.param 1 ∧ server.Lists channel
  | .noSuchNick target | .erroneousNickname target => target = message.param 0
  | .noSuchChannel target => target = message.param 0 ∨ target ∈ (message.param 0).pieces
  | .unknownCommand word => message.verb = .other word
  | _ => True

/-- The channel that a reply shows before its final text. -/
def Reply.channel? : Reply → Option Text
  | .listItem channel _ _ | .noTopic channel | .topic channel _ | .names channel _
  | .endOfNames channel | .cannotSend channel | .notOnChannel channel
  | .userNotInChannel _ channel | .notChannelOperator channel => some channel
  | _ => none

/-- Where a line of this command or code has the name of a channel. -/
def Line.channelPlace? (command : Text) : Option Nat :=
  if ([Command.join, .part, .mode, .topic, .privmsg, .notice].map Command.name).contains command then
    some 0
  else if (["322", "331", "332", "366", "404", "442", "482"] : List Text).contains command then some 1
  else if (["353", "441"] : List Text).contains command then some 2
  else none

def Param.channel? : Param → Option Text
  | word label => if label.head? = some '#' then some label else none
  | exact _ => none

/-- The channel that a line is about, in the spelling in which the line has it. -/
def Line.label? (line : Line) : Option Text :=
  ((channelPlace? line.command).bind fun place => line.params[place]?).bind Param.channel?

/-- What a line shows is there.  Only the end of a list of names can be of a channel that is not. -/
structure Line.Grounded (message : Message) (server : Server) (addressee : Addressee)
    (line : Line) : Prop where
  numbered : ∀ reply : Reply, line.command = reply.code →
    ∃ reply : Reply, reply.Grounded message server ∧ line = addressee.reply reply
  labelled : ∀ label, line.label? = some label → server.Lists label ∨ line.command = "366"

/-- All lines that come of a message. -/
def Reaction.lines (reaction : Reaction) : List Line :=
  reaction.relayed.map Delivery.line ++ reaction.replies

theorem Reaction.line_of_deliveries {reaction : Reaction} {delivery : Delivery}
    (sent : delivery ∈ reaction.deliveries) : delivery.line ∈ reaction.lines := by
  rcases List.mem_append.mp sent with others | own
  · exact List.mem_append_left _ (List.mem_map_of_mem others)
  · obtain ⟨line, written, rfl⟩ := List.mem_map.mp own
    exact List.mem_append_right _ written

def Reaction.Grounded (message : Message) (server : Server) (addressee : Addressee)
    (reaction : Reaction) : Prop :=
  ∀ line ∈ reaction.lines, line.Grounded message server addressee

namespace Server

variable {server later last : Server} {name : Text} {channel : Channel}

theorem Lists.of_found (found : server.channels.find? name = some channel) :
    server.Lists name ∧ server.Lists channel.name :=
  ⟨⟨name, channel, found, .inl rfl⟩, ⟨name, channel, found, .inr rfl⟩⟩

theorem Knows.of_found {nick : Text} {holder : User}
    (found : server.users.find? nick = some holder) :
    server.Knows nick ∧ server.Knows holder.nick :=
  ⟨⟨nick, holder, found, .inl rfl⟩, ⟨nick, holder, found, .inr rfl⟩⟩

theorem lists_of_sorted (keyed : server.channels.Keyed Channel.name)
    (listed : channel ∈ server.sortedChannels) : server.Lists channel.name :=
  (Lists.of_found (keyed.mem_values_iff.mp (List.mem_mergeSort.mp listed))).1

namespace Within

theorem refl (server : Server) : server.Within server :=
  ⟨rfl, rfl, fun found => ⟨_, found, rfl⟩⟩

theorem trans (first : server.Within later) (second : later.Within last) : server.Within last := by
  refine ⟨second.profile.trans first.profile, second.users.trans first.users, fun found => ?_⟩
  obtain ⟨middle, known, named⟩ := first.channels found
  obtain ⟨present, listed, same⟩ := second.channels known
  exact ⟨present, listed, same.trans named⟩

theorem lists (within : server.Within later) (listed : server.Lists name) : later.Lists name := by
  obtain ⟨label, channel, found, same⟩ := listed
  obtain ⟨present, known, named⟩ := within.channels found
  exact ⟨label, present, known, named ▸ same⟩

theorem addressee (within : server.Within later) (user : User) :
    later.addressee user = server.addressee user := by
  rw [Server.addressee, Server.addressee, within.profile]

theorem reply {message : Message} (within : server.Within later) {reply : Reply}
    (grounded : reply.Grounded message server) : reply.Grounded message later := by
  have lists : ∀ {name}, server.Lists name → later.Lists name := within.lists
  have known : ∀ {nick}, server.Knows nick → later.Knows nick := by
    rintro nick ⟨label, holder, found, same⟩
    exact ⟨label, holder, within.users ▸ found, same⟩
  cases reply with
  | myInfo => exact grounded.trans (congrArg Profile.domain within.profile.symm)
  | away | whoisOperator | endOfWhois | whoisChannels | nicknameInUse => exact known grounded
  | whoisUser =>
      obtain ⟨label, holder, found, same⟩ := grounded
      exact ⟨label, holder, within.users ▸ found, same⟩
  | whoisServer =>
      exact ⟨known grounded.1, grounded.2.trans (congrArg Profile.domain within.profile.symm)⟩
  | listItem | noTopic | topic | names | cannotSend | notOnChannel | notChannelOperator =>
      exact lists grounded
  | endOfNames => exact grounded.imp_left lists
  | userNotInChannel | unknownMode => exact ⟨grounded.1, lists grounded.2⟩
  | _ => exact grounded

theorem line {message : Message} (within : server.Within later) {addressee : Addressee}
    {line : Line} (grounded : line.Grounded message server addressee) :
    line.Grounded message later addressee := by
  refine ⟨fun reply named => ?_, fun label given =>
    (grounded.labelled label given).imp_left within.lists⟩
  obtain ⟨reply, known, same⟩ := grounded.numbered reply named
  exact ⟨reply, within.reply known, same⟩

/-- A channel under its own name in place of another with that name. -/
theorem setChannel (same : ∀ old, server.channels.find? name = some old → channel.name = old.name) :
    server.Within (server.setChannel name channel) := by
  refine ⟨rfl, rfl, fun {label old} found => ?_⟩
  rw [find?_setChannel]
  split
  · rename_i alike
    rw [Directory.find?_congr alike] at found
    exact ⟨channel, rfl, same old found⟩
  · exact ⟨old, found, rfl⟩

/-- What is changed in a listed channel adds no channel. -/
theorem of_setChannel {old : Channel} (found : server.channels.find? name = some old)
    (same : channel.name = old.name) : (server.setChannel name channel).Within server := by
  refine ⟨rfl, rfl, fun {label present} known => ?_⟩
  rw [find?_setChannel] at known
  split at known
  · rename_i alike
    cases known
    exact ⟨old, (Directory.find?_congr alike).trans found, same.symm⟩
  · exact ⟨present, known, rfl⟩

theorem of_advance (server : Server) (id : Nat) (state : ConnectionState) :
    (server.advance id state).Within server :=
  ⟨rfl, rfl, fun found => ⟨_, found, rfl⟩⟩

theorem of_leaveChannel (server : Server) (name nick : Text) :
    (server.leaveChannel name nick).Within server := by
  refine ⟨rfl, rfl, fun {label left} known => ?_⟩
  obtain ⟨channel, found, members, rfl, _⟩ := of_find?_leaveChannel known
  exact ⟨channel, found, rfl⟩

end Within

end Server

theorem Param.channel?_eq_some_iff {text label : Text} :
    (Param.word text).channel? = some label ↔ text.head? = some '#' ∧ text = label := by
  rw [channel?]
  split <;> simp_all

theorem Line.label?_reply (addressee : Addressee) (reply : Reply) :
    (addressee.reply reply).label? =
      reply.channel?.bind fun label => (Param.word label).channel? := by
  cases reply <;> rfl

theorem Line.label?_line (user : User) (command : Command) (label : Text) (params : List Param)
    (text : Option Text) : (user.line command (.word label :: params) text).label? =
      if command ∈ [Command.join, .part, .mode, .topic, .privmsg, .notice] then
        (Param.word label).channel? else none := by
  cases command <;> rfl

namespace Line.Grounded

variable {message : Message} {server : Server} {addressee : Addressee}

theorem reply {reply : Reply} (grounded : reply.Grounded message server) :
    (addressee.reply reply).Grounded message server addressee := by
  refine ⟨fun _ _ => ⟨reply, grounded, rfl⟩, fun label given => ?_⟩
  rw [Line.label?_reply] at given
  obtain ⟨channel, shown, same⟩ := Option.bind_eq_some_iff.mp given
  obtain ⟨_, rfl⟩ := Param.channel?_eq_some_iff.mp same
  cases reply with
  | listItem | noTopic | topic | names | cannotSend | notOnChannel | notChannelOperator =>
      exact .inl (Option.some.inj shown ▸ grounded)
  | userNotInChannel => exact .inl (Option.some.inj shown ▸ grounded.2)
  | endOfNames => exact .inr rfl
  | _ => cases shown

/-- A line under the name of a command is no reply. -/
theorem command {line : Line} {command : Command} (named : line.command = command.name)
    (labelled : ∀ label, line.label? = some label → server.Lists label) :
    line.Grounded message server addressee :=
  ⟨fun reply same => absurd (same.symm.trans named) (reply.code_ne command),
    fun label given => .inl (labelled label given)⟩

/-- A line about a channel on behalf of a client. -/
theorem about {user : User} {command : Command} {label : Text} {params : List Param}
    {text : Option Text} (listed : label.head? = some '#' → server.Lists label) :
    (user.line command (.word label :: params) text).Grounded message server addressee := by
  refine .command rfl fun other given => ?_
  rw [Line.label?_line] at given
  split at given
  · obtain ⟨marked, rfl⟩ := Param.channel?_eq_some_iff.mp given
    exact listed marked
  · cases given

end Line.Grounded

/-- A client is addressed as before unless it gives a name. -/
theorem Act.addressee {message : Message} {server : Server} {user : User} {reaction : Reaction}
    (act : Act message server user reaction) (notNick : message.verb ≠ .command .nick)
    (notUser : message.verb ≠ .command .user) (teller : Server) :
    teller.addressee reaction.user = teller.addressee user := by
  cases act with
  | renamed asked | named asked => exact absurd asked notNick
  | introduced asked => exact absurd asked notUser
  | enrolled _ giving =>
      rcases giving with ⟨asked, _⟩ | ⟨asked, _⟩
      · exact absurd asked notNick
      · exact absurd asked notUser
  | _ => rfl

theorem Acts.addressee {message : Message} {server : Server} {user : User} {reaction : Reaction}
    (acts : Acts message server user reaction) (notNick : message.verb ≠ .command .nick)
    (notUser : message.verb ≠ .command .user) (teller : Server) :
    teller.addressee reaction.user = teller.addressee user := by
  induction acts with
  | quit => rfl
  | last act => exact act.addressee notNick notUser teller
  | next act _ inductionHypothesis =>
      exact inductionHypothesis.trans (act.addressee notNick notUser teller)

namespace Handler

variable {message : Message} {server : Server} {user : User}

theorem grounded_told {teller later : Server} {present after : User} {replies : List Reply}
    {verdict : Verdict} {addressee : Addressee} (same : teller.addressee present = addressee)
    (grounded : ∀ reply ∈ replies, reply.Grounded message server) :
    Reaction.Grounded message server addressee
      { server := later, user := after, relayed := [], replies := replies.map (teller.reply present)
        verdict } := by
  intro line member
  obtain ⟨reply, said, rfl⟩ := List.mem_map.mp member
  rw [← same]
  exact .reply (grounded reply said)

theorem grounded_answer {verdict : Verdict} {replies : List Reply}
    (grounded : ∀ reply ∈ replies, reply.Grounded message server) :
    (answer verdict replies server user).Grounded message server (server.addressee user) :=
  grounded_told rfl grounded

theorem mem_lines_andThen {first : Reaction} {next : Handler} {line : Line} :
    line ∈ (first.andThen next).lines ↔
      line ∈ first.lines ∨ line ∈ (next first.server first.user).lines := by
  simp only [Reaction.lines, Reaction.andThen, List.map_append, List.mem_append]
  tauto

/-- A line for others that the client is told as well. -/
theorem grounded_announced {later stage teller : Server} {present : User} {nicks : List Text}
    {line : Line} {addressee : Addressee} (grounded : line.Grounded message stage addressee) :
    Reaction.Grounded message stage addressee
      { server := later, user := present, relayed := teller.relay nicks line, replies := [line]
        verdict := .accepted } := by
  intro other member
  rcases List.mem_append.mp member with told | own
  · obtain ⟨delivery, sent, rfl⟩ := List.mem_map.mp told
    rwa [(Server.of_mem_relay sent).1]
  · rwa [List.mem_singleton.mp own]

/-- Steps that leave every channel in its place write of what is there at the end. -/
theorem grounded_forEach_after {α : Type} {items : List α} {step : α → Handler}
    (each : ∀ item ∈ items, ∀ server,
      server.Within (step item server user).server ∧ (step item server user).user = user ∧
        (step item server user).Grounded message (step item server user).server
          (server.addressee user)) :
    server.Within (forEach items step server user).server ∧
      (forEach items step server user).Grounded message (forEach items step server user).server
        (server.addressee user) := by
  induction items generalizing server with
  | nil => exact ⟨.refl server, grounded_answer (by simp)⟩
  | cons item rest inductionHypothesis =>
      obtain ⟨first, others⟩ := List.forall_mem_cons.mp each
      obtain ⟨within, same, here⟩ := first server
      obtain ⟨further, later⟩ := @inductionHypothesis (step item server user).server others
      rw [within.addressee] at later
      have shape : (forEach (item :: rest) step server user).server =
          (forEach rest step (step item server user).server user).server :=
        congrArg (fun present =>
          (forEach rest step (step item server user).server present).server) same
      rw [shape]
      use within.trans further
      intro line member
      rcases mem_lines_andThen.mp member with now | after
      · exact further.line (here line now)
      · rw [same] at after
        exact later line after

/-- Steps that add no channel write of what is there at the start. -/
theorem grounded_forEach_before {α : Type} {items : List α} {step : α → Handler}
    (each : ∀ item ∈ items, ∀ server,
      (step item server user).server.Within server ∧ (step item server user).user = user ∧
        (step item server user).Grounded message server (server.addressee user)) :
    (forEach items step server user).Grounded message server (server.addressee user) := by
  induction items generalizing server with
  | nil => exact grounded_answer (by simp)
  | cons item rest inductionHypothesis =>
      obtain ⟨first, others⟩ := List.forall_mem_cons.mp each
      obtain ⟨within, same, here⟩ := first server
      have later := @inductionHypothesis (step item server user).server others
      rw [← within.addressee] at later
      intro line member
      rcases mem_lines_andThen.mp member with now | after
      · exact here line now
      · rw [same] at after
        exact within.line (later line after)

/-! What clients are told of the server. -/

theorem grounded_namesReplies (teller : Server) {channel : Channel}
    (listed : server.Lists channel.name) :
    ∀ reply ∈ teller.namesReplies channel, reply.Grounded message server := by
  intro reply member
  rcases List.mem_append.mp member with names | last
  · obtain ⟨shown, _, rfl⟩ := List.mem_map.mp names
    exact listed
  · rw [List.mem_singleton.mp last]
    exact .inl listed

theorem grounded_countReplies (teller : Server) :
    ∀ reply ∈ teller.countReplies, reply.Grounded message server := by
  simp [Server.countReplies, Reply.Grounded]

theorem grounded_motdReplies (teller : Server) :
    ∀ reply ∈ teller.motdReplies, reply.Grounded message server := by
  unfold Server.motdReplies
  split <;> simp [Reply.Grounded, or_imp, forall_and]

theorem grounded_whoisReplies {label : Text} {holder : User}
    (found : server.users.find? label = some holder) :
    ∀ reply ∈ server.whoisReplies holder, reply.Grounded message server := by
  have known := (Server.Knows.of_found found).2
  intro reply member
  simp only [Server.whoisReplies, List.mem_append] at member
  rcases member with ((((first | second) | third) | fourth) | fifth) | last
  · rw [List.mem_singleton.mp first]
    exact ⟨label, holder, found, rfl, rfl, rfl⟩
  · split at second
    · cases second
    · rw [List.mem_singleton.mp second]
      exact known
  · rw [List.mem_singleton.mp third]
    exact ⟨known, rfl⟩
  · obtain ⟨message, _, rfl⟩ := List.mem_map.mp fourth
    exact known
  · split at fifth
    · rw [List.mem_singleton.mp fifth]
      exact known
    · cases fifth
  · rw [List.mem_singleton.mp last]
    exact known

theorem grounded_list (keyed : server.channels.Keyed Channel.name) (targets : Text) :
    (list targets server user).Grounded message server (server.addressee user) := by
  apply grounded_answer
  rw [List.forall_mem_append]
  constructor
  · intro reply member
    obtain ⟨channel, asked, rfl⟩ := List.mem_map.mp member
    split at asked
    · exact Server.lists_of_sorted keyed asked
    · obtain ⟨name, _, found⟩ := List.mem_filterMap.mp asked
      exact (Server.Lists.of_found found).2
  · simp [Reply.Grounded]

theorem grounded_names (keyed : server.channels.Keyed Channel.name) :
    (names (message.param 0) server user).Grounded message server (server.addressee user) := by
  rw [names]
  split
  · apply grounded_answer
    intro reply member
    obtain ⟨channel, listed, shown⟩ := List.mem_flatMap.mp member
    exact grounded_namesReplies server (Server.lists_of_sorted keyed listed) reply shown
  · apply grounded_forEach_before
    intro name asked server
    rw [namesOne]
    split
    · rename_i channel found
      have listed := (Server.Lists.of_found found).2
      exact ⟨.refl server, rfl, grounded_answer (grounded_namesReplies server listed)⟩
    · refine ⟨.refl server, rfl, grounded_answer ?_⟩
      simpa [Reply.Grounded] using .inr asked

theorem grounded_whois :
    (whois (message.param 0) server user).Grounded message server (server.addressee user) := by
  rw [whois]
  split
  · rename_i holder found
    exact grounded_answer (grounded_whoisReplies found)
  · exact grounded_answer (by simp [Reply.Grounded])

/-! Talking and being away. -/

theorem grounded_answers (command : Command) {reply : Reply}
    (grounded : reply.Grounded message server) :
    ∀ answer ∈ answers command reply, answer.Grounded message server := by
  unfold answers
  split <;> simp [grounded]

theorem grounded_talk (command : Command) (text : Text) :
    (talk command (message.param 0) text server user).Grounded message server
      (server.addressee user) := by
  rw [talk]
  split
  · exact grounded_answer (grounded_answers command trivial)
  split
  · rw [sayToChannel]
    split
    · exact grounded_answer (grounded_answers command rfl)
    rename_i channel found
    have listed := (Server.Lists.of_found found).1
    split
    · exact grounded_answer (grounded_answers command listed)
    · intro line member
      rw [Reaction.lines, List.append_nil] at member
      obtain ⟨delivery, sent, rfl⟩ := List.mem_map.mp member
      rw [(Server.of_mem_relay sent).1]
      exact .about fun _ => listed
  · rename_i unmarked
    rw [sayToUser]
    split
    · exact grounded_answer (grounded_answers command rfl)
    · rename_i recipient found
      have known := (Server.Knows.of_found found).2
      intro line member
      rcases List.mem_append.mp member with told | own
      · rw [List.mem_singleton.mp told]
        exact .about fun marked => absurd marked unmarked
      · obtain ⟨reply, said, rfl⟩ := List.mem_map.mp own
        obtain ⟨away, _, answered⟩ := List.mem_flatMap.mp said
        have grounded : (Reply.away recipient.nick away).Grounded message server := known
        exact .reply (grounded_answers command grounded reply answered)

theorem grounded_topic (text : Option Text) :
    (topic (message.param 0) text server user).Grounded message server (server.addressee user) := by
  rw [topic]
  split
  · exact grounded_answer (by simp [Reply.Grounded])
  rename_i channel found
  have listed := (Server.Lists.of_found found).2
  split
  · rw [setTopic]
    split
    · exact grounded_answer (by simpa [Reply.Grounded] using listed)
    · exact grounded_announced (.about fun _ => listed)
  · split <;> exact grounded_answer (by simpa [Reply.Grounded] using listed)

theorem grounded_away (text : Text) :
    (away text server user).Grounded message server (server.addressee user) := by
  apply grounded_told
  · rw [Server.addressee, Server.refresh_profile]
    rfl
  · split <;> simp [Reply.Grounded]

theorem grounded_ping (payload : Text) :
    (ping payload server user).Grounded message server (server.addressee user) := by
  intro line member
  rw [List.mem_singleton.mp member]
  exact @Line.Grounded.command message server _ _ .pong rfl (fun _ given => by cases given)

theorem grounded_quit (text : Text) :
    (quit text server user).Grounded message server (server.addressee user) := by
  intro line member
  rw [List.mem_singleton.mp member]
  refine ⟨fun reply same => ?_, fun _ given => by cases given⟩
  cases reply <;> cases same

/-! Operators. -/

theorem grounded_oper (password : Text) :
    (oper password server user).Grounded message server (server.addressee user) := by
  rw [oper]
  split
  · exact grounded_told rfl (by simp [Reply.Grounded])
  · apply grounded_told _ (by simp [Reply.Grounded])
    rw [Server.addressee, Server.refresh_profile]
    split <;> rfl

theorem grounded_changeMode {name : Text} {change : Mode.Change}
    (asked : change.nick ∈ message.params) :
    (changeMode name change server user).server.Within server ∧
      (changeMode name change server user).user = user ∧
      (changeMode name change server user).Grounded message server (server.addressee user) := by
  rw [changeMode]
  split
  · exact ⟨.refl server, rfl, grounded_answer (by simp)⟩
  rename_i channel found
  have listed := (Server.Lists.of_found found).2
  split
  · refine ⟨.refl server, rfl, grounded_answer ?_⟩
    simpa [Reply.Grounded] using ⟨asked, listed⟩
  · exact ⟨.of_setChannel found rfl, rfl, grounded_announced (.about fun _ => listed)⟩

theorem grounded_mode :
    (mode (message.param 0) (message.param 1) (message.params.drop 2) server user).Grounded message
      server (server.addressee user) := by
  rw [mode]
  split
  · exact grounded_answer (by simp [Reply.Grounded])
  rename_i channel found
  have listed := (Server.Lists.of_found found).2
  split
  · rename_i fault faulty
    have asked := Mode.letter_of_changesOf (Mode.fault_of_validate faulty)
    apply grounded_answer
    cases fault with
    | unknown letter =>
        simpa [modeFault, Reply.Grounded] using ⟨Mode.symbol_of_letters asked, listed⟩
    | missingParam letter => simp [modeFault, Reply.Grounded]
  · rename_i changes valid
    split
    · apply grounded_forEach_before
      intro change member server
      have given := Mode.nick_of_channelChanges (Mode.of_validate valid change member)
      exact grounded_changeMode (List.mem_of_mem_drop given)
    · exact grounded_answer (by simpa [Reply.Grounded] using listed)

/-! Channels. -/

theorem grounded_joinOne {name : Text} (asked : name ∈ (message.param 0).pieces) :
    server.Within (joinOne name server user).server ∧ (joinOne name server user).user = user ∧
      (joinOne name server user).Grounded message (joinOne name server user).server
        (server.addressee user) := by
  rw [joinOne]
  split
  · refine ⟨.refl server, rfl, grounded_answer ?_⟩
    simpa [Reply.Grounded] using .inr asked
  dsimp only
  split
  · rename_i channel entered
    have kept := Channel.name_of_join entered
    have within : server.Within (server.setChannel name channel) :=
      .setChannel fun old found => by rw [kept, found, Option.getD_some]
    have listed := (Server.Lists.of_found (server.find?_setChannel_self name channel)).2
    refine ⟨within, rfl, fun line member => ?_⟩
    rw [← within.addressee]
    rcases List.mem_append.mp member with told | own
    · obtain ⟨delivery, sent, rfl⟩ := List.mem_map.mp told
      rw [(Server.of_mem_relay sent).1]
      exact .about fun _ => listed
    rcases List.mem_cons.mp own with rfl | later
    · exact .about fun _ => listed
    · obtain ⟨reply, said, rfl⟩ := List.mem_map.mp later
      apply Line.Grounded.reply
      rcases List.mem_append.mp said with topic | names
      · obtain ⟨title, _, rfl⟩ := List.mem_map.mp topic
        exact listed
      · exact grounded_namesReplies _ listed reply names
  · exact ⟨.refl server, rfl, grounded_answer (by simp)⟩
  · exact ⟨.refl server, rfl, grounded_answer (by simp)⟩

theorem grounded_join :
    let reaction := join (message.param 0) server user
    reaction.Grounded message reaction.server (server.addressee user) :=
  (grounded_forEach_after fun _ asked _ => grounded_joinOne asked).2

theorem grounded_part (reason : Text) :
    (part (message.param 0) reason server user).Grounded message server (server.addressee user) := by
  apply grounded_forEach_before
  intro name asked server
  rw [partOne]
  split
  · refine ⟨.refl server, rfl, grounded_answer ?_⟩
    simpa [Reply.Grounded] using .inr asked
  rename_i channel found
  obtain ⟨spelled, listed⟩ := Server.Lists.of_found found
  split
  · exact ⟨.refl server, rfl, grounded_answer (by simpa [Reply.Grounded] using spelled)⟩
  · exact ⟨.of_leaveChannel server name user.nick, rfl,
      grounded_announced (.about fun _ => listed)⟩

/-! Names of clients. -/

theorem grounded_register :
    (register server user).Grounded message server
      (server.addressee (register server user).user) := by
  rw [register]
  split
  · rename_i nick username given known
    split
    · rename_i held
      obtain ⟨holder, found⟩ := Option.isSome_iff_exists.mp held
      exact @grounded_answer message server user.clearNick .refused _
        (by simpa [Reply.Grounded] using (Server.Knows.of_found found).1)
    · apply grounded_told rfl
      rw [Server.welcomeReplies, List.forall_mem_append, List.forall_mem_append]
      refine ⟨⟨?_, grounded_countReplies _⟩, grounded_motdReplies _⟩
      simp [Reply.Grounded, Server.enroll, Server.advance]
  · exact grounded_answer (by simp)

theorem grounded_nick :
    let reaction := nick (message.param 0) server user
    reaction.Grounded message server (server.addressee reaction.user) := by
  dsimp only
  rw [nick]
  split
  · exact grounded_answer (by simp [Reply.Grounded])
  split
  · exact grounded_answer (by simp [Reply.Grounded])
  split
  · rw [nextNick]
    split
    · exact grounded_answer (by simp)
    split
    · rename_i held
      obtain ⟨holder, found, _⟩ := (Option.any_eq_true _ _).mp held
      exact grounded_answer (by simpa [Reply.Grounded] using (Server.Knows.of_found found).1)
    · exact grounded_announced (@Line.Grounded.command message server _ _ .nick rfl
        fun _ given => by cases given)
  · rw [firstNick]
    split
    · rename_i held
      obtain ⟨holder, found⟩ := Option.isSome_iff_exists.mp held
      exact grounded_answer (by simpa [Reply.Grounded] using (Server.Knows.of_found found).1)
    · intro line member
      exact (Server.Within.of_advance server user.id .identified).line (grounded_register line member)

theorem grounded_user (username realname : Text) :
    let reaction := Handler.user username realname server user
    reaction.Grounded message server (server.addressee reaction.user) := fun line member =>
  (Server.Within.of_advance server user.id .identified).line (grounded_register line member)

theorem grounded_run (keyed : server.channels.Keyed Channel.name) {command : Command}
    (notNick : command ≠ .nick) (notUser : command ≠ .user) :
    let reaction := run command message server user
    ∃ stage, (stage = server ∨ stage = reaction.server) ∧
      reaction.Grounded message stage (server.addressee user) := by
  have before : ∀ {handler : Handler},
      (handler server user).Grounded message server (server.addressee user) →
        ∃ stage, (stage = server ∨ stage = (handler server user).server) ∧
          (handler server user).Grounded message stage (server.addressee user) :=
    fun grounded => ⟨server, .inl rfl, grounded⟩
  cases command with
  | away => exact before (grounded_away _)
  | join => exact ⟨_, .inr rfl, grounded_join⟩
  | list => exact before (grounded_list keyed _)
  | lusers => exact before (grounded_answer (grounded_countReplies server))
  | mode => exact before grounded_mode
  | motd => exact before (grounded_answer (grounded_motdReplies server))
  | names => exact before (grounded_names keyed)
  | nick => exact absurd rfl notNick
  | notice => exact before (grounded_talk .notice _)
  | oper => exact before (grounded_oper _)
  | part => exact before (grounded_part _)
  | ping => exact before (grounded_ping _)
  | pong => exact before (grounded_answer (by simp))
  | privmsg => exact before (grounded_talk .privmsg _)
  | quit => exact before (grounded_quit _)
  | topic => exact before (grounded_topic _)
  | user => exact absurd rfl notUser
  | whois => exact before grounded_whois

/-- Whatever is said, the lines that come of it write of what is there, or of what was said. -/
theorem grounded_handle (keyed : server.channels.Keyed Channel.name) (message : Message)
    (user : User) :
    let reaction := handle message server user
    ∃ stage, (stage = server ∨ stage = reaction.server) ∧
      reaction.Grounded message stage (server.addressee reaction.user) := by
  rcases handle_cases message server user with ⟨_, _, same, dismissed⟩ | ⟨command, admits, same⟩
  · rw [same]
    refine ⟨server, .inl rfl, grounded_answer fun reply member => ?_⟩
    cases dismissed reply member with
    | unknown asked => exact asked
    | _ => trivial
  rw [same]
  by_cases notNick : command = .nick
  · subst notNick
    exact ⟨server, .inl rfl, grounded_nick⟩
  by_cases notUser : command = .user
  · subst notUser
    exact ⟨server, .inl rfl, grounded_user _ _⟩
  have unnamed : ∀ other, command ≠ other → message.verb ≠ .command other := by
    intro other differs again
    exact differs (Verb.command.inj (admits.asked.symm.trans again))
  dsimp only
  rw [(run_acts admits).addressee (unnamed .nick notNick) (unnamed .user notUser)]
  exact grounded_run keyed notNick notUser

end Handler

end IrcServer
