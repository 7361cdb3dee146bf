import IrcServer.Proofs.Deeds
import IrcServer.Proofs.Departure
import IrcServer.Proofs.Perform
import IrcServer.Proofs.Progress

namespace IrcServer

/-! Who is welcomed, and when.

The welcome greets the client, counts who is there and ends with the message of the day, or with
the word that there is none (`Profile.welcome`).  `001` opens it and stands in no other line, so it
tells how often a client is welcomed.  An act writes it as often as it registers its client, and a
run therefore once for each client that it has registered. -/

namespace Profile

def dayLine (line : Text) : Text × Option Text :=
  ("372", some ("- " ++ line))

/-- The message of the day, as codes and texts. -/
def dayMessage (profile : Profile) : List (Text × Option Text) :=
  match profile.motd with
  | none => [("422", some "MOTD File is missing")]
  | some motd =>
      ("375", some ("- " ++ profile.domain ++ " Message of the day - ")) ::
        (motd.lines.map dayLine).concat ("376", some "End of MOTD command")

/-- A whole welcome: the code of each line, and the text that stands at its end. -/
def welcome (profile : Profile) (fullName : Text) (registered clients : Nat) :
    List (Text × Option Text) :=
  ("001", some ("Welcome to the Internet Relay Network " ++ fullName)) ::
    ("002", some ("Your host is " ++ profile.domain ++ ", running version " ++ Program.release)) ::
    ("003", some ("This server was created " ++ profile.createdAt)) ::
    ("004", none) ::
    ("251", some ("There are " ++ Text.ofNat registered ++ " users and 0 services on 1 servers")) ::
    ("252", some "operator(s) online") ::
    ("253", some "unknown connection(s)") ::
    ("254", some "channels formed") ::
    ("255", some ("I have " ++ Text.ofNat clients ++ " clients and 1 servers")) ::
    profile.dayMessage

end Profile

theorem Server.motdReplies_lines (server : Server) (user : User) :
    ((server.motdReplies.map (server.reply user)).map fun line => (line.command, line.text)) =
      server.profile.dayMessage := by
  unfold motdReplies Profile.dayMessage
  cases server.profile.motd with
  | none => rfl
  | some motd =>
      dsimp only
      rw [List.concat_eq_append, List.map_append, List.map_append, List.map_cons, List.map_cons,
        List.map_map, List.map_map]
      rfl

theorem Server.welcomeReplies_lines (server : Server) (user : User) :
    (((server.welcomeReplies user).map (server.reply user)).map fun line =>
        (line.command, line.text)) =
      server.profile.welcome user.fullName (server.countConnections .registered)
        (server.countConnections .identified + server.countConnections .registered) := by
  rw [welcomeReplies, List.map_append, List.map_append, motdReplies_lines]
  rfl

/-- The first line of the welcome. -/
def Line.isWelcome (line : Line) : Bool :=
  line.command = "001"

section Unwelcoming

variable {server : Server} {user : User} {line : Line}

theorem User.isWelcome_line (user : User) (command : Command) (params : List Param)
    (text : Option Text) : (user.line command params text).isWelcome = false := by
  refine decide_eq_false fun same => ?_
  exact Reply.code_ne (.welcome []) command same.symm

theorem Server.isWelcome_reply {reply : Reply} (unwelcoming : ∀ fullName, reply ≠ .welcome fullName) :
    (server.reply user reply).isWelcome = false :=
  decide_eq_false (Reply.code_ne_welcome unwelcoming)

theorem Server.isWelcome_replies {replies : List Reply}
    (unwelcoming : ∀ fullName, .welcome fullName ∉ replies) :
    ∀ line ∈ replies.map (server.reply user), line.isWelcome = false := by
  intro line member
  obtain ⟨reply, said, rfl⟩ := List.mem_map.mp member
  exact isWelcome_reply fun fullName same => unwelcoming fullName (same ▸ said)

theorem Answer.isWelcome (answer : Answer server user line) : line.isWelcome = false := by
  cases answer with
  | reply unwelcoming => exact Server.isWelcome_reply unwelcoming
  | pong => rfl

theorem isWelcome_relay {queue : QueueId} {nicks : List Text} {command : Command}
    {params : List Param} {text : Option Text}
    (told : line ∈ linesTo queue (server.relay nicks (user.line command params text))) :
    line.isWelcome = false := by
  rw [line_of_mem_relay told]
  exact user.isWelcome_line command params text

theorem Server.isWelcome_depart {queue : QueueId} {error : Option Text}
    (told : line ∈ linesTo queue (server.depart user error).2) : line.isWelcome = false := by
  unfold depart at told
  split at told
  · exact isWelcome_relay told
  · cases told

theorem countP_unwelcome {lines : List Line} (unwelcome : ∀ line ∈ lines, line.isWelcome = false) :
    lines.countP Line.isWelcome = 0 := by
  rw [List.countP_eq_zero]
  intro line member welcome
  rw [unwelcome line member] at welcome
  cases welcome

/-- The welcome is opened once. -/
theorem Server.countP_welcomeReplies (server : Server) (user : User) :
    ((server.welcomeReplies user).map (server.reply user)).countP Line.isWelcome = 1 := by
  obtain ⟨rest, shape, unwelcoming⟩ := Tracks.welcomeReplies_eq server user
  rw [shape, List.map_cons, List.countP_cons, countP_unwelcome (isWelcome_replies unwelcoming)]
  rfl

end Unwelcoming

namespace Act

variable {message : Message} {server : Server} {user : User} {reaction : Reaction}

theorem isWelcome_relayed (act : Act message server user reaction) (queue : QueueId) :
    ∀ line ∈ linesTo queue reaction.relayed, line.isWelcome = false := by
  intro line told
  cases act with
  | still talk =>
      obtain ⟨delivery, member, _, rfl⟩ := mem_linesTo.mp told
      obtain ⟨_, command, params, text, _, spoken⟩ := talk delivery member
      rw [spoken]
      exact user.isWelcome_line command params text
  | joined | parted | changed | titled | renamed => exact isWelcome_relay told
  | marked | empowered | named | introduced | enrolled => cases told

/-- An act welcomes its client as often as it registers it. -/
theorem countP_replies (act : Act message server user reaction) :
    reaction.replies.countP Line.isWelcome + user.registered.toNat =
      reaction.user.registered.toNat := by
  have idle : ∀ {lines : List Line}, (∀ line ∈ lines, line.isWelcome = false) →
      lines.countP Line.isWelcome + user.registered.toNat = user.registered.toNat := by
    intro lines unwelcome
    rw [countP_unwelcome unwelcome, Nat.zero_add]
  have own : ∀ (command : Command) (params : List Param) (text : Option Text),
      ∀ line ∈ [user.line command params text], line.isWelcome = false := by
    intro command params text line member
    rw [List.mem_singleton.mp member]
    exact user.isWelcome_line command params text
  cases act with
  | still _ answers | marked _ _ answers | empowered _ _ answers | introduced _ _ _ answers =>
      exact idle fun line member => (answers line member).isWelcome
  | parted | changed | titled | renamed => exact idle (own _ _ _)
  | named => exact idle nofun
  | joined =>
      refine idle (List.forall_mem_cons.mpr ⟨user.isWelcome_line _ _ _, ?_⟩)
      refine Server.isWelcome_replies fun fullName member => ?_
      rcases List.mem_append.mp member with title | names
      · obtain ⟨_, _, same⟩ := List.mem_map.mp title
        cases same
      · exact Handler.unwelcoming_namesReplies _ _ _ names
  | @enrolled nick _ given unregistered =>
      rw [unregistered]
      exact Server.countP_welcomeReplies (Handler.enrolled nick given server user).server
        { given with registered := true }

end Act

namespace Acts

variable {message : Message} {server : Server} {user : User} {reaction : Reaction}

theorem isWelcome_relayed (acts : Acts message server user reaction) (queue : QueueId) :
    ∀ line ∈ linesTo queue reaction.relayed, line.isWelcome = false := by
  induction acts with
  | quit => exact nofun
  | last act => exact act.isWelcome_relayed queue
  | next act _ inductionHypothesis =>
      rw [linesTo_append, List.forall_mem_append]
      exact ⟨act.isWelcome_relayed queue, inductionHypothesis⟩

theorem countP_replies (acts : Acts message server user reaction) :
    reaction.replies.countP Line.isWelcome + user.registered.toNat =
      reaction.user.registered.toNat := by
  induction acts with
  | quit => exact Nat.zero_add _
  | last act => exact act.countP_replies
  | next act _ inductionHypothesis =>
      have first := act.countP_replies
      dsimp only
      rw [List.countP_append]
      omega

end Acts

/-- The reaction is the welcome of its client, which stays, and nothing else. -/
structure Reaction.Welcomes (reaction : Reaction) : Prop where
  staying : reaction.user.quitReason = none
  relayed : reaction.relayed = []
  replies : reaction.replies = (reaction.server.welcomeReplies reaction.user).map
    (reaction.server.reply reaction.user)

namespace Handler

variable {message : Message} {server : Server} {user : User}

theorem register_welcomes (unregistered : user.registered = false)
    (staying : user.quitReason = none)
    (registers : (register server user).user.registered = true) :
    (register server user).Welcomes := by
  unfold register at registers ⊢
  split at registers
  · split at registers
    · cases unregistered.symm.trans registers
    · rename_i free
      rw [if_neg free]
      exact ⟨staying, rfl, rfl⟩
  · cases unregistered.symm.trans registers

theorem nick_welcomes (name : Text) (unregistered : user.registered = false)
    (staying : user.quitReason = none)
    (registers : (nick name server user).user.registered = true) :
    (nick name server user).Welcomes := by
  have refused : ∀ replies, ¬ (refuse replies server user).user.registered = true := by
    intro replies known
    cases unregistered.symm.trans known
  unfold nick firstNick at registers ⊢
  rw [unregistered, if_neg Bool.false_ne_true] at registers ⊢
  split at registers
  · exact absurd registers (refused _)
  split at registers
  · exact absurd registers (refused _)
  split at registers
  · exact absurd registers (refused _)
  · rename_i given valid free
    rw [if_neg given, if_neg valid, if_neg free]
    exact register_welcomes unregistered staying registers

/-- Whoever is registered by a message is welcomed as the answer to it. -/
theorem handle_welcomes (unregistered : user.registered = false)
    (staying : user.quitReason = none)
    (registers : (handle message server user).user.registered = true) :
    (handle message server user).Welcomes := by
  rcases handle_cases message server user with ⟨_, _, same, _⟩ | ⟨command, admits, same⟩
  · rw [same] at registers
    cases unregistered.symm.trans registers
  rw [same] at registers ⊢
  cases command with
  | nick => exact nick_welcomes _ unregistered staying registers
  | user =>
      have given : (user.setUsername (message.param 0) (message.param 3)).registered = false :=
        unregistered
      exact register_welcomes given staying registers
  | ping | pong | quit => cases unregistered.symm.trans registers
  | _ => cases unregistered.symm.trans (admits.registered rfl)

theorem handle_lusers (asked : message.verb = .command .lusers)
    (registered : user.registered = true) :
    handle message server user = lusers server user :=
  handle_eq_run asked registered nofun (Nat.zero_le _)

end Handler

namespace Network

/-- The client, gone or not, is registered. -/
def isRegistered (network : Network) (number : Nat) : Bool :=
  (network.client? number).any fun client => client.user.registered

/-- The lines that a run sends to a client, whether its queue takes them or not. -/
def written (network : Network) (number : QueueId) : List Event → List Line :=
  network.gathered fun network event => linesTo number (network.sent event)

section Step

variable {network : Network} {number : Nat} {client : Client}

theorem isRegistered_replace {later : Network} {after : Client}
    (replaced : ∀ other, later.client? other =
      if other = number then some after else network.client? other) (other : Nat) :
    later.isRegistered other =
      if other = number then after.user.registered else network.isRegistered other := by
  unfold isRegistered
  rw [replaced]
  split <;> rfl

theorem isRegistered_still {later : Network} {after : Client}
    (found : network.client? number = some client)
    (replaced : ∀ other, later.client? other =
      if other = number then some after else network.client? other)
    (same : after.user.registered = client.user.registered) (other : Nat) :
    later.isRegistered other = network.isRegistered other := by
  rw [isRegistered_replace replaced]
  split
  · rename_i here
    rw [here, isRegistered, found, same]
    rfl
  · rfl

/-- A message welcomes its client as often as it registers it. -/
theorem countP_sent_said (orderly : network.Orderly) (found : network.client? number = some client)
    (live : client.live = true) (message : Message) (other : Nat) :
    (linesTo other (network.sent (.said number message))).countP Line.isWelcome +
        (network.isRegistered other).toNat =
      ((network.handle number client message).network.isRegistered other).toNat := by
  have acts := Handler.handle_acts message network.server client.user
  have queue := acts.queue.trans (orderly number client found).1
  have gone : ∀ line ∈ linesTo other
      (if closes client (Handler.handle message network.server client.user) then
        ((Handler.handle message network.server client.user).server.depart
          (Handler.handle message network.server client.user).user none).2 else []),
      line.isWelcome = false := by
    intro line told
    split at told
    · exact Server.isWelcome_depart told
    · cases told
  rw [sent_said found live, linesTo_append, List.countP_append, countP_unwelcome gone,
    linesTo_deliveries queue, List.countP_append,
    countP_unwelcome (acts.isWelcome_relayed other),
    isRegistered_replace (client?_handle message found)]
  have counted := acts.countP_replies
  by_cases same : other = number
  · rw [if_pos same, if_pos same, same, isRegistered, found, Option.any_some]
    dsimp only
    omega
  · rw [if_neg same, if_neg same]
    simp

theorem countP_sent (orderly : network.Orderly) (event : Event) (number : Nat) :
    (linesTo number (network.sent event)).countP Line.isWelcome +
        (network.isRegistered number).toNat =
      ((network.step event).network.isRegistered number).toNat := by
  rcases network.step_cases event with ⟨silent, same⟩ | ⟨host, rfl, same⟩ |
    ⟨speaker, client, found, live, ⟨message, rfl, same⟩ | ⟨error, rfl, same⟩ | ⟨rfl, same⟩⟩
  · rw [sent_eq_nil silent same, same]
    exact Nat.zero_add _
  · rw [same]
    change 0 + _ = ((network.connect host).isRegistered number).toNat
    rw [Nat.zero_add, isRegistered_replace (client?_connect network host)]
    split
    · rename_i new
      have absent : network.client? number = none := by
        rw [new]
        exact List.getElem?_eq_none (Nat.le_refl _)
      rw [isRegistered, absent]
      rfl
    · rfl
  · rw [same]
    exact countP_sent_said orderly found live message number
  · rw [same, sent_left found live, countP_unwelcome fun _ told => Server.isWelcome_depart told,
      Nat.zero_add, isRegistered_still found (client?_depart found client error) rfl]
  · have replaced := @client?_setClient network speaker client { client with listening := false }
      found
    rw [same]
    change 0 + _ = ((network.loseQueue speaker client).isRegistered number).toNat
    rw [Nat.zero_add, loseQueue, isRegistered_still found replaced rfl]

theorem isRegistered_step (orderly : network.Orderly) (event : Event)
    (registered : network.isRegistered number = true) :
    (network.step event).network.isRegistered number = true := by
  have counted := countP_sent orderly event number
  rw [registered] at counted
  cases later : (network.step event).network.isRegistered number with
  | true => rfl
  | false =>
      rw [later] at counted
      simp at counted

theorem countP_written (profile : Profile) (events : List Event) (number : Nat) :
    ((new profile).written number events).countP Line.isWelcome =
      (((new profile).after events).isRegistered number).toNat := by
  induction events using List.reverseRecOn with
  | nil => rfl
  | append_singleton events event inductionHypothesis =>
      have counted := countP_sent (orderly_after profile events) event number
      rw [written] at inductionHypothesis ⊢
      rw [gathered_append, List.countP_append, inductionHypothesis, after_append]
      omega

end Step

/-- A client that an event registers is sent its welcome, and nothing else. -/
theorem sent_of_registers (profile : Profile) (events : List Event) {event : Event} {number : Nat}
    (before : ((new profile).after events).isRegistered number = false)
    (after : (((new profile).after events).step event).network.isRegistered number = true) :
    ∃ client message, event = .said number message ∧
      ((new profile).after events).client? number = some client ∧ client.live = true ∧
      let reaction := Handler.handle message ((new profile).after events).server client.user
      reaction.Welcomes ∧ reaction.server.profile = profile ∧
        linesTo number (((new profile).after events).sent event) = reaction.replies := by
  have orderly := orderly_after profile events
  have counted := countP_sent orderly event number
  rw [before, after] at counted
  have unsaid : (∀ line ∈ linesTo number (((new profile).after events).sent event),
      line.isWelcome = false) → False := by
    intro unwelcome
    rw [countP_unwelcome unwelcome] at counted
    cases counted
  rcases ((new profile).after events).step_cases event with ⟨silent, same⟩ | ⟨host, rfl, same⟩ |
    ⟨speaker, client, found, live, ⟨message, rfl, same⟩ | ⟨error, rfl, same⟩ | ⟨rfl, same⟩⟩
  · rw [sent_eq_nil silent same] at unsaid
    exact (unsaid fun _ told => absurd told List.not_mem_nil).elim
  · exact (unsaid fun _ told => absurd told List.not_mem_nil).elim
  · rw [same, isRegistered_replace (client?_handle message found)] at after
    have own : number = speaker := by
      by_contra differs
      rw [if_neg differs, before] at after
      cases after
    subst own
    rw [if_pos rfl] at after
    rw [isRegistered, found, Option.any_some] at before
    have welcomes := Handler.handle_welcomes before ((orderly number client found).2 live) after
    have queue := (Handler.handle_acts message ((new profile).after events).server
      client.user).queue.trans (orderly number client found).1
    -- The client may be gone at once, but its departure is told to others only.
    have departing := @Departing.answered profile number _ events client message _ rfl found live rfl
    have silent := (departing.parting.linesTo_depart none number).trans
      (if_neg fun all => all.1 rfl)
    have profileEq := departing.parting.consistent.registry.profileEq
    refine ⟨client, message, rfl, found, live, welcomes, profileEq, ?_⟩
    rw [sent_said found live, linesTo_append, linesTo_deliveries queue, welcomes.relayed,
      if_pos rfl]
    split
    · refine (congrArg _ silent).trans ?_
      simp [linesTo]
    · simp [linesTo]
  · rw [sent_left found live] at unsaid
    exact (unsaid fun _ told => Server.isWelcome_depart told).elim
  · exact (unsaid fun _ told => absurd told List.not_mem_nil).elim

/-- The connections are those of the live clients, and the state of each is what its client has
said of itself.  LUSERS counts them so.  A client that has registered stays so, and is sent the
whole welcome, from `001` to the message of the day, in the step in which it registers and in no
other. -/
theorem registration_agrees (profile : Profile) (events : List Event) :
    let network := (new profile).after events
    let clients := network.present
    (network.server.connections.entries.map Prod.fst).Perm (clients.map User.id) ∧
      (∀ user ∈ clients, ∃ connection,
        network.server.connections.find? user.id = some connection ∧
          (connection.state = .unknown ↔ user.nick? = none ∧ user.username? = none) ∧
          (connection.state = .identified ↔ user.nick?.isSome ≠ user.username?.isSome) ∧
          (connection.state = .registered ↔
            user.nick?.isSome = true ∧ user.username?.isSome = true) ∧
          (connection.state = .registered ↔ user.registered = true)) ∧
      network.server.countReplies =
        [.userCount (clients.countP User.registered),
          .operatorCount network.server.operators,
          .unknownCount (clients.countP fun user => user.nick?.isNone && user.username?.isNone),
          .channelCount (network.server.channels.values.countP fun channel =>
            channel.members ≠ []),
          .clientCount (clients.countP fun user => user.nick?.isSome || user.username?.isSome)] ∧
      clients.countP User.registered = network.server.users.size ∧
      (∀ number client message, network.client? number = some client → client.live = true →
        client.user.registered = true → client.listening = true →
        message.verb = .command .lusers →
        (network.step (.said number message)).linesFor number =
          network.server.countReplies.map (network.server.reply client.user)) ∧
      (∀ event number, network.isRegistered number = true →
        (network.step event).network.isRegistered number = true) ∧
      (∀ event number, network.isRegistered number = false →
        (network.step event).network.isRegistered number = true →
        ∃ client message, event = .said number message ∧ network.client? number = some client ∧
          let reaction := Handler.handle message network.server client.user
          linesTo number (network.sent event) =
              (reaction.server.welcomeReplies reaction.user).map
                (reaction.server.reply reaction.user) ∧
            ((linesTo number (network.sent event)).map fun line => (line.command, line.text)) =
              profile.welcome reaction.user.fullName
                (reaction.server.countConnections .registered)
                (reaction.server.countConnections .identified +
                  reaction.server.countConnections .registered) ∧
            (client.listening = true →
              (network.step event).network.server = reaction.server)) ∧
      ∀ number, ((new profile).written number events).countP Line.isWelcome =
        if network.isRegistered number = true then 1 else 0 := by
  intro network clients
  have orderly := orderly_after profile events
  have progressing := progressing_after profile events
  refine ⟨?_, fun user member => ?_,
    countReplies_eq progressing (consistent_after profile events) orderly, ?_,
    fun number client message found live registered listening asked => ?_,
    fun event number => isRegistered_step orderly event,
    fun event number before after => ?_, fun number => ?_⟩
  · have keys := (connections_perm progressing orderly).map Prod.fst
    rwa [List.map_map] at keys
  · obtain ⟨number, here⟩ := mem_present_iff.mp member
    exact ⟨_, progressing.connected here, User.progress_unknown_iff, User.progress_identified_iff,
      User.progress_registered_iff, (progressing.coherent here).symm⟩
  · have listed := (users_perm progressing.registry orderly).length_eq
    rw [registered_eq_filter, ← List.countP_eq_length_filter, Directory.values,
      List.length_map] at listed
    exact listed.symm
  · have answered := (step_answered orderly found live listening
      (Handler.handle_lusers asked registered) ((orderly number client found).2 live)).2.2 number
    rw [answered, if_pos rfl]
    split <;> rfl
  · obtain ⟨client, message, rfl, found, live, welcomes, profileEq, written⟩ :=
      sent_of_registers profile events before after
    have welcome := written.trans welcomes.replies
    refine ⟨client, message, rfl, found, welcome, ?_, fun listening => ?_⟩
    · rw [welcome, Server.welcomeReplies_lines, profileEq]
    rw [(step_answered orderly found live listening rfl welcomes.staying).1]
    rfl
  · rw [countP_written]
    change (network.isRegistered number).toNat = _
    cases network.isRegistered number <;> rfl

end Network

end IrcServer
