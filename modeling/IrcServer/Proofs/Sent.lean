import IrcServer.Message.Parser
import IrcServer.Proofs.Relay

namespace IrcServer

namespace Network

/-! What one event sends, and what of it each client receives.

`sent` is what the server writes, and `linesFor` what reaches a client: the same lines if the other
end of its queue is there, and none otherwise. -/

/-- The lines that a client receives from a step. -/
def Outcome.linesFor (outcome : Outcome) (number : QueueId) : List Line :=
  linesTo number outcome.received

theorem Outcome.textFor_eq (outcome : Outcome) (number : QueueId) :
    outcome.textFor number = (outcome.linesFor number).flatMap Line.wire := by
  rw [Outcome.linesFor, linesTo, List.flatMap_map]
  rfl

/-- The lines that an event sends, whether their queues take them or not. -/
def sent (network : Network) : Event → List Delivery
  | .connected _ | .lostQueue _ => []
  | .said number message =>
      match network.speaker? (.said number message) with
      | some (_, client, _) =>
          let reaction := Handler.handle message network.server client.user
          reaction.deliveries ++
            if closes client reaction then (reaction.server.depart reaction.user none).2 else []
      | none => []
  | .left number error =>
      match (network.client? number).filter Client.live with
      | some client => (network.server.depart client.user error).2
      | none => []

section Received

variable {network : Network} {number : Nat} {client : Client}

theorem linesTo_received_eq (network : Network) (number : QueueId) (deliveries : List Delivery) :
    linesTo number (network.received deliveries) =
      if network.isListening number then linesTo number deliveries else [] := by
  unfold linesTo received
  rw [List.filter_filter]
  cases listening : network.isListening number with
  | true =>
      rw [if_pos rfl]
      refine congrArg (List.map Delivery.line) (List.filter_congr fun delivery _ => ?_)
      by_cases same : delivery.queue = number
      · simp [same, listening]
      · simp [same]
  | false =>
      rw [if_neg Bool.false_ne_true, List.map_eq_nil_iff, List.filter_eq_nil_iff]
      intro delivery _ both
      obtain ⟨same, open_⟩ := Bool.and_eq_true_iff.mp both
      rw [of_decide_eq_true same, listening] at open_
      cases open_

theorem linesTo_received (listening : network.isListening number = true)
    (deliveries : List Delivery) :
    linesTo number (network.received deliveries) = linesTo number deliveries := by
  rw [linesTo_received_eq, if_pos listening]

theorem received_append (network : Network) (first second : List Delivery) :
    network.received (first ++ second) = network.received first ++ network.received second :=
  List.filter_append _ _

theorem received_congr {later : Network}
    (same : ∀ number, later.isListening number = network.isListening number)
    (deliveries : List Delivery) : later.received deliveries = network.received deliveries := by
  unfold received
  exact List.filter_congr fun delivery _ => same delivery.queue

theorem isListening_reacted (found : network.client? number = some client) (reaction : Reaction)
    (other : Nat) :
    (network.reacted number client reaction).isListening other = network.isListening other := by
  unfold isListening
  rw [client?_reacted found]
  split
  · rename_i same
    rw [same, found]
    rfl
  · rfl

theorem roster_reacted (found : network.client? number = some client) (live : client.live = true)
    (reaction : Reaction) :
    (network.reacted number client reaction).roster =
      Function.update network.roster number (some reaction.user) := by
  have replaced := @roster_setClient { network with server := reaction.server } number client found
    { client with user := reaction.user }
  rw [if_pos live] at replaced
  exact replaced

theorem sent_said (found : network.client? number = some client) (live : client.live = true)
    (message : Message) :
    network.sent (.said number message) =
      (Handler.handle message network.server client.user).deliveries ++
        if closes client (Handler.handle message network.server client.user) then
          ((Handler.handle message network.server client.user).server.depart
            (Handler.handle message network.server client.user).user none).2
        else [] := by
  rw [sent, speaker?_eq_some_iff.mpr ⟨rfl, found, live⟩]

theorem sent_left (found : network.client? number = some client) (live : client.live = true)
    (error : Option Text) :
    network.sent (.left number error) = (network.server.depart client.user error).2 := by
  rw [sent, found, Option.filter_some_pos live]

theorem sent_eq_nil {event : Event} (silent : network.speaker? event = none)
    (nothing : network.step event = network.idle) : network.sent event = [] := by
  cases event with
  | connected | lostQueue => rfl
  | said number message => rw [sent, silent]
  | left number error =>
      rw [sent]
      split
      · rename_i client chosen
        obtain ⟨found, live⟩ := Option.filter_eq_some_iff.mp chosen
        have gone : network.step (.left number error) = network.depart number client error := by
          rw [step, found]
          exact if_pos live
        cases congrArg Outcome.closed (nothing.symm.trans gone)
      · rfl

/-- Whatever is sent comes of a client's message, or tells of a departure. -/
theorem sent_cases {event : Event} {delivery : Delivery} (sent : delivery ∈ network.sent event) :
    (∃ number client message, event = .said number message ∧
      network.client? number = some client ∧ client.live = true ∧
      delivery ∈ (Handler.handle message network.server client.user).deliveries) ∨
    ∃ user text, delivery.line = User.line user .quit [] text := by
  rcases network.step_cases event with ⟨silent, same⟩ | ⟨host, rfl, same⟩ |
    ⟨number, client, found, live, ⟨message, rfl, same⟩ | ⟨error, rfl, same⟩ | ⟨rfl, same⟩⟩
  · rw [sent_eq_nil silent same] at sent
    cases sent
  · cases sent
  · rw [sent_said found live, List.mem_append] at sent
    rcases sent with told | departed
    · exact .inl ⟨number, client, message, rfl, found, live, told⟩
    · split at departed
      · exact .inr ⟨_, _, Server.line_of_depart departed⟩
      · cases departed
  · rw [sent_left found live] at sent
    exact .inr ⟨_, _, Server.line_of_depart sent⟩
  · cases sent

/-- Clients receive what is sent to queues that are still there. -/
theorem received_step (network : Network) (event : Event) :
    (network.step event).received = network.received (network.sent event) := by
  rcases network.step_cases event with ⟨silent, same⟩ | ⟨host, rfl, same⟩ |
    ⟨number, client, found, live, ⟨message, rfl, same⟩ | ⟨error, rfl, same⟩ | ⟨rfl, same⟩⟩
  · rw [same, sent_eq_nil silent same]
    rfl
  · rw [same]
    rfl
  · rw [same, sent_said found live, handle_eq]
    have listening := isListening_reacted found (Handler.handle message network.server client.user)
    dsimp only
    split
    · rw [received_append, received_congr listening]
      exact congrArg _ (received_congr listening _)
    · rw [List.append_nil, received_congr listening]
  · rw [same, sent_left found live]
    rfl
  · rw [same]
    rfl

theorem linesFor_step (network : Network) (event : Event) (number : Nat) :
    (network.step event).linesFor number =
      if network.isListening number then linesTo number (network.sent event) else [] := by
  rw [Outcome.linesFor, received_step, linesTo_received_eq]

end Received

/-! A message of a client that is answered and stays. -/

section Answered

variable {network : Network} {number : Nat} {client : Client} {message : Message}

theorem setClient_self (found : network.client? number = some client) :
    network.setClient number client = network := by
  obtain ⟨inRange, known⟩ := List.getElem?_eq_some_iff.mp found
  unfold setClient
  rw [← known, List.set_getElem_self]

theorem reacted_of_still (found : network.client? number = some client) {reaction : Reaction}
    (server : reaction.server = network.server) (user : reaction.user = client.user) :
    network.reacted number client reaction = network := by
  unfold reacted
  rw [server, user]
  exact setClient_self found

theorem linesTo_deliveries {reaction : Reaction} (queue : reaction.user.queue = number)
    (other : Nat) :
    linesTo other reaction.deliveries =
      linesTo other reaction.relayed ++ if other = number then reaction.replies else [] := by
  rw [Reaction.deliveries, linesTo_append, queue]
  split
  · rename_i same
    rw [same, linesTo_own]
  · rename_i differs
    rw [linesTo_other (Ne.symm differs)]

/-- A client whose queue is open stays unless it quits.  It is answered after all others. -/
theorem step_answered (orderly : network.Orderly) (found : network.client? number = some client)
    (live : client.live = true) (listening : client.listening = true) {reaction : Reaction}
    (handled : Handler.handle message network.server client.user = reaction)
    (staying : reaction.user.quitReason = none) :
    (network.step (.said number message)).network = network.reacted number client reaction ∧
      (network.step (.said number message)).closed = false ∧
      ∀ other, (network.step (.said number message)).linesFor other =
        (if network.isListening other then linesTo other reaction.relayed else []) ++
          if other = number then reaction.replies else [] := by
  have stays : closes client reaction = false := by simp [closes, listening, staying]
  have queue : reaction.user.queue = number := by
    rw [← handled, (Handler.handle_acts message network.server client.user).queue]
    exact (orderly number client found).1
  refine ⟨?_, ?_, fun other => ?_⟩
  · rw [step_said found live, handle_eq, handled]
    simp only [stays, Bool.false_eq_true, if_false]
  · rw [step_said found live, handle_eq, handled]
    simp only [stays, Bool.false_eq_true, if_false]
  · rw [linesFor_step, sent_said found live, handled, stays, if_neg Bool.false_ne_true,
      List.append_nil, linesTo_deliveries queue]
    by_cases same : other = number
    · have hears : network.isListening other = true := by
        rw [isListening, same, found]
        exact listening
      rw [if_pos hears, if_pos hears]
    · rw [if_neg same, List.append_nil, List.append_nil]

/-- A message that leaves the client's record as it is changes nothing but the server. -/
theorem step_unchanged (orderly : network.Orderly) (found : network.client? number = some client)
    (live : client.live = true) (listening : client.listening = true) {reaction : Reaction}
    (handled : Handler.handle message network.server client.user = reaction)
    (unchanged : reaction.user = client.user) :
    (network.step (.said number message)).network = { network with server := reaction.server } ∧
      (network.step (.said number message)).closed = false ∧
      ∀ other, (network.step (.said number message)).linesFor other =
        (if network.isListening other then linesTo other reaction.relayed else []) ++
          if other = number then reaction.replies else [] := by
  have staying : reaction.user.quitReason = none := by
    rw [unchanged]
    exact (orderly number client found).2 live
  obtain ⟨after, closed, lines⟩ := step_answered orderly found live listening handled staying
  refine ⟨?_, closed, lines⟩
  rw [after, reacted, unchanged]
  exact @setClient_self { network with server := reaction.server } number client found

/-- A message that is only answered changes nothing. -/
theorem step_answer (orderly : network.Orderly) (found : network.client? number = some client)
    (live : client.live = true) (listening : client.listening = true) {verdict : Verdict}
    {replies : List Reply}
    (handled : Handler.handle message network.server client.user =
      Handler.answer verdict replies network.server client.user) :
    (network.step (.said number message)).network = network ∧
      (network.step (.said number message)).closed = false ∧
      ∀ other, (network.step (.said number message)).linesFor other =
        if other = number then replies.map (network.server.reply client.user) else [] := by
  obtain ⟨after, closed, lines⟩ := step_unchanged orderly found live listening handled rfl
  refine ⟨after, closed, fun other => (lines other).trans ?_⟩
  simp [Handler.answer, linesTo]

/-- A registered client gives a command with parameters, and its queue is open. -/
structure Gives (network : Network) (number : Nat) (client : Client) (message : Message)
    (command : Command) (name : Text) (more : List Text) : Prop where
  found : network.client? number = some client
  live : client.live = true
  registered : client.user.registered = true
  listening : client.listening = true
  asked : message.verb = .command command
  params : message.params = name :: more

namespace Gives

variable {command : Command} {name : Text} {more : List Text}

theorem here (gives : network.Gives number client message command name more) :
    network.roster number = some client.user :=
  roster_of_client gives.found gives.live

theorem first (gives : network.Gives number client message command name more) :
    message.param 0 = name :=
  Message.param_zero gives.params

theorem handled (gives : network.Gives number client message command name more)
    (late : command ≠ .user) (few : command.minParams ≤ 1) :
    Handler.handle message network.server client.user =
      Handler.run command message network.server client.user :=
  Handler.handle_eq_run gives.asked gives.registered late
    (Nat.le_trans few (by simp [gives.params]))

/-- It is answered and stays, unless the command has it quit. -/
theorem answered (gives : network.Gives number client message command name more)
    (orderly : network.Orderly) {reaction : Reaction}
    (handled : Handler.handle message network.server client.user = reaction)
    (same : reaction.user.quitReason = client.user.quitReason) :
    (network.step (.said number message)).network = network.reacted number client reaction ∧
      (network.step (.said number message)).closed = false ∧
      ∀ other, (network.step (.said number message)).linesFor other =
        (if network.isListening other then linesTo other reaction.relayed else []) ++
          if other = number then reaction.replies else [] :=
  step_answered orderly gives.found gives.live gives.listening handled
    (same.trans ((orderly number client gives.found).2 gives.live))

end Gives

end Answered

/-! A short run, for examples. -/

/-- What clients say, line by line. -/
def spoken (lines : List (Nat × Text)) : List Event :=
  lines.flatMap fun line => (Message.parse? line.2).toList.map (Event.said line.1)

def teaProfile : Profile :=
  { domain := "irc.test", password := "secret", createdAt := "now", motd := none, nickLimit := 9,
    channelLimit := 50 }

/-- Two clients meet in a channel.  The second is made an operator there and takes another name. -/
def teaRun : List Event :=
  [.connected "east", .connected "west"] ++
    spoken [(0, "NICK ann"), (0, "USER a 0 * Ann"), (1, "NICK bob"), (1, "USER b 0 * Bob"),
      (0, "JOIN #tea"), (1, "JOIN #TEA"), (0, "MODE #tea +o bob"), (1, "NICK Bert")]

end Network

end IrcServer
