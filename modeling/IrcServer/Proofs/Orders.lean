import IrcServer.Proofs.Listing

namespace IrcServer

/-! Runs in which the channels are listed in any order.

A hash table lists its entries in an order of its own, which may be another one every time.  In
`executed` the channel directory is put into a chosen order before each message is handled, and into
another one before a departure.  No client can tell which orders were chosen. -/

/-- A way to put the entries of a directory into another order. -/
structure Shuffle (α : Type) where
  arrange : List (Text × α) → List (Text × α)
  perm : ∀ entries, (arrange entries).Perm entries

/-- The order that is there already. -/
def Shuffle.unchanged (α : Type) : Shuffle α :=
  ⟨id, fun _ => .refl _⟩

namespace Directory

variable {α : Type} {name : α → Text}

def shuffled (shuffle : Shuffle α) (directory : Directory α) : Directory α where
  entries := shuffle.arrange directory.entries
  distinct := ((shuffle.perm _).map Prod.fst).nodup_iff.mpr directory.distinct

@[simp] theorem find?_shuffled (shuffle : Shuffle α) (directory : Directory α) (name : Text) :
    (directory.shuffled shuffle).find? name = directory.find? name := by
  refine Option.ext fun value => ?_
  unfold find?
  rw [Entries.find?_eq_some_iff directory.distinct,
    Entries.find?_eq_some_iff (directory.shuffled shuffle).distinct]
  exact (shuffle.perm _).mem_iff

theorem Keyed.shuffled {directory : Directory α} (keyed : directory.Keyed name)
    (shuffle : Shuffle α) : (directory.shuffled shuffle).Keyed name :=
  fun entry member => keyed entry ((shuffle.perm _).mem_iff.mp member)

end Directory

/-- The server with its channels listed in another order. -/
def Server.listed (shuffle : Shuffle Channel) (server : Server) : Server :=
  { server with channels := server.channels.shuffled shuffle }

theorem Server.Alike.listed (shuffle : Shuffle Channel) (server : Server) :
    (server.listed shuffle).Alike server :=
  ⟨rfl, rfl, rfl, rfl, fun _ => Directory.find?_shuffled shuffle _ _⟩

theorem Consistent.listed {profile : Profile} {server : Server} {roster : Roster}
    (consistent : Consistent profile server roster) (shuffle : Shuffle Channel) :
    Consistent profile (server.listed shuffle) roster where
  registry := { consistent.registry with }
  keyed := consistent.keyed.shuffled shuffle
  sound found := consistent.sound ((Directory.find?_shuffled shuffle _ _).symm.trans found)

/-- The orders of one step: that in which a message finds the channels, and that in which they are
when its client departs. -/
structure Orders where
  reacting : Shuffle Channel
  departing : Shuffle Channel

def Orders.unchanged : Orders :=
  ⟨.unchanged Channel, .unchanged Channel⟩

namespace Network

def listed (shuffle : Shuffle Channel) (network : Network) : Network :=
  { network with server := network.server.listed shuffle }

/-- A message of a client, with the channels listed anew if the client departs. -/
def handleListed (network : Network) (departing : Shuffle Channel) (number : Nat) (client : Client)
    (message : Message) : Outcome :=
  let reaction := Handler.handle message network.server client.user
  let reacted := network.reacted number client reaction
  let received := reacted.received reaction.deliveries
  if closes client reaction then
    let departed :=
      (reacted.listed departing).depart number { client with user := reaction.user } none
    { departed with received := received ++ departed.received }
  else { network := reacted, received, closed := false }

/-- One event, with the channels listed in these orders. -/
def stepListed (network : Network) (orders : Orders) (event : Event) : Outcome :=
  match network.speaker? event with
  | some (number, client, message) =>
      (network.listed orders.reacting).handleListed orders.departing number client message
  | none => (network.listed orders.reacting).step event

/-- What comes of each event in turn.  Every step has orders of its own. -/
def executed (network : Network) (orders : Nat → Orders) : List Event → List Outcome
  | [] => []
  | event :: rest =>
      let outcome := network.stepListed (orders 0) event
      outcome :: outcome.network.executed (fun step => orders (step + 1)) rest

/-- Left in the order in which they are, the channels are as every step finds them. -/
theorem stepListed_unchanged (network : Network) (event : Event) :
    network.stepListed .unchanged event = network.step event := by
  unfold stepListed
  split
  · rename_i number client message heard
    obtain ⟨rfl, found, live⟩ := speaker?_eq_some_iff.mp heard
    rw [step_said found live]
    rfl
  · rfl

section Steps

variable {profile : Profile} {network left right : Network} {number : Nat} {client : Client}

theorem Twin.listed (twin : Twin profile left right) (one two : Shuffle Channel) :
    Twin profile (left.listed one) (right.listed two) where
  clients := twin.clients
  server := (Server.Alike.listed one left.server).trans
    (twin.server.trans (Server.Alike.listed two right.server).symm)
  orderly := twin.orderly
  consistent := twin.consistent.listed one
  mirrored := twin.mirrored.listed two

theorem Twin.symm (twin : Twin profile left right) : Twin profile right left where
  clients := twin.clients.symm
  server := twin.server.symm
  orderly number client found := twin.orderly number client ((twin.client?_eq number).trans found)
  consistent := twin.mirrored
  mirrored := twin.consistent

/-- What twins are beside their servers, they are again after any event that does not depend on
the order. -/
theorem Twin.step_silent (twin : Twin profile left right) {event : Event}
    (silent : left.speaker? event = none) :
    (left.step event).closed = (right.step event).closed ∧
      (left.step event).received = (right.step event).received ∧
      Twin profile (left.step event).network (right.step event).network := by
  have orderly := twin.orderly.step event
  have consistent := consistent_step twin.orderly twin.consistent event
  have mirrored := consistent_step twin.symm.orderly twin.mirrored event
  have alike := twin.server
  have keyedLeft := twin.consistent.keyed
  have keyedRight := twin.mirrored.keyed
  suffices same : (left.step event).closed = (right.step event).closed ∧
      (left.step event).received = (right.step event).received ∧
      (left.step event).network.clients = (right.step event).network.clients ∧
      (left.step event).network.server.Alike (right.step event).network.server from
    ⟨same.1, same.2.1, same.2.2.1, same.2.2.2, orderly, consistent, mirrored⟩
  obtain ⟨server, clients⟩ := left
  obtain ⟨other, others⟩ := right
  obtain rfl : clients = others := twin.clients
  cases event with
  | connected host =>
      have connections : server.connections = other.connections := alike.connections
      have profile : server.profile = other.profile := alike.profile
      simp only [step, connect, Server.connect, connections, profile]
      exact ⟨rfl, rfl, rfl, rfl, alike.users, rfl, alike.operators, alike.channels⟩
  | said number message =>
      have heard : speaker? ⟨other, clients⟩ (.said number message) = none := silent
      rw [step_unheard silent, step_unheard heard]
      exact ⟨rfl, rfl, rfl, alike⟩
  | left number error =>
      simp only [step, client?]
      split
      · split
        · rename_i client _ _
          obtain ⟨departed, told⟩ := alike.depart keyedLeft keyedRight client.user error
          exact ⟨rfl, congrArg (received _) told, rfl, departed⟩
        · exact ⟨rfl, rfl, rfl, alike⟩
      · exact ⟨rfl, rfl, rfl, alike⟩
  | lostQueue number =>
      simp only [step, client?]
      split
      · split
        · exact ⟨rfl, rfl, rfl, alike⟩
        · exact ⟨rfl, rfl, rfl, alike⟩
      · exact ⟨rfl, rfl, rfl, alike⟩

/-- The clients are as they are without another order. -/
theorem clients_handleListed (departing : Shuffle Channel) (message : Message) :
    (network.handleListed departing number client message).network.clients =
      (network.handle number client message).network.clients := by
  rw [handle_eq, handleListed]
  dsimp only
  split <;> rfl

theorem server_handleListed (departing : Shuffle Channel) (message : Message) :
    (network.handleListed departing number client message).network.server =
      let reaction := Handler.handle message network.server client.user
      if closes client reaction then ((reaction.server.listed departing).depart reaction.user none).1
      else reaction.server := by
  rw [handleListed]
  dsimp only
  split <;> rfl

theorem Orderly.handleListed (orderly : network.Orderly)
    (found : network.client? number = some client) (live : client.live = true)
    (departing : Shuffle Channel) (message : Message) :
    (network.handleListed departing number client message).network.Orderly := by
  have handled := orderly.step (.said number message)
  rw [step_said found live] at handled
  intro other present known
  rw [client?, clients_handleListed] at known
  exact handled other present known

theorem consistent_handleListed (orderly : network.Orderly)
    (consistent : Consistent profile network.server network.roster)
    (found : network.client? number = some client) (live : client.live = true)
    (departing : Shuffle Channel) (message : Message) :
    Consistent profile (network.handleListed departing number client message).network.server
      (network.handleListed departing number client message).network.roster := by
  have acts := Handler.handle_acts message network.server client.user
  obtain ⟨queue, staying⟩ := orderly number client found
  have reacted := (Consistent.kept profile fun _ => True).reaction orderly consistent found live
    message
  have roster : (network.handleListed departing number client message).network.roster =
      (network.handle number client message).network.roster := by
    funext other
    rw [Network.roster, Network.roster, client?, client?, clients_handleListed]
  rw [roster, server_handleListed, roster_handle message found live]
  dsimp only
  split
  · -- The departure finds its client as the reaction has left it.
    have same := acts.queue.trans queue
    rw [← Function.update_idem, ← same]
    refine (Consistent.listed ?_ departing).depart (Function.update_self _ _ _) none
    rw [same]
    exact reacted
  · rename_i stays
    rwa [User.settled_eq (staying_of_not_closes message (staying live) (eq_false_of_ne_true stays))]
      at reacted

theorem Twin.handleListed (twin : Twin profile left right)
    (found : left.client? number = some client) (live : client.live = true)
    (one two : Shuffle Channel) (message : Message) :
    let outcome := left.handleListed one number client message
    let other := right.handleListed two number client message
    outcome.closed = other.closed ∧ (∀ reader, outcome.linesFor reader = other.linesFor reader) ∧
      Twin profile outcome.network other.network := by
  intro outcome other
  have foundRight := (twin.client?_eq number).symm.trans found
  have orderly := twin.orderly.handleListed found live one message
  have consistent := consistent_handleListed twin.orderly twin.consistent found live one message
  have mirrored :=
    consistent_handleListed twin.symm.orderly twin.mirrored foundRight live two message
  have kept := Consistent.kept profile fun _ => True
  have keyedLeft := (kept.reaction twin.orderly twin.consistent found live message).keyed
  have keyedRight := (kept.reaction twin.symm.orderly twin.mirrored foundRight live message).keyed
  have alike : Reaction.Alike (Handler.handle message left.server client.user)
      (Handler.handle message right.server client.user) := twin.handle_alike found live
  suffices same : outcome.closed = other.closed ∧
      (∀ reader, outcome.linesFor reader = other.linesFor reader) ∧
      outcome.network.clients = other.network.clients ∧
      outcome.network.server.Alike other.network.server from
    ⟨same.1, same.2.1, same.2.2.1, same.2.2.2, orderly, consistent, mirrored⟩
  dsimp only [outcome, other, Network.handleListed]
  generalize Handler.handle message left.server client.user = reaction,
    Handler.handle message right.server client.user = answered at alike keyedLeft keyedRight ⊢
  have closing : closes client answered = closes client reaction := by
    rw [closes, closes, alike.replies, alike.verdict, alike.user]
  have clients : (left.reacted number client reaction).clients =
      (right.reacted number client answered).clients := by
    rw [reacted, reacted, setClient, setClient, alike.user]
    exact congrArg (List.set · number { client with user := answered.user }) twin.clients
  have hears (reader : Nat) : (left.reacted number client reaction).isListening reader =
      (right.reacted number client answered).isListening reader := by
    rw [isListening, isListening, client?, client?, clients]
  have told (reader : Nat) :
      linesTo reader ((left.reacted number client reaction).received reaction.deliveries) =
        linesTo reader ((right.reacted number client answered).received answered.deliveries) := by
    rw [linesTo_received_eq, linesTo_received_eq, hears, Reaction.deliveries, Reaction.deliveries,
      linesTo_append, linesTo_append, alike.relayed, alike.replies, alike.user]
  have relisted : (reaction.server.listed one).Alike (answered.server.listed two) :=
    (Server.Alike.listed one _).trans (alike.server.trans (Server.Alike.listed two _).symm)
  obtain ⟨departed, news⟩ := relisted.depart (keyedLeft.shuffled one) (keyedRight.shuffled two)
    reaction.user none
  rw [closing, ← alike.user]
  split
  · refine ⟨rfl, fun reader => ?_, ?_, departed⟩
    · have heard : linesTo reader ((left.reacted number client reaction).received
          ((reaction.server.listed one).depart reaction.user none).2) =
            linesTo reader ((right.reacted number client answered).received
              ((answered.server.listed two).depart reaction.user none).2) := by
        rw [linesTo_received_eq, linesTo_received_eq, hears, news]
      exact (linesTo_append reader _ _).trans
        ((congrArg₂ (· ++ ·) (told reader) heard).trans (linesTo_append reader _ _).symm)
    · exact congrArg (List.set · number { client with user := reaction.user, live := false }) clients
  · exact ⟨rfl, told, clients, alike.server⟩

theorem Twin.stepListed (twin : Twin profile left right) (one two : Orders) (event : Event) :
    let outcome := left.stepListed one event
    let other := right.stepListed two event
    outcome.closed = other.closed ∧ (∀ reader, outcome.linesFor reader = other.linesFor reader) ∧
      Twin profile outcome.network other.network := by
  intro outcome other
  have listed := twin.listed one.reacting two.reacting
  have heardRight : right.speaker? event = left.speaker? event := by
    cases event with
    | said => rw [speaker?, speaker?, twin.client?_eq]
    | connected | left | lostQueue => rfl
  dsimp only [outcome, other, Network.stepListed]
  rw [heardRight]
  split
  · rename_i number client message heard
    obtain ⟨rfl, found, live⟩ := speaker?_eq_some_iff.mp heard
    exact listed.handleListed found live one.departing two.departing message
  · rename_i silent
    have quiet : (left.listed one.reacting).speaker? event = none := by
      rw [← silent]
      cases event <;> rfl
    obtain ⟨closed, received, next⟩ := listed.step_silent quiet
    exact ⟨closed, fun reader => congrArg (linesTo reader) received, next⟩

/-- Nobody can tell the outcomes apart. -/
structure Outcome.Same (outcome other : Outcome) : Prop where
  closed : outcome.closed = other.closed
  text : ∀ number, outcome.textFor number = other.textFor number
  clients : outcome.network.clients = other.network.clients
  server : outcome.network.server.Alike other.network.server

theorem Twin.executed (twin : Twin profile left right) (orders others : Nat → Orders)
    (events : List Event) :
    List.Forall₂ Outcome.Same (left.executed orders events) (right.executed others events) := by
  induction events generalizing left right orders others with
  | nil => exact .nil
  | cons event rest inductionHypothesis =>
      obtain ⟨closed, lines, next⟩ := twin.stepListed (orders 0) (others 0) event
      refine .cons ⟨closed, fun number => ?_, next.clients, next.server⟩
        (inductionHypothesis next _ _)
      rw [Outcome.textFor_eq, Outcome.textFor_eq, lines]

end Steps

/-- A run is one of its executions. -/
theorem executed_unchanged (network : Network) (events : List Event) :
    network.executed (fun _ => .unchanged) events =
      network.gathered (fun network event => [network.step event]) events := by
  induction events generalizing network with
  | nil => rfl
  | cons event rest inductionHypothesis =>
      rw [executed, gathered, stepListed_unchanged, inductionHypothesis]
      rfl

/-- Whatever orders the channel directory takes before and within the steps of a run, each step
closes the same connections, sends every client the same text and leaves the same clients and the
same channels, with their members in the same order. -/
theorem listing_order_is_hidden (profile : Profile) (events : List Event)
    (orders others : Nat → Orders) :
    List.Forall₂ Outcome.Same ((new profile).executed orders events)
      ((new profile).executed others events) := by
  have consistent := (Consistent.kept profile fun _ => True).new
  have twin : Twin profile (new profile) (new profile) :=
    ⟨rfl, .refl _, orderly_new profile, consistent, consistent⟩
  exact twin.executed orders others events

end Network

end IrcServer
