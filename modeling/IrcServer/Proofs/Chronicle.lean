import IrcServer.Text
import Mathlib.Data.List.Induction
import Mathlib.Data.List.Pairwise

namespace IrcServer

/-! What clients do about channels, move by move, and what it comes to.

A `Move` is what a client asks for, whether it changes anything or not, and it knows the client by
its number.  Who is in a channel is a matter of moves alone: whoever joined it and has neither
parted nor left since (`Stays`).  `Chapter` follows one channel through a list of moves, and
`Chapter.of_told` says what it then knows. -/

inductive Move where
  | joins (client : Nat) (name : Text)
  | parts (client : Nat) (name : Text)
  | titles (client : Nat) (name title : Text)
  /-- The client is gone from the server. -/
  | leaves (client : Nat)
deriving DecidableEq, Repr

/-- The move takes the client out of the channel, if it was in it. -/
def Move.Ends (client : Nat) (key : Text) : Move → Prop
  | parts other name => other = client ∧ name.fold = key.fold
  | leaves other => other = client
  | joins _ _ | titles _ _ _ => False

/-- The client has joined the channel and not left it since. -/
def Stays (moves : List Move) (client : Nat) (key : Text) : Prop :=
  ∃ earlier name later, moves = earlier ++ .joins client name :: later ∧ name.fold = key.fold ∧
    ∀ move ∈ later, ¬ move.Ends client key

/-- Both clients are in the channel, and the first was in it when the second joined. -/
def EntersBefore (moves : List Move) (key : Text) (first second : Nat) : Prop :=
  ∃ earlier name later, moves = earlier ++ .joins second name :: later ∧ name.fold = key.fold ∧
    Stays earlier first key ∧ ¬ Stays earlier second key ∧
      ∀ move ∈ later, ¬ move.Ends first key ∧ ¬ move.Ends second key

/-- The topic of a channel once some moves have followed its opening.  The last TOPIC of a client
that was in the channel decides, and an empty text takes the topic away. -/
inductive Titled (key : Text) (opening : List Move) : List Move → Option Text → Prop
  | untouched : Titled key opening [] none
  | set {later : List Move} {client : Nat} {name title : Text}
      (member : Stays (opening ++ later) client key) (same : name.fold = key.fold) :
      Titled key opening (later ++ [.titles client name title])
        (if title = [] then none else some title)
  | kept {later : List Move} {move : Move} {topic : Option Text}
      (titled : Titled key opening later topic)
      (idle : ∀ client name title, move = .titles client name title → name.fold = key.fold →
        ¬ Stays (opening ++ later) client key) :
      Titled key opening (later ++ [move]) topic

section Stays

variable {moves : List Move} {move : Move} {client first second : Nat} {key : Text}

theorem not_stays_nil : ¬ Stays [] client key := by
  rintro ⟨earlier, name, later, split, _⟩
  simp at split

theorem stays_append :
    Stays (moves ++ [move]) client key ↔
      (∃ name, move = .joins client name ∧ name.fold = key.fold) ∨
        Stays moves client key ∧ ¬ move.Ends client key := by
  constructor
  · rintro ⟨earlier, name, later, split, same, stayed⟩
    rcases List.eq_nil_or_concat later with rfl | ⟨before, last, rfl⟩
    · exact .inl ⟨name, (List.append_singleton_inj.mp split).2, same⟩
    · rw [List.concat_eq_append, ← List.cons_append, ← List.append_assoc] at split
      rw [List.concat_eq_append] at stayed
      obtain ⟨rfl, rfl⟩ := List.append_singleton_inj.mp split
      exact .inr ⟨⟨earlier, name, before, rfl, same, fun other member =>
        stayed other (List.mem_append_left _ member)⟩, stayed move (by simp)⟩
  · rintro (⟨name, rfl, same⟩ | ⟨⟨earlier, name, later, rfl, same, stayed⟩, stays⟩)
    · exact ⟨moves, name, [], rfl, same, by simp⟩
    · refine ⟨earlier, name, later ++ [move], by simp, same, fun other member => ?_⟩
      rcases List.mem_append.mp member with old | new
      · exact stayed other old
      · rw [List.mem_singleton.mp new]
        exact stays

theorem EntersBefore.append (before : EntersBefore moves key first second)
    (firstStays : ¬ move.Ends first key) (secondStays : ¬ move.Ends second key) :
    EntersBefore (moves ++ [move]) key first second := by
  obtain ⟨earlier, name, later, rfl, same, stays, absent, stayed⟩ := before
  refine ⟨earlier, name, later ++ [move], by simp, same, stays, absent, fun other member => ?_⟩
  rcases List.mem_append.mp member with old | new
  · exact stayed other old
  · rw [List.mem_singleton.mp new]
    exact ⟨firstStays, secondStays⟩

theorem EntersBefore.of_joins (stays : Stays moves first key) (absent : ¬ Stays moves second key)
    {name : Text} (same : name.fold = key.fold) :
    EntersBefore (moves ++ [.joins second name]) key first second :=
  ⟨moves, name, [], rfl, same, stays, absent, by simp⟩

end Stays

/-- A channel as the moves since its opening left it, with the clients in it in the order in which
they entered. -/
structure Chapter where
  name : Text
  entrants : List Nat
  topic : Option Text
deriving DecidableEq, Repr

namespace Chapter

def enter (chapter : Chapter) (client : Nat) : Chapter :=
  if client ∈ chapter.entrants then chapter
  else { chapter with entrants := chapter.entrants ++ [client] }

/-- The chapter without a client.  It ends when nobody is left. -/
def without (chapter : Chapter) (client : Nat) : Option Chapter :=
  let entrants := chapter.entrants.filter (· ≠ client)
  if entrants = [] then none else some { chapter with entrants }

def retitle (chapter : Chapter) (client : Nat) (title : Text) : Chapter :=
  if client ∈ chapter.entrants then
    { chapter with topic := if title = [] then none else some title }
  else chapter

/-- The chapter of a channel after one more move. -/
def next (key : Text) (present : Option Chapter) : Move → Option Chapter
  | .joins client name =>
      if name.fold = key.fold then
        some ((present.getD { name, entrants := [], topic := none }).enter client)
      else present
  | .parts client name =>
      if name.fold = key.fold then present.bind fun chapter => chapter.without client else present
  | .titles client name title =>
      if name.fold = key.fold then present.map fun chapter => chapter.retitle client title
      else present
  | .leaves client => present.bind fun chapter => chapter.without client

/-- The chapter of a channel after all moves. -/
def of (key : Text) (moves : List Move) : Option Chapter :=
  moves.foldl (next key) none

theorem of_append (key : Text) (moves : List Move) (move : Move) :
    of key (moves ++ [move]) = next key (of key moves) move := by
  rw [of, List.foldl_append]
  rfl

end Chapter

/-- What a chapter knows: who is in the channel and in what order they came, how the channel was
opened when it was empty, that it has not been empty since, and its topic. -/
structure Chapter.Tells (key : Text) (moves : List Move) (chapter : Chapter) : Prop where
  inhabited : chapter.entrants ≠ []
  mem : ∀ client, client ∈ chapter.entrants ↔ Stays moves client key
  order : chapter.entrants.Pairwise (EntersBefore moves key)
  opened : ∃ earlier opener later, moves = earlier ++ .joins opener chapter.name :: later ∧
    chapter.name.fold = key.fold ∧ (∀ client, ¬ Stays earlier client key) ∧
    (∀ begun, begun <+: later →
      ∃ client, Stays (earlier ++ .joins opener chapter.name :: begun) client key) ∧
    Titled key (earlier ++ [.joins opener chapter.name]) later chapter.topic

/-- What is known of a channel by its chapter, or from there being none. -/
def Chapter.Told (key : Text) (moves : List Move) : Option Chapter → Prop
  | none => ∀ client, ¬ Stays moves client key
  | some chapter => chapter.Tells key moves

namespace Chapter.Tells

variable {key : Text} {moves : List Move} {move : Move} {chapter later : Chapter}

/-- A channel opens. -/
theorem opening (deserted : ∀ client, ¬ Stays moves client key) (client : Nat) {name : Text}
    (same : name.fold = key.fold) :
    Tells key (moves ++ [.joins client name]) ⟨name, [client], none⟩ where
  inhabited := List.cons_ne_nil _ _
  mem other := by
    rw [List.mem_singleton, stays_append]
    constructor
    · rintro rfl
      exact .inl ⟨name, rfl, same⟩
    · rintro (⟨_, joined, _⟩ | ⟨stays, _⟩)
      · cases joined
        rfl
      · exact absurd stays (deserted other)
  order := List.pairwise_singleton _ _
  opened := by
    refine ⟨moves, client, [], rfl, same, deserted, fun begun first => ?_, .untouched⟩
    rw [List.prefix_nil.mp first]
    exact ⟨client, stays_append.mpr (.inl ⟨name, rfl, same⟩)⟩

/-- One more move in a channel that stays open. -/
theorem append (tells : Tells key moves chapter) (name : later.name = chapter.name)
    (inhabited : later.entrants ≠ [])
    (mem : ∀ client, client ∈ later.entrants ↔ Stays (moves ++ [move]) client key)
    (order : later.entrants.Pairwise (EntersBefore (moves ++ [move]) key))
    (titled : ∀ {opening since}, moves = opening ++ since →
      Titled key opening since chapter.topic →
        Titled key opening (since ++ [move]) later.topic) :
    Tells key (moves ++ [move]) later := by
  obtain ⟨earlier, opener, since, split, same, deserted, peopled, topic⟩ := tells.opened
  refine ⟨inhabited, mem, order, earlier, opener, since ++ [move], by simp [split, name], name ▸ same,
    deserted, fun begun first => ?_, ?_⟩
  · rw [name]
    rcases List.prefix_concat_iff.mp first with rfl | old
    · obtain ⟨client, present⟩ := List.exists_mem_of_ne_nil _ inhabited
      have stays := (mem client).mp present
      rw [split, List.append_assoc] at stays
      exact ⟨client, stays⟩
    · exact peopled begun old
  · rw [name]
    exact titled (by simp [split]) topic

/-- A move after which the same clients are in the channel. -/
theorem remain (tells : Tells key moves chapter) (name : later.name = chapter.name) (entrants : later.entrants = chapter.entrants)
    (ends : ∀ client, ¬ move.Ends client key)
    (joins : ∀ client name, move = .joins client name → name.fold = key.fold →
      client ∈ chapter.entrants)
    (titled : ∀ {opening since}, moves = opening ++ since →
      Titled key opening since chapter.topic →
        Titled key opening (since ++ [move]) later.topic) :
    Tells key (moves ++ [move]) later := by
  refine tells.append name (entrants ▸ tells.inhabited) (fun client => ?_) ?_ titled
  · rw [entrants, stays_append, tells.mem]
    constructor
    · exact fun stays => .inr ⟨stays, ends client⟩
    · rintro (⟨name, joined, same⟩ | ⟨stays, _⟩)
      · exact (tells.mem client).mp (joins client name joined same)
      · exact stays
  · rw [entrants]
    exact tells.order.imp fun before => before.append (ends _) (ends _)

/-- Without a TOPIC the topic is kept. -/
theorem untitled {topic : Option Text}
    (other : ∀ client name title, move = .titles client name title → name.fold ≠ key.fold) :
    ∀ {opening since : List Move}, moves = opening ++ since → Titled key opening since topic →
      Titled key opening (since ++ [move]) topic :=
  fun _ titled => titled.kept fun client name title same here =>
    absurd here (other client name title same)

theorem enter (tells : Tells key moves chapter) (client : Nat) {name : Text}
    (same : name.fold = key.fold) :
    Tells key (moves ++ [.joins client name]) (chapter.enter client) := by
  unfold Chapter.enter
  split
  · rename_i present
    refine tells.remain rfl rfl (fun _ => id) (fun other label joined _ => ?_)
      (untitled fun _ _ _ titles => ?_)
    · cases joined
      exact present
    · cases titles
  · rename_i absent
    have away : ¬ Stays moves client key := mt (tells.mem client).mpr absent
    refine tells.append rfl (by simp) (fun other => ?_) ?_ (untitled fun _ _ _ titles => ?_)
    · rw [List.mem_append, List.mem_singleton, stays_append, tells.mem]
      constructor
      · rintro (stays | rfl)
        · exact .inr ⟨stays, id⟩
        · exact .inl ⟨name, rfl, same⟩
      · rintro (⟨_, joined, _⟩ | ⟨stays, _⟩)
        · cases joined
          exact .inr rfl
        · exact .inl stays
    · refine List.pairwise_append.mpr ⟨tells.order.imp fun before => before.append id id,
        List.pairwise_singleton _ _, fun first present second last => ?_⟩
      rw [List.mem_singleton.mp last]
      exact .of_joins ((tells.mem first).mp present) away same
    · cases titles

theorem retitle (tells : Tells key moves chapter) (client : Nat) {name : Text}
    (same : name.fold = key.fold) (title : Text) :
    Tells key (moves ++ [.titles client name title]) (chapter.retitle client title) := by
  unfold Chapter.retitle
  split
  · rename_i present
    refine tells.remain rfl rfl (fun _ => id) (fun _ _ joined => ?_)
      fun split _ => .set ?_ same
    · cases joined
    · rw [← split]
      exact (tells.mem client).mp present
  · rename_i absent
    refine tells.remain rfl rfl (fun _ => id) (fun _ _ joined => ?_)
      fun split titled => titled.kept fun _ _ _ titles _ => ?_
    · cases joined
    · cases titles
      rw [← split]
      exact mt (tells.mem client).mpr absent

/-- A move that takes one client out, if it was in the channel. -/
theorem without (tells : Tells key moves chapter) {client : Nat}
    (ends : ∀ other, move.Ends other key ↔ other = client)
    (joins : ∀ other name, move ≠ .joins other name)
    (titles : ∀ other name title, move ≠ .titles other name title) :
    Told key (moves ++ [move]) (chapter.without client) := by
  have left : ∀ other, other ∈ chapter.entrants.filter (· ≠ client) ↔
      Stays (moves ++ [move]) other key := by
    intro other
    rw [List.mem_filter, decide_eq_true_eq, stays_append, tells.mem, ends]
    constructor
    · exact fun both => .inr both
    · rintro (⟨name, joined, _⟩ | both)
      · exact absurd joined (joins other name)
      · exact both
  unfold Chapter.without
  dsimp only
  split
  · rename_i emptied
    intro other stays
    have present := (left other).mpr stays
    rw [emptied] at present
    cases present
  · rename_i inhabited
    refine tells.append rfl inhabited left ?_ (untitled fun other name title same =>
      absurd same (titles other name title))
    refine (tells.order.filter _).imp_of_mem fun {first second} one two before => ?_
    have firstOther := of_decide_eq_true (List.mem_filter.mp one).2
    have secondOther := of_decide_eq_true (List.mem_filter.mp two).2
    exact before.append (mt (ends first).mp firstOther) (mt (ends second).mp secondOther)

end Chapter.Tells

namespace Chapter.Told

variable {key : Text} {moves : List Move} {present : Option Chapter} {move : Move}

theorem deserted (absent : ∀ client, ¬ Stays moves client key)
    (joins : ∀ client name, move = .joins client name → name.fold ≠ key.fold) :
    Told key (moves ++ [move]) none := by
  intro client stays
  rcases stays_append.mp stays with ⟨name, joined, same⟩ | ⟨stayed, _⟩
  · exact joins client name joined same
  · exact absent client stayed

/-- A move that is about other channels. -/
theorem idle (told : Told key moves present) (ends : ∀ client, ¬ move.Ends client key)
    (joins : ∀ client name, move = .joins client name → name.fold ≠ key.fold)
    (titles : ∀ client name title, move = .titles client name title → name.fold ≠ key.fold) :
    Told key (moves ++ [move]) present := by
  cases present with
  | none => exact deserted told joins
  | some chapter =>
      exact told.remain rfl rfl ends (fun client name joined same =>
        absurd same (joins client name joined)) (Tells.untitled titles)

theorem next (told : Told key moves present) (move : Move) :
    Told key (moves ++ [move]) (next key present move) := by
  cases move with
  | joins client name =>
      by_cases same : name.fold = key.fold
      · rw [Chapter.next, if_pos same]
        cases present with
        | none => exact .opening told client same
        | some chapter => exact told.enter client same
      · rw [Chapter.next, if_neg same]
        refine told.idle (fun _ => id) (fun _ _ joined => ?_) fun _ _ _ titles => ?_
        · cases joined
          exact same
        · cases titles
  | parts client name =>
      by_cases same : name.fold = key.fold
      · rw [Chapter.next, if_pos same]
        cases present with
        | none => exact deserted told fun _ _ joined => by cases joined
        | some chapter =>
            refine told.without (fun other => ?_) (fun _ _ => Move.noConfusion)
              fun _ _ _ => Move.noConfusion
            exact ⟨fun ends => ends.1.symm, fun ends => ⟨ends.symm, same⟩⟩
      · rw [Chapter.next, if_neg same]
        refine told.idle (fun _ ends => same ends.2) (fun _ _ joined => ?_) fun _ _ _ titles => ?_
        · cases joined
        · cases titles
  | titles client name title =>
      by_cases same : name.fold = key.fold
      · rw [Chapter.next, if_pos same]
        cases present with
        | none => exact deserted told fun _ _ joined => by cases joined
        | some chapter => exact told.retitle client same title
      · rw [Chapter.next, if_neg same]
        refine told.idle (fun _ => id) (fun _ _ joined => ?_) fun _ _ _ titles => ?_
        · cases joined
        · cases titles
          exact same
  | leaves client =>
      cases present with
      | none => exact deserted told fun _ _ joined => by cases joined
      | some chapter =>
          exact told.without (fun other => eq_comm) (fun _ _ => Move.noConfusion)
            fun _ _ _ => Move.noConfusion

end Chapter.Told

/-- A chapter is there while clients are in the channel, and tells what has happened since the
first of them came. -/
theorem Chapter.of_told (key : Text) (moves : List Move) : Told key moves (of key moves) := by
  induction moves using List.reverseRecOn with
  | nil => exact fun _ => not_stays_nil
  | append_singleton moves move inductionHypothesis =>
      rw [of_append]
      exact inductionHypothesis.next move

end IrcServer
