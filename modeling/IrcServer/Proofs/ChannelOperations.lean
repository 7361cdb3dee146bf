import IrcServer.Proofs.MemberMap

namespace IrcServer

/-! Channels as maps that can be closed.

`Channel.Meaning` is what a channel amounts to: a map of members, a topic, and whether it is closed,
which it can only be with nobody in it.  Every operation of a channel gives the result that it gives
on the meaning, and leaves a channel with the meaning that it leaves there. -/

namespace Channel

/-- All that can be done with a channel. -/
inductive Operation where
  | join (nick : Text) (operator : Bool)
  | leave (nick : Text)
  | rename (old nick : Text)
  | setOperator (nick : Text) (operator : Bool)
  | setTopic (topic : Text)
  | closeIfEmpty
  | isMember (nick : Text)
  | isOperator (nick : Text)
  | memberCount
  | nicks
  | members
  | topic
deriving DecidableEq, Repr

inductive Result where
  | joined (outcome : JoinOutcome)
  | left (outcome : LeaveOutcome)
  | told (answer : Bool)
  | counted (count : Nat)
  | named (nicks : List Text)
  | listed (members : List Member)
  | titled (topic : Option Text)
  | done
deriving DecidableEq, Repr

/-- Operations one after another, on whatever they are performed on. -/
def runWith {State : Type} (perform : State → Operation → Result × State) (state : State) :
    List Operation → List Result × State
  | [] => ([], state)
  | operation :: rest =>
      let after := perform state operation
      let later := runWith perform after.2 rest
      (after.1 :: later.1, later.2)

def perform (channel : Channel) : Operation → Result × Channel
  | .join nick operator => (channel.join nick operator).map .joined id
  | .leave nick => (channel.leave nick).map .left id
  | .rename old nick => (channel.rename old nick).map .told id
  | .setOperator nick operator => (channel.setOperator nick operator).map .told id
  | .setTopic topic => (.done, channel.setTopic topic)
  | .closeIfEmpty => channel.closeIfEmpty.map .told id
  | .isMember nick => (.told (channel.isMember nick), channel)
  | .isOperator nick => (.told (channel.isOperator nick), channel)
  | .memberCount => (.counted channel.memberCount, channel)
  | .nicks => (.named channel.nicks, channel)
  | .members => (.listed channel.members, channel)
  | .topic => (.titled channel.topic, channel)

/-- A new nickname is the old one or one that no other member has.  Nothing is asked of the other
operations. -/
def Allows (channel : Channel) : Operation → Prop
  | .rename old nick =>
      nick = old ∨ ∀ member ∈ channel.members, member.key ≠ old.fold → member.key ≠ nick.fold
  | _ => True

instance (channel : Channel) : DecidablePred channel.Allows
  | .rename _ _ => inferInstanceAs (Decidable (_ ∨ _))
  | .join .. | .leave _ | .setOperator .. | .setTopic _ | .closeIfEmpty | .isMember _
  | .isOperator _ | .memberCount | .nicks | .members | .topic => inferInstanceAs (Decidable True)

/-- Each operation is allowed when its turn comes. -/
def AllowsAll (channel : Channel) : List Operation → Prop
  | [] => True
  | operation :: rest => channel.Allows operation ∧ (channel.perform operation).2.AllowsAll rest

instance decidableAllowsAll (channel : Channel) :
    (operations : List Operation) → Decidable (channel.AllowsAll operations)
  | [] => inferInstanceAs (Decidable True)
  | operation :: rest =>
      have := decidableAllowsAll (channel.perform operation).2 rest
      inferInstanceAs (Decidable (_ ∧ _))

/-- What a channel amounts to. -/
structure Meaning where
  map : MemberMap
  topic : Option Text
  closed : Bool
  vacated : closed = true → map.keys = []

namespace Meaning

def new : Meaning where
  map := .empty
  topic := none
  closed := false
  vacated := Bool.noConfusion

/-- The channel that amounts to this. -/
def channel (meaning : Meaning) (name : Text) : Channel :=
  { name, members := meaning.map.members, topic := meaning.topic, closed := meaning.closed }

def join (meaning : Meaning) (member : Member) : JoinOutcome × Meaning :=
  if opened : meaning.closed = false then
    if absent : member.key ∉ meaning.map.keys then
      (.joined,
        { meaning with
          map := meaning.map.insert member absent
          vacated := fun closed => absurd (opened.symm.trans closed) Bool.false_ne_true })
    else (.alreadyMember, meaning)
  else (.closed, meaning)

def leave (meaning : Meaning) (key : Text) : LeaveOutcome × Meaning :=
  if key ∈ meaning.map.keys then
    let map := meaning.map.erase key
    (if map.keys = [] then .emptyAfter else .left,
      { meaning with
        map
        vacated := fun closed => by
          change meaning.map.keys.erase key = []
          rw [meaning.vacated closed, List.erase_nil] })
  else (.notMember, meaning)

/-- Nothing is renamed to a key that is taken. -/
def rename (meaning : Meaning) (key nick : Text) : Bool × Meaning :=
  match found : meaning.map.member? key with
  | none => (false, meaning)
  | some member =>
      if free : nick.fold = member.key ∨ nick.fold ∉ meaning.map.keys then
        have there : meaning.map.member? member.key = some member :=
          (meaning.map.spelled key member found).symm ▸ found
        (true,
          { meaning with
            map := meaning.map.rename member there nick free
            vacated := fun closed => by
              change MemberMap.moved _ _ meaning.map.keys = []
              rw [meaning.vacated closed]
              rfl })
      else (false, meaning)

def setOperator (meaning : Meaning) (key : Text) (operator : Bool) : Bool × Meaning :=
  (decide (key ∈ meaning.map.keys),
    { meaning with map := meaning.map.setOperator key operator, vacated := meaning.vacated })

def closeIfEmpty (meaning : Meaning) : Bool × Meaning :=
  let vacant := decide (meaning.map.keys = [])
  (vacant,
    { meaning with
      closed := meaning.closed || vacant
      vacated := fun closed =>
        (Bool.or_eq_true_iff.mp closed).elim meaning.vacated of_decide_eq_true })

def perform (meaning : Meaning) : Operation → Result × Meaning
  | .join nick operator => (meaning.join ⟨nick, operator⟩).map .joined id
  | .leave nick => (meaning.leave nick.fold).map .left id
  | .rename old nick => (meaning.rename old.fold nick).map .told id
  | .setOperator nick operator => (meaning.setOperator nick.fold operator).map .told id
  | .setTopic topic => (.done, { meaning with topic := if topic = [] then none else some topic })
  | .closeIfEmpty => meaning.closeIfEmpty.map .told id
  | .isMember nick => (.told (nick.fold ∈ meaning.map.keys), meaning)
  | .isOperator nick => (.told ((meaning.map.member? nick.fold).any Member.operator), meaning)
  | .memberCount => (.counted meaning.map.keys.length, meaning)
  | .nicks => (.named (meaning.map.members.map Member.nick), meaning)
  | .members => (.listed meaning.map.members, meaning)
  | .topic => (.titled meaning.topic, meaning)

variable (meaning : Meaning) (name : Text)

theorem isMember_channel (nick : Text) :
    (meaning.channel name).isMember nick = decide (nick.fold ∈ meaning.map.keys) :=
  meaning.map.any_members nick

theorem isOperator_channel (nick : Text) :
    (meaning.channel name).isOperator nick =
      (meaning.map.member? nick.fold).any Member.operator := by
  rw [← meaning.map.find?_members]
  rfl

theorem join_channel (nick : Text) (operator : Bool) :
    (meaning.channel name).join nick operator =
      (meaning.join ⟨nick, operator⟩).map id (channel · name) := by
  rw [Channel.join, isMember_channel, join]
  by_cases opened : meaning.closed = false
  · rw [dif_pos opened, if_neg (by simp [channel, opened])]
    by_cases present : nick.fold ∈ meaning.map.keys
    · have taken : ¬(Member.mk nick operator).key ∉ meaning.map.keys := not_not.mpr present
      rw [dif_neg taken, if_pos (decide_eq_true present)]
      rfl
    · have absent : (Member.mk nick operator).key ∉ meaning.map.keys := present
      rw [dif_pos absent, if_neg (mt of_decide_eq_true present)]
      exact congrArg (fun members => (JoinOutcome.joined, { meaning.channel name with members }))
        (meaning.map.members_insert ⟨nick, operator⟩ absent).symm
  · rw [dif_neg opened, if_pos (by simpa [channel] using opened)]
    rfl

theorem leave_channel (nick : Text) :
    (meaning.channel name).leave nick = (meaning.leave nick.fold).map id (channel · name) := by
  have left : meaning.map.members.eraseP (Member.isNamed nick) =
      (meaning.map.erase nick.fold).members := by
    rw [MemberMap.members_erase, eraseP_eq_filter meaning.map.distinct_members]
  rw [Channel.leave, isMember_channel, leave]
  by_cases present : nick.fold ∈ meaning.map.keys
  · rw [if_pos present, if_pos (decide_eq_true present)]
    simp only [channel, left, MemberMap.members_eq_nil_iff, Prod.map, id]
  · rw [if_neg present, if_neg (by simpa using present)]
    rfl

theorem setOperator_channel (nick : Text) (operator : Bool) :
    (meaning.channel name).setOperator nick operator =
      (meaning.setOperator nick.fold operator).map id (channel · name) := by
  have set : changeFirst (Member.isNamed nick) (fun member => { member with operator })
      meaning.map.members = (meaning.map.setOperator nick.fold operator).members := by
    rw [MemberMap.members_setOperator, changeFirst_eq_map meaning.map.distinct_members]
  rw [Channel.setOperator, isMember_channel]
  exact congrArg (fun members => (_, { meaning.channel name with members })) set

/-- A nickname that is allowed for a member is not taken. -/
theorem free_of_allows {old nick : Text}
    (allowed : (meaning.channel name).Allows (.rename old nick)) :
    nick.fold = old.fold ∨ nick.fold ∉ meaning.map.keys := by
  rcases allowed with rfl | apart
  · exact .inl rfl
  · by_contra taken
    rw [not_or, not_not, ← meaning.map.map_key_members] at taken
    obtain ⟨member, here, named⟩ := List.mem_map.mp taken.2
    exact apart member here (named ▸ taken.1) named

theorem rename_channel {old nick : Text}
    (allowed : (meaning.channel name).Allows (.rename old nick)) :
    (meaning.channel name).rename old nick =
      (meaning.rename old.fold nick).map id (channel · name) := by
  rw [Channel.rename, isMember_channel]
  unfold rename
  split
  · rename_i missing
    have absent : old.fold ∉ meaning.map.keys := by simp [meaning.map.listed, missing]
    have same : changeFirst (Member.isNamed old) (fun member => { member with nick })
        meaning.map.members = meaning.map.members := by
      rw [changeFirst_eq_map meaning.map.distinct_members,
        map_of_absent (meaning.map.map_key_members.symm ▸ absent)]
    rw [decide_eq_false absent]
    exact congrArg (fun members => (false, { meaning.channel name with members })) same
  · rename_i member found
    have named : member.key = old.fold := meaning.map.spelled _ _ found
    -- A list can hold two members of one name, a map cannot, so this case needs `allowed`.
    have free : nick.fold = member.key ∨ nick.fold ∉ meaning.map.keys :=
      named.symm ▸ meaning.free_of_allows name allowed
    have present : old.fold ∈ meaning.map.keys := (meaning.map.listed _).mpr (by rw [found]; rfl)
    have renamed : changeFirst (Member.isNamed old) (fun member => { member with nick })
        meaning.map.members =
          (meaning.map.rename member (named.symm ▸ found) nick free).members := by
      rw [MemberMap.members_rename, changeFirst_eq_map meaning.map.distinct_members, named]
    rw [dif_pos free, decide_eq_true present]
    exact congrArg (fun members => (true, { meaning.channel name with members })) renamed

theorem closeIfEmpty_channel :
    (meaning.channel name).closeIfEmpty = meaning.closeIfEmpty.map id (channel · name) := by
  have vacant : (meaning.closed || decide (meaning.map.members = [])) =
      decide (meaning.map.keys = []) := by
    simp only [MemberMap.members_eq_nil_iff]
    cases closed : meaning.closed with
    | false => rfl
    | true => simp [meaning.vacated closed]
  have told : (meaning.closed || decide (meaning.map.members = [])) =
      (meaning.closed || decide (meaning.map.keys = [])) := by
    simp only [MemberMap.members_eq_nil_iff]
  exact congrArg₂ (fun answer closed => (answer, { meaning.channel name with closed })) vacant told

/-- An operation on a channel comes to what it comes to on the meaning. -/
theorem perform_channel {operation : Operation}
    (allowed : (meaning.channel name).Allows operation) :
    (meaning.channel name).perform operation =
      (meaning.perform operation).map id (channel · name) := by
  cases operation with
  | join nick operator => rw [Channel.perform, join_channel]; rfl
  | leave nick => rw [Channel.perform, leave_channel]; rfl
  | rename old nick => rw [Channel.perform, rename_channel _ _ allowed]; rfl
  | setOperator nick operator => rw [Channel.perform, setOperator_channel]; rfl
  | closeIfEmpty => rw [Channel.perform, closeIfEmpty_channel]; rfl
  | isMember nick => rw [Channel.perform, isMember_channel]; rfl
  | isOperator nick => rw [Channel.perform, isOperator_channel]; rfl
  | memberCount =>
      rw [Channel.perform, memberCount]
      exact congrArg (fun count => (Result.counted count, _)) meaning.map.length_members
  | setTopic topic => rfl
  | nicks => rfl
  | members => rfl
  | topic => rfl

/-- Operations one after another come to what they come to on the meaning. -/
theorem runWith_channel {operations : List Operation}
    (allowed : (meaning.channel name).AllowsAll operations) :
    runWith Channel.perform (meaning.channel name) operations =
      (runWith perform meaning operations).map id (channel · name) := by
  induction operations generalizing meaning with
  | nil => rfl
  | cons operation rest inductionHypothesis =>
      have first := meaning.perform_channel name allowed.1
      have others := allowed.2
      rw [first] at others
      rw [runWith, first]
      dsimp only [Prod.map]
      rw [inductionHypothesis (meaning.perform operation).2 others]
      rfl

end Meaning

/-- Nobody is in the channel, and nobody can join it. -/
structure Vacated (channel : Channel) : Prop where
  closed : channel.closed = true
  empty : channel.members = []

namespace Vacated

variable {channel : Channel}

theorem join (vacated : channel.Vacated) (nick : Text) (operator : Bool) :
    channel.join nick operator = (.closed, channel) :=
  if_pos vacated.closed

theorem perform (vacated : channel.Vacated) (operation : Operation) :
    (channel.perform operation).2.Vacated := by
  obtain ⟨closed, empty⟩ := vacated
  cases operation with
  | join nick operator =>
      rw [Channel.perform, join ⟨closed, empty⟩]
      exact ⟨closed, empty⟩
  | leave nick =>
      have outside : channel.isMember nick = false := by rw [isMember, empty]; rfl
      rw [Channel.perform, leave, if_neg (by simp [outside])]
      exact ⟨closed, empty⟩
  | rename old nick => exact ⟨closed, by rw [Channel.perform, rename, empty]; rfl⟩
  | setOperator nick operator => exact ⟨closed, by rw [Channel.perform, setOperator, empty]; rfl⟩
  | closeIfEmpty => exact ⟨by rw [Channel.perform, closeIfEmpty, closed]; rfl, empty⟩
  | setTopic topic | isMember nick | isOperator nick | memberCount | nicks | members | topic =>
      exact ⟨closed, empty⟩

theorem runWith (vacated : channel.Vacated) (operations : List Operation) :
    (runWith Channel.perform channel operations).2.Vacated := by
  induction operations generalizing channel with
  | nil => exact vacated
  | cons operation rest inductionHypothesis => exact inductionHypothesis (vacated.perform operation)

end Vacated

/-- A channel is a map of members in the order in which they came, for as long as nobody is renamed
to a nickname that another member has.  Once it is closed it stays closed, and nobody is ever in it
again. -/
theorem operations_act_as_on_map (name : Text) (operations : List Operation)
    (allowed : (new name).AllowsAll operations) :
    let (results, channel) := runWith perform (new name) operations
    let (expected, meaning) := runWith Meaning.perform .new operations
    results = expected ∧ channel = meaning.channel name ∧ DistinctMembers channel.members ∧
      (channel.closeIfEmpty.1 = true ↔ channel.members = []) ∧
      (channel.closeIfEmpty.1 = true → ∀ further : List Operation,
        let later := (runWith perform channel.closeIfEmpty.2 further).2
        later.closed = true ∧ later.members = [] ∧
          ∀ nick operator, later.join nick operator = (.closed, later)) := by
  have run := Meaning.new.runWith_channel name allowed
  generalize runWith Meaning.perform Meaning.new operations = ideal at run
  obtain ⟨expected, meaning⟩ := ideal
  change runWith perform (new name) operations = (expected, meaning.channel name) at run
  rw [run]
  have vacant : (meaning.channel name).closeIfEmpty.1 = true ↔
      (meaning.channel name).members = [] := by
    rw [Meaning.closeIfEmpty_channel]
    exact decide_eq_true_iff.trans meaning.map.members_eq_nil_iff.symm
  refine ⟨rfl, rfl, meaning.map.distinct_members, vacant, fun told further => ?_⟩
  have vacated : (meaning.channel name).closeIfEmpty.2.Vacated := ⟨told, vacant.mp told⟩
  have later := vacated.runWith further
  exact ⟨later.closed, later.empty, later.join⟩

/-- Two members, one of whom is renamed to the nickname that the other had. -/
def teaOperations : List Operation :=
  [.join "Ann" true, .join "bob" false, .join "BOB" true, .rename "ann" "ANN", .leave "Bob",
    .join "Cy" false, .rename "cy" "bob", .setOperator "BOB" true, .isOperator "bob", .nicks,
    .leave "ann", .closeIfEmpty, .leave "bob", .closeIfEmpty, .join "Ann" true, .memberCount]

theorem operations_of_teaOperations :
    (new "#tea").AllowsAll teaOperations ∧
      (runWith perform (new "#tea") teaOperations).1 =
        [.joined .joined, .joined .joined, .joined .alreadyMember, .told true, .left .left,
          .joined .joined, .told true, .told true, .told true, .named ["ANN", "bob"], .left .left,
          .told false, .left .emptyAfter, .told true, .joined .closed, .counted 0] := by
  have allowed : (new "#tea").AllowsAll teaOperations := by decide +kernel
  refine ⟨allowed, (operations_act_as_on_map "#tea" teaOperations allowed).1.trans ?_⟩
  decide +kernel

end Channel

end IrcServer
