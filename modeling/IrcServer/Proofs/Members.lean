import IrcServer.Server.Membership
import Mathlib.Data.List.Nodup

namespace IrcServer

/-! The members of a channel, when no two share a nickname.

Then a change of the first member of a name is a change of every member of that name, and what
`leave`, `rename` and `setOperator` do to the list can be said with `filter` and `map`. -/

def Member.key (member : Member) : Text :=
  member.nick.fold

/-- No two of the members share a nickname. -/
def DistinctMembers (members : List Member) : Prop :=
  (members.map Member.key).Nodup

variable {members : List Member}

theorem isNamed_iff {nick : Text} {member : Member} :
    Member.isNamed nick member = true ↔ member.key = nick.fold := by
  simp [Member.isNamed, Member.key]

theorem any_isNamed_iff {nick : Text} :
    members.any (Member.isNamed nick) = true ↔ ∃ member ∈ members, member.key = nick.fold := by
  simp only [List.any_eq_true, isNamed_iff]

theorem any_isNamed_eq_false_iff {nick : Text} :
    members.any (Member.isNamed nick) = false ↔ nick.fold ∉ members.map Member.key := by
  rw [← Bool.not_eq_true, any_isNamed_iff, List.mem_map]

theorem DistinctMembers.eq_of_key_eq (distinct : DistinctMembers members) {member other : Member}
    (here : member ∈ members) (there : other ∈ members) (same : member.key = other.key) :
    member = other :=
  List.inj_on_of_nodup_map distinct here there same

theorem DistinctMembers.append (distinct : DistinctMembers members) {member : Member}
    (absent : members.any (Member.isNamed member.nick) = false) :
    DistinctMembers (members ++ [member]) := by
  unfold DistinctMembers
  rw [List.map_append, List.nodup_append]
  refine ⟨distinct, List.nodup_singleton _, ?_⟩
  rintro key keyMember other otherMember rfl
  rw [List.map_singleton, List.mem_singleton] at otherMember
  subst otherMember
  exact any_isNamed_eq_false_iff.mp absent keyMember

theorem DistinctMembers.filter (distinct : DistinctMembers members) (kept : Member → Bool) :
    DistinctMembers (members.filter kept) :=
  distinct.sublist (List.filter_sublist.map _)

theorem DistinctMembers.map (distinct : DistinctMembers members) {change : Member → Member}
    (separate : ∀ member ∈ members, ∀ other ∈ members,
      (change member).key = (change other).key → member.key = other.key) :
    DistinctMembers (members.map change) := by
  unfold DistinctMembers
  rw [List.map_map]
  exact distinct.of_map.map_on fun member here other there same =>
    distinct.eq_of_key_eq here there (separate member here other there same)

theorem filter_of_absent {key : Text} (absent : key ∉ members.map Member.key) :
    (members.filter fun member => member.key ≠ key) = members := by
  refine List.filter_eq_self.mpr fun member kept => ?_
  exact decide_eq_true fun same => absent (List.mem_map.mpr ⟨member, kept, same⟩)

theorem map_of_absent {key : Text} (absent : key ∉ members.map Member.key)
    (change : Member → Member) :
    (members.map fun member => if member.key = key then change member else member) = members := by
  refine (List.map_congr_left fun member kept => ?_).trans (List.map_id members)
  exact if_neg fun same => absent (List.mem_map.mpr ⟨member, kept, same⟩)

theorem changeFirst_eq_map (distinct : DistinctMembers members) (nick : Text)
    (change : Member → Member) :
    changeFirst (Member.isNamed nick) change members =
      members.map fun member => if member.key = nick.fold then change member else member := by
  induction members with
  | nil => rfl
  | cons first rest inductionHypothesis =>
      obtain ⟨absent, distinctRest⟩ := List.nodup_cons.mp distinct
      unfold changeFirst
      by_cases here : first.key = nick.fold
      · rw [if_pos (isNamed_iff.mpr here), List.map_cons, if_pos here,
          map_of_absent (here ▸ absent)]
      · rw [if_neg (mt isNamed_iff.mp here), List.map_cons, if_neg here,
          inductionHypothesis distinctRest]

theorem eraseP_eq_filter (distinct : DistinctMembers members) (nick : Text) :
    members.eraseP (Member.isNamed nick) =
      members.filter fun member => member.key ≠ nick.fold := by
  induction members with
  | nil => rfl
  | cons first rest inductionHypothesis =>
      obtain ⟨absent, distinctRest⟩ := List.nodup_cons.mp distinct
      by_cases here : first.key = nick.fold
      · rw [List.eraseP_cons_of_pos (isNamed_iff.mpr here),
          List.filter_cons_of_neg (by simp [here]), filter_of_absent (here ▸ absent)]
      · rw [List.eraseP_cons_of_neg (mt isNamed_iff.mp here),
          List.filter_cons_of_pos (by simp [here]), inductionHypothesis distinctRest]

namespace Channel

/-- A channel after `nick` has left it, or nothing if nobody is left. -/
def without (channel : Channel) (nick : Text) : Option Channel :=
  match channel.leave nick with
  | (.emptyAfter, _) => none
  | (_, left) => some left

variable {channel : Channel}

theorem join_ne_closed (opened : channel.closed = false) (nick : Text) (operator : Bool) :
    (channel.join nick operator).1 ≠ .closed := by
  rw [join, if_neg (by simp [opened])]
  split
  · exact JoinOutcome.noConfusion
  · exact JoinOutcome.noConfusion

theorem name_of_join {joined : Channel} {nick : Text} {operator : Bool} {outcome : JoinOutcome}
    (entered : channel.join nick operator = (outcome, joined)) : joined.name = channel.name := by
  rw [join] at entered
  split at entered
  · cases entered
    rfl
  · split at entered <;> cases entered <;> rfl

/-- The channel without the member of a name, even if nobody is left in it. -/
def dropped (channel : Channel) (nick : Text) : Channel :=
  { channel with members := channel.members.filter fun member => member.key ≠ nick.fold }

theorem leave_snd (distinct : DistinctMembers channel.members) (nick : Text) :
    (channel.leave nick).2 = channel.dropped nick := by
  unfold leave dropped
  split
  · rw [eraseP_eq_filter distinct]
  · rename_i absent
    rw [filter_of_absent (any_isNamed_eq_false_iff.mp (eq_false_of_ne_true absent))]

/-- A channel is given up once its last member has left it. -/
theorem without_eq (distinct : DistinctMembers channel.members) (inhabited : channel.members ≠ [])
    (nick : Text) :
    channel.without nick =
      if (channel.dropped nick).members = [] then none else some (channel.dropped nick) := by
  have left := leave_snd distinct nick
  by_cases present : channel.isMember nick = true
  · have gone : (channel.dropped nick).members =
        channel.members.eraseP (Member.isNamed nick) := (eraseP_eq_filter distinct nick).symm
    rw [leave, if_pos present] at left
    rw [without, leave, if_pos present, gone]
    by_cases emptied : channel.members.eraseP (Member.isNamed nick) = []
    · simp only [if_pos emptied]
    · simp only [if_neg emptied]
      exact congrArg some left
  · rw [leave, if_neg present] at left
    rw [without, leave, if_neg present, ← left, if_neg inhabited]

theorem rename_snd (distinct : DistinctMembers channel.members) (old nick : Text) :
    (channel.rename old nick).2 =
      { channel with
        members := channel.members.map fun member =>
          if member.key = old.fold then { member with nick } else member } := by
  rw [rename, changeFirst_eq_map distinct]

theorem setOperator_snd (distinct : DistinctMembers channel.members) (nick : Text)
    (operator : Bool) :
    (channel.setOperator nick operator).2 =
      { channel with
        members := channel.members.map fun member =>
          if member.key = nick.fold then { member with operator } else member } := by
  rw [setOperator, changeFirst_eq_map distinct]

theorem distinct_setOperator (distinct : DistinctMembers channel.members) (nick : Text)
    (operator : Bool) : DistinctMembers (channel.setOperator nick operator).2.members := by
  rw [setOperator_snd distinct]
  refine distinct.map fun member _ other _ same => ?_
  unfold Member.key at same
  split at same <;> split at same <;> exact same

theorem isMember_append (channel : Channel) (member : Member) (nick : Text) :
    Channel.isMember { channel with members := channel.members ++ [member] } nick = true ↔
      channel.isMember nick = true ∨ member.key = nick.fold := by
  simp only [isMember, any_isNamed_iff, List.mem_append, List.mem_singleton]
  constructor
  · rintro ⟨other, present | rfl, same⟩
    · exact .inl ⟨other, present, same⟩
    · exact .inr same
  · rintro (⟨other, present, same⟩ | same)
    · exact ⟨other, .inl present, same⟩
    · exact ⟨member, .inr rfl, same⟩

theorem isMember_dropped (channel : Channel) (nick other : Text) :
    (channel.dropped nick).isMember other = true ↔
      channel.isMember other = true ∧ other.fold ≠ nick.fold := by
  simp only [isMember, dropped, any_isNamed_iff, List.mem_filter, decide_eq_true_eq]
  constructor
  · rintro ⟨member, ⟨present, differs⟩, same⟩
    exact ⟨⟨member, present, same⟩, same ▸ differs⟩
  · rintro ⟨⟨member, present, same⟩, differs⟩
    exact ⟨member, ⟨present, same ▸ differs⟩, same⟩

theorem isMember_setOperator (distinct : DistinctMembers channel.members) (nick : Text)
    (operator : Bool) (other : Text) :
    (channel.setOperator nick operator).2.isMember other = true ↔
      channel.isMember other = true := by
  have keys : ∀ member : Member,
      (if member.key = nick.fold then { member with operator } else member).key = member.key := by
    intro member
    split <;> rfl
  rw [setOperator_snd distinct]
  simp only [isMember, any_isNamed_iff, List.mem_map, exists_exists_and_eq_and, keys]

theorem isMember_rename (distinct : DistinctMembers channel.members) (old nick other : Text) :
    (channel.rename old nick).2.isMember other = true ↔
      (channel.isMember old = true ∧ nick.fold = other.fold) ∨
        (channel.isMember other = true ∧ other.fold ≠ old.fold) := by
  rw [rename_snd distinct]
  simp only [isMember, any_isNamed_iff, List.mem_map, exists_exists_and_eq_and]
  constructor
  · rintro ⟨member, present, same⟩
    split at same
    · rename_i renamed
      exact .inl ⟨⟨member, present, renamed⟩, same⟩
    · rename_i differs
      exact .inr ⟨⟨member, present, same⟩, same ▸ differs⟩
  · rintro (⟨⟨member, present, named⟩, same⟩ | ⟨⟨member, present, same⟩, differs⟩)
    · exact ⟨member, present, by rw [if_pos named]; exact same⟩
    · exact ⟨member, present, by rw [if_neg (same ▸ differs)]; exact same⟩

end Channel

end IrcServer
