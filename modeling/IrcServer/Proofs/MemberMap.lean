import IrcServer.Proofs.Members

namespace IrcServer

/-! Members of a channel as a map.

A channel has a list of members and works on the first that it finds under a nickname.  What it has
in mind is a map: under each folded nickname at most one member, and the folded nicknames in the
order in which they came.  Here is this map by itself, with what its operations do to the list. -/

/-- Members under folded nicknames, which are listed in the order in which they came. -/
structure MemberMap where
  keys : List Text
  member? : Text → Option Member
  distinct : keys.Nodup
  listed : ∀ key, key ∈ keys ↔ (member? key).isSome = true
  spelled : ∀ key member, member? key = some member → member.key = key

namespace MemberMap

/-- The keys with `key` in the place of `old`. -/
def moved (old key : Text) (keys : List Text) : List Text :=
  keys.map fun other => if other = old then key else other

section Moved

variable {keys : List Text} {old key : Text}

theorem mem_moved (here : old ∈ keys) {other : Text} :
    other ∈ moved old key keys ↔ other = key ∨ (other ≠ old ∧ other ∈ keys) := by
  unfold moved
  rw [List.mem_map]
  constructor
  · rintro ⟨before, listed, rfl⟩
    split
    · exact .inl rfl
    · rename_i differs
      exact .inr ⟨differs, listed⟩
  · rintro (rfl | ⟨differs, listed⟩)
    · exact ⟨old, here, if_pos rfl⟩
    · exact ⟨other, listed, if_neg differs⟩

theorem nodup_moved (distinct : keys.Nodup) (free : key = old ∨ key ∉ keys) :
    (moved old key keys).Nodup := by
  refine distinct.map_on fun first here second there same => ?_
  split at same <;> split at same
  · simp_all
  · rcases free with rfl | absent
    · simp_all
    · exact absurd (same ▸ there) absent
  · rcases free with rfl | absent
    · simp_all
    · exact absurd (same ▸ here) absent
  · exact same

end Moved

def empty : MemberMap where
  keys := []
  member? := fun _ => none
  distinct := List.nodup_nil
  listed := by simp
  spelled := by simp

variable (map : MemberMap)

instance (key : Text) : Decidable (key ∈ map.keys) :=
  decidable_of_iff _ (map.listed key).symm

/-- The members in the order of their keys. -/
def members : List Member :=
  map.keys.filterMap map.member?

/-- A member is added as the last one. -/
def insert (member : Member) (absent : member.key ∉ map.keys) : MemberMap where
  keys := map.keys ++ [member.key]
  member? := fun key => if key = member.key then some member else map.member? key
  distinct := List.nodup_append.mpr ⟨map.distinct, List.nodup_singleton _, by
    rintro key here other there rfl
    exact absent (List.mem_singleton.mp there ▸ here)⟩
  listed := fun key => by
    rw [List.mem_append, List.mem_singleton, map.listed]
    split <;> simp_all
  spelled := fun key other found => by
    split at found
    · rename_i same
      rw [← Option.some.inj found, same]
    · exact map.spelled key other found

def erase (key : Text) : MemberMap where
  keys := map.keys.erase key
  member? := fun other => if other = key then none else map.member? other
  distinct := map.distinct.erase key
  listed := fun other => by
    rw [map.distinct.mem_erase_iff, map.listed]
    split <;> simp_all
  spelled := fun other member found => by
    split at found
    · cases found
    · exact map.spelled other member found

/-- The flag of the member under a key is set. -/
def setOperator (key : Text) (operator : Bool) : MemberMap where
  keys := map.keys
  member? := fun other =>
    if other = key then (map.member? other).map fun member => { member with operator }
    else map.member? other
  distinct := map.distinct
  listed := fun other => by
    rw [map.listed]
    split
    · rw [Option.isSome_map]
    · rfl
  spelled := fun other member found => by
    split at found
    · obtain ⟨before, there, rfl⟩ := Option.map_eq_some_iff.mp found
      exact map.spelled other before there
    · exact map.spelled other member found

/-- A member gets another nickname, which nobody else has, and keeps its place. -/
def rename (member : Member) (there : map.member? member.key = some member) (nick : Text)
    (free : nick.fold = member.key ∨ nick.fold ∉ map.keys) : MemberMap where
  keys := moved member.key nick.fold map.keys
  member? := fun key =>
    if key = nick.fold then some { member with nick }
    else if key = member.key then none
    else map.member? key
  distinct := nodup_moved map.distinct free
  listed := fun key => by
    rw [mem_moved ((map.listed _).mpr (by rw [there]; rfl)), map.listed]
    split
    · simp_all
    · split <;> simp_all
  spelled := fun key other found => by
    split at found
    · rename_i same
      rw [← Option.some.inj found, same, Member.key]
    · split at found
      · cases found
      · exact map.spelled key other found

theorem exists_of_mem {key : Text} (listed : key ∈ map.keys) :
    ∃ member, map.member? key = some member ∧ member.key = key := by
  obtain ⟨member, found⟩ := Option.isSome_iff_exists.mp ((map.listed key).mp listed)
  exact ⟨member, found, map.spelled key member found⟩

/-! The list of members. -/

theorem map_key_members : map.members.map Member.key = map.keys := by
  have keyed : ∀ key ∈ map.keys, (map.member? key).map Member.key = some key := by
    intro key listed
    obtain ⟨member, found, named⟩ := map.exists_of_mem listed
    rw [found, Option.map_some, named]
  rw [members, List.map_filterMap, List.filterMap_congr keyed, List.filterMap_some]

theorem distinct_members : DistinctMembers map.members := by
  rw [DistinctMembers, map_key_members]
  exact map.distinct

theorem length_members : map.members.length = map.keys.length := by
  rw [← map_key_members, List.length_map]

theorem members_eq_nil_iff : map.members = [] ↔ map.keys = [] := by
  rw [← map_key_members, List.map_eq_nil_iff]

theorem mem_members {member : Member} :
    member ∈ map.members ↔ map.member? member.key = some member := by
  rw [members, List.mem_filterMap]
  constructor
  · rintro ⟨key, -, found⟩
    rwa [map.spelled key member found]
  · intro found
    exact ⟨member.key, (map.listed _).mpr (by rw [found]; rfl), found⟩

theorem any_members (nick : Text) :
    map.members.any (Member.isNamed nick) = decide (nick.fold ∈ map.keys) := by
  rw [Bool.eq_iff_iff, any_isNamed_iff, decide_eq_true_iff, ← map_key_members, List.mem_map]

/-- The first member of a name is the only one. -/
theorem find?_members (nick : Text) :
    map.members.find? (Member.isNamed nick) = map.member? nick.fold := by
  cases first : map.members.find? (Member.isNamed nick) with
  | some member =>
      have named : member.key = nick.fold := isNamed_iff.mp (List.find?_some first)
      rw [← named, map.mem_members.mp (List.mem_of_find?_eq_some first)]
  | none =>
      cases found : map.member? nick.fold with
      | none => rfl
      | some member =>
          have named := map.spelled _ _ found
          have here : member ∈ map.members := map.mem_members.mpr (named.symm ▸ found)
          exact absurd (isNamed_iff.mpr named) (List.find?_eq_none.mp first member here)

theorem members_insert (member : Member) (absent : member.key ∉ map.keys) :
    (map.insert member absent).members = map.members ++ [member] := by
  have others : ∀ key ∈ map.keys, (map.insert member absent).member? key = map.member? key :=
    fun key listed => if_neg fun same => absent (by rwa [← same])
  have last : (map.insert member absent).member? member.key = some member := if_pos rfl
  calc (map.insert member absent).members
      = map.keys.filterMap (map.insert member absent).member? ++
          [member.key].filterMap (map.insert member absent).member? := List.filterMap_append
    _ = map.members ++ [member] := by
        rw [List.filterMap_congr others, List.filterMap_cons_some last, List.filterMap_nil, members]

theorem members_erase (key : Text) :
    (map.erase key).members = map.members.filter fun member => member.key ≠ key := by
  calc (map.erase key).members
      = (map.keys.filter (· != key)).filterMap (map.erase key).member? := by
        rw [members, ← map.distinct.erase_eq_filter]
        rfl
    _ = map.members.filter fun member => member.key ≠ key := by
        rw [List.filterMap_filter, members, List.filter_filterMap]
        refine List.filterMap_congr fun other listed => ?_
        obtain ⟨member, found, rfl⟩ := map.exists_of_mem listed
        by_cases erased : member.key = key
        · subst erased
          simp [found, Option.filter]
        · simp [erase, found, erased, Option.filter]

theorem members_setOperator (key : Text) (operator : Bool) :
    (map.setOperator key operator).members =
      map.members.map fun member =>
        if member.key = key then { member with operator } else member := by
  rw [members, members, List.map_filterMap]
  refine List.filterMap_congr fun other listed => ?_
  obtain ⟨member, found, rfl⟩ := map.exists_of_mem listed
  by_cases named : member.key = key
  · subst named
    simp [setOperator, found]
  · simp [setOperator, found, named]

theorem members_rename (member : Member) (there : map.member? member.key = some member)
    (nick : Text) (free : nick.fold = member.key ∨ nick.fold ∉ map.keys) :
    (map.rename member there nick free).members =
      map.members.map fun other =>
        if other.key = member.key then { other with nick } else other := by
  rw [members, members, List.map_filterMap]
  change (moved member.key nick.fold map.keys).filterMap _ = _
  rw [moved, List.filterMap_map]
  refine List.filterMap_congr fun key listed => ?_
  obtain ⟨other, found, rfl⟩ := map.exists_of_mem listed
  by_cases named : other.key = member.key
  · have same : other = member := Option.some.inj (by rw [← found, named, there])
    subst same
    simp [rename, there]
  · have apart : other.key ≠ nick.fold := by
      intro taken
      rcases free with known | absent
      · exact named (taken.trans known)
      · exact absent (taken ▸ listed)
    simp [rename, named, apart, found]

end MemberMap

end IrcServer
