namespace IrcServer

/-! Lists of entries, each under a key.

`find?` looks a key up, and every operation is described by what it does to `find?`.  That keys are
distinct is for the types made of such lists to say. -/

namespace Entries

variable {Key α : Type} [DecidableEq Key]

/-- The first entry under `key`. -/
def find? (key : Key) : List (Key × α) → Option α
  | [] => none
  | entry :: rest => if key = entry.1 then some entry.2 else find? key rest

/-- The entries under other keys. -/
def erase (key : Key) (entries : List (Key × α)) : List (Key × α) :=
  entries.filter fun entry => entry.1 ≠ key

/-- The entries with `change` made to those under `key`. -/
def modify (key : Key) (change : α → α) (entries : List (Key × α)) : List (Key × α) :=
  entries.map fun entry => if entry.1 = key then (entry.1, change entry.2) else entry

/-- The entries with `change` made to all, without those for which it gives nothing. -/
def filterMap (change : α → Option α) (entries : List (Key × α)) : List (Key × α) :=
  entries.filterMap fun entry => (change entry.2).map (entry.1, ·)

theorem keys_erase_sublist (key : Key) (entries : List (Key × α)) :
    ((erase key entries).map Prod.fst).Sublist (entries.map Prod.fst) :=
  List.filter_sublist.map _

theorem not_mem_keys_erase (key : Key) (entries : List (Key × α)) :
    key ∉ (erase key entries).map Prod.fst := by
  intro member
  obtain ⟨entry, kept, rfl⟩ := List.mem_map.mp member
  simpa using (List.mem_filter.mp kept).2

theorem keys_modify (key : Key) (change : α → α) (entries : List (Key × α)) :
    (modify key change entries).map Prod.fst = entries.map Prod.fst := by
  unfold modify
  rw [List.map_map]
  apply List.map_congr_left
  intro entry _
  dsimp only [Function.comp]
  split <;> rfl

omit [DecidableEq Key] in
theorem keys_filterMap_sublist (change : α → Option α) (entries : List (Key × α)) :
    ((filterMap change entries).map Prod.fst).Sublist (entries.map Prod.fst) := by
  unfold filterMap
  induction entries with
  | nil => simp
  | cons entry rest inductionHypothesis =>
      rw [List.filterMap_cons]
      cases change entry.2 with
      | none => exact inductionHypothesis.cons _
      | some value => exact inductionHypothesis.cons_cons _

theorem find?_eq_none_iff {key : Key} {entries : List (Key × α)} :
    find? key entries = none ↔ key ∉ entries.map Prod.fst := by
  induction entries with
  | nil => simp [find?]
  | cons entry rest inductionHypothesis =>
      by_cases here : key = entry.1
      · simp [find?, here]
      · simp only [find?, if_neg here, inductionHypothesis, List.map_cons, List.mem_cons, not_or]
        exact ⟨fun absent => ⟨here, absent⟩, And.right⟩

theorem find?_append (key : Key) (left right : List (Key × α)) :
    find? key (left ++ right) = (find? key left).or (find? key right) := by
  induction left with
  | nil => rfl
  | cons entry rest inductionHypothesis =>
      simp only [List.cons_append, find?]
      split
      · rfl
      · exact inductionHypothesis

theorem find?_erase (key other : Key) (entries : List (Key × α)) :
    find? other (erase key entries) = if other = key then none else find? other entries := by
  unfold erase
  induction entries with
  | nil => simp [find?]
  | cons entry rest inductionHypothesis =>
      rw [List.filter_cons]
      by_cases removed : entry.1 = key
      · rw [if_neg (by simp [removed]), inductionHypothesis]
        split
        · rfl
        · rename_i differs
          simp [find?, removed, differs]
      · rw [if_pos (by simp [removed])]
        simp only [find?, inductionHypothesis]
        by_cases found : other = entry.1
        · simp [found, removed]
        · simp [found]

theorem find?_modify (key other : Key) (change : α → α) (entries : List (Key × α)) :
    find? other (modify key change entries) =
      if other = key then (find? other entries).map change else find? other entries := by
  unfold modify
  induction entries with
  | nil => simp [find?]
  | cons entry rest inductionHypothesis =>
      simp only [List.map_cons, find?, inductionHypothesis]
      by_cases changed : entry.1 = key
      · subst changed
        by_cases found : other = entry.1 <;> simp [found]
      · by_cases found : other = entry.1 <;> simp [changed, found]

theorem find?_map (change : α → α) (key : Key) (entries : List (Key × α)) :
    find? key (entries.map fun entry => (entry.1, change entry.2)) =
      (find? key entries).map change := by
  induction entries with
  | nil => rfl
  | cons entry rest inductionHypothesis =>
      simp only [List.map_cons, find?, inductionHypothesis]
      split <;> rfl

theorem find?_filterMap {entries : List (Key × α)} (distinct : (entries.map Prod.fst).Nodup)
    (change : α → Option α) (key : Key) :
    find? key (filterMap change entries) = (find? key entries).bind change := by
  unfold filterMap
  induction entries with
  | nil => rfl
  | cons entry rest inductionHypothesis =>
      obtain ⟨absent, distinctRest⟩ := List.nodup_cons.mp distinct
      have tail := inductionHypothesis distinctRest
      rw [List.filterMap_cons]
      by_cases found : key = entry.1
      · cases kept : change entry.2 with
        | some value => simp [find?, found, kept]
        | none =>
            have missing : find? key rest = none := find?_eq_none_iff.mpr (found ▸ absent)
            simp only [Option.map_none, tail, missing, find?, if_pos found, Option.bind_none,
              Option.bind_some, kept]
      · cases kept : change entry.2 <;> simp only [Option.map_none, Option.map_some, find?,
          if_neg found, tail]

end Entries

end IrcServer
