import IrcServer.Directory
import Mathlib.Data.List.Nodup

namespace IrcServer

/-! Directories whose entries carry their own names.

A directory is `Keyed` by a name when every entry is listed under the folded name that it carries
itself.  Then a look-up finds exactly the entry of that name, and entries can be told by their
values alone. -/

namespace Entries

variable {Key α : Type} [DecidableEq Key]

theorem find?_eq_some_iff {entries : List (Key × α)} (distinct : (entries.map Prod.fst).Nodup)
    {key : Key} {value : α} : find? key entries = some value ↔ (key, value) ∈ entries := by
  induction entries with
  | nil => simp [find?]
  | cons entry rest inductionHypothesis =>
      obtain ⟨absent, distinctRest⟩ := List.nodup_cons.mp distinct
      have tail := inductionHypothesis distinctRest
      by_cases here : key = entry.1
      · subst here
        have missing : (entry.1, value) ∉ rest := fun member =>
          absent (List.mem_map.mpr ⟨_, member, rfl⟩)
        simp only [find?, if_true, Option.some.injEq, List.mem_cons, missing, or_false]
        exact ⟨fun same => by rw [← same], fun same => by rw [← same]⟩
      · have differs : (key, value) ≠ entry := fun same => here (congrArg Prod.fst same)
        simp only [find?, if_neg here, tail, List.mem_cons, differs, false_or]

theorem mem_erase {key : Key} {entry : Key × α} {entries : List (Key × α)} :
    entry ∈ erase key entries ↔ entry ∈ entries ∧ entry.1 ≠ key := by
  simp [erase, List.mem_filter]

end Entries

namespace Directory

variable {α : Type} {directory : Directory α} {name : α → Text}

/-- Every entry is listed under the name that it carries. -/
def Keyed (name : α → Text) (directory : Directory α) : Prop :=
  ∀ entry ∈ directory.entries, entry.1 = (name entry.2).fold

theorem find?_congr {label other : Text} (same : label.fold = other.fold) :
    directory.find? label = directory.find? other := by
  unfold find?
  rw [same]

theorem contains_congr {label other : Text} (same : label.fold = other.fold) :
    directory.contains label = directory.contains other := by
  rw [contains, find?_congr same, contains]

theorem find?_eq_some_iff {label : Text} {value : α} :
    directory.find? label = some value ↔ (label.fold, value) ∈ directory.entries :=
  Entries.find?_eq_some_iff directory.distinct

theorem mem_entries_of_find? {label : Text} {value : α}
    (found : directory.find? label = some value) : (label.fold, value) ∈ directory.entries :=
  find?_eq_some_iff.mp found

theorem mem_values_of_find? {label : Text} {value : α}
    (found : directory.find? label = some value) : value ∈ directory.values :=
  List.mem_map.mpr ⟨_, mem_entries_of_find? found, rfl⟩

theorem Keyed.mem_entries_iff (keyed : directory.Keyed name) {entry : Text × α} :
    entry ∈ directory.entries ↔
      entry.1 = (name entry.2).fold ∧ directory.find? (name entry.2) = some entry.2 := by
  constructor
  · intro member
    have listed := keyed entry member
    refine ⟨listed, ?_⟩
    rw [find?_eq_some_iff, ← listed]
    exact member
  · rintro ⟨listed, found⟩
    have member := mem_entries_of_find? found
    rwa [← listed] at member

theorem Keyed.mem_values_iff (keyed : directory.Keyed name) {value : α} :
    value ∈ directory.values ↔ directory.find? (name value) = some value := by
  constructor
  · intro member
    obtain ⟨entry, entryMember, rfl⟩ := List.mem_map.mp member
    exact (keyed.mem_entries_iff.mp entryMember).2
  · exact mem_values_of_find?

theorem Keyed.fold_eq (keyed : directory.Keyed name) {label : Text} {value : α}
    (found : directory.find? label = some value) : (name value).fold = label.fold :=
  (keyed _ (mem_entries_of_find? found)).symm

theorem Keyed.names_eq_keys (keyed : directory.Keyed name) :
    (directory.values.map fun value => (name value).fold) = directory.entries.map Prod.fst := by
  rw [values, List.map_map]
  exact List.map_congr_left fun entry member => (keyed entry member).symm

theorem Keyed.nodup_values (keyed : directory.Keyed name) : directory.values.Nodup := by
  refine List.Nodup.of_map (fun value => (name value).fold) ?_
  rw [keyed.names_eq_keys]
  exact directory.distinct

theorem Keyed.empty : (Directory.empty : Directory α).Keyed name := by
  intro entry member
  cases member

theorem Keyed.erase (keyed : directory.Keyed name) (label : Text) :
    (directory.erase label).Keyed name := by
  intro entry member
  exact keyed entry (Entries.mem_erase.mp member).1

theorem Keyed.insert (keyed : directory.Keyed name) {label : Text} {value : α}
    (same : (name value).fold = label.fold) : (directory.insert label value).Keyed name := by
  intro entry member
  rcases List.mem_append.mp member with old | new
  · exact keyed entry (Entries.mem_erase.mp old).1
  · obtain rfl := List.mem_singleton.mp new
    exact same.symm

theorem Keyed.modify (keyed : directory.Keyed name) {label : Text} {change : α → α}
    (same : ∀ value, directory.find? label = some value →
      (name (change value)).fold = (name value).fold) :
    (directory.modify label change).Keyed name := by
  intro entry member
  obtain ⟨old, oldMember, rfl⟩ := List.mem_map.mp member
  by_cases changed : old.1 = label.fold
  · have found : directory.find? label = some old.2 := by
      rw [find?_eq_some_iff, ← changed]
      exact oldMember
    rw [if_pos changed]
    exact (keyed old oldMember).trans (same old.2 found).symm
  · rw [if_neg changed]
    exact keyed old oldMember

theorem Keyed.map (keyed : directory.Keyed name) {change : α → α}
    (same : ∀ value, name (change value) = name value) : (directory.map change).Keyed name := by
  intro entry member
  obtain ⟨old, oldMember, rfl⟩ := List.mem_map.mp member
  simpa [same] using keyed old oldMember

theorem Keyed.filterMap (keyed : directory.Keyed name) {change : α → Option α}
    (same : ∀ value kept, change value = some kept → name kept = name value) :
    (directory.filterMap change).Keyed name := by
  intro entry member
  obtain ⟨old, oldMember, made⟩ := List.mem_filterMap.mp member
  obtain ⟨kept, keptEq, rfl⟩ := Option.map_eq_some_iff.mp made
  simpa [same old.2 kept keptEq] using keyed old oldMember

/-! A change that is made under one name only comes to that entry, if there is one. -/

theorem Keyed.filterMap_of_missing (keyed : directory.Keyed name) {label : Text}
    (missing : directory.find? label = none) (change : α → Option α) :
    (directory.filterMap fun value =>
      if (name value).fold = label.fold then change value else some value) = directory := by
  refine Directory.ext ((List.filterMap_congr fun entry member => ?_).trans List.filterMap_some)
  have listed := (keyed.mem_entries_iff.mp member).2
  have apart : (name entry.2).fold ≠ label.fold := by
    intro same
    rw [find?_congr same, missing] at listed
    cases listed
  dsimp only
  rw [if_neg apart]
  rfl

theorem Keyed.entries_filterMap_of_found (keyed : directory.Keyed name) {label : Text}
    {value : α} (found : directory.find? label = some value) (change : α → Option α) :
    (directory.filterMap fun other =>
      if (name other).fold = label.fold then change other else some other).entries =
      directory.entries.filterMap fun entry =>
        if entry.1 = label.fold then (change value).map (entry.1, ·) else some entry := by
  refine List.filterMap_congr fun entry member => ?_
  obtain ⟨key, listed⟩ := keyed.mem_entries_iff.mp member
  dsimp only
  rw [← key]
  split
  · rename_i here
    rw [find?_congr (key.symm.trans here), found] at listed
    rw [Option.some.inj listed]
  · rfl

end Directory

end IrcServer
