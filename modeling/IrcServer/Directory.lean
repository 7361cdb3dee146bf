import IrcServer.Entries
import IrcServer.Text

namespace IrcServer

/-! A directory of things by name.  Two names that differ in the case of ASCII letters only are the
same name, and no name has two entries.  `find?` is the view: every operation is described by what
it does to `find?`. -/

@[ext] structure Directory (α : Type) where
  /-- The entries under their folded names. -/
  entries : List (Text × α)
  distinct : (entries.map Prod.fst).Nodup

namespace Directory

variable {α : Type}

def empty : Directory α :=
  ⟨[], by simp⟩

def find? (directory : Directory α) (name : Text) : Option α :=
  Entries.find? name.fold directory.entries

def contains (directory : Directory α) (name : Text) : Bool :=
  (directory.find? name).isSome

def values (directory : Directory α) : List α :=
  directory.entries.map Prod.snd

def size (directory : Directory α) : Nat :=
  directory.entries.length

/-- The directory without the entry of `name`. -/
def erase (directory : Directory α) (name : Text) : Directory α where
  entries := Entries.erase name.fold directory.entries
  distinct := directory.distinct.sublist (Entries.keys_erase_sublist _ _)

/-- The directory with `value` as the one entry of `name`. -/
def insert (directory : Directory α) (name : Text) (value : α) : Directory α where
  entries := Entries.erase name.fold directory.entries ++ [(name.fold, value)]
  distinct := by
    rw [List.map_append, List.nodup_append]
    refine ⟨(directory.erase name).distinct, by simp, ?_⟩
    intro key keyMember other otherMember same
    simp only [List.map_cons, List.map_nil, List.mem_singleton] at otherMember
    subst same otherMember
    exact Entries.not_mem_keys_erase _ _ keyMember

/-- The directory with `change` made to the entry of `name`, if there is one. -/
def modify (directory : Directory α) (name : Text) (change : α → α) : Directory α where
  entries := Entries.modify name.fold change directory.entries
  distinct := by
    rw [Entries.keys_modify]
    exact directory.distinct

/-- The directory with `change` made to every entry. -/
def map (directory : Directory α) (change : α → α) : Directory α where
  entries := directory.entries.map fun entry => (entry.1, change entry.2)
  distinct := by
    have keys : (directory.entries.map fun entry => (entry.1, change entry.2)).map Prod.fst =
        directory.entries.map Prod.fst := by
      simp [Function.comp_def]
    rw [keys]
    exact directory.distinct

/-- The directory with `change` made to every entry, without the entries for which it gives
nothing. -/
def filterMap (directory : Directory α) (change : α → Option α) : Directory α where
  entries := Entries.filterMap change directory.entries
  distinct := directory.distinct.sublist (Entries.keys_filterMap_sublist _ _)

@[simp] theorem find?_empty (name : Text) : (empty : Directory α).find? name = none := rfl

@[simp] theorem find?_erase (directory : Directory α) (name other : Text) :
    (directory.erase name).find? other =
      if other.fold = name.fold then none else directory.find? other :=
  Entries.find?_erase _ _ _

@[simp] theorem find?_insert (directory : Directory α) (name other : Text) (value : α) :
    (directory.insert name value).find? other =
      if other.fold = name.fold then some value else directory.find? other := by
  unfold find? insert
  rw [Entries.find?_append, Entries.find?_erase]
  by_cases same : other.fold = name.fold <;> simp [same, Entries.find?]

@[simp] theorem find?_modify (directory : Directory α) (name other : Text) (change : α → α) :
    (directory.modify name change).find? other =
      if other.fold = name.fold then (directory.find? other).map change
      else directory.find? other :=
  Entries.find?_modify _ _ _ _

@[simp] theorem find?_map (directory : Directory α) (change : α → α) (name : Text) :
    (directory.map change).find? name = (directory.find? name).map change :=
  Entries.find?_map _ _ _

@[simp] theorem find?_filterMap (directory : Directory α) (change : α → Option α) (name : Text) :
    (directory.filterMap change).find? name = (directory.find? name).bind change :=
  Entries.find?_filterMap directory.distinct _ _

end Directory

end IrcServer
