import IrcServer.Entries

namespace IrcServer

/-! Numbered slots.

Which number a new slot gets is left to a `Numbering`, of which nothing is known but that the number
is not in use.  `Numbering.lastFreed` is the one that servers are started with. -/

/-- How slots are numbered. -/
structure Numbering where
  /-- The number of a new slot, from the numbers in use and those that were freed, the last one
  first. -/
  next : (used freed : List Nat) → Nat
  unused : ∀ used freed, next used freed ∉ used

namespace Numbering

/-- The first number that is above all of these. -/
def above : List Nat → Nat
  | [] => 0
  | id :: rest => max (id + 1) (above rest)

theorem lt_above {used : List Nat} {id : Nat} (member : id ∈ used) : id < above used := by
  induction used with
  | nil => cases member
  | cons first rest inductionHypothesis =>
      rw [above]
      rcases List.mem_cons.mp member with rfl | later
      · omega
      · have below := inductionHypothesis later
        omega

/-- The number freed last is given out first, and a new one only when none is free. -/
def lastFreed : Numbering where
  next used freed := (freed.find? (· ∉ used)).getD (above used)
  unused used freed := by
    cases found : freed.find? (· ∉ used) with
    | some id => simpa using List.find?_some found
    | none => exact fun member => Nat.lt_irrefl _ (lt_above member)

end Numbering

structure Slab (α : Type) where
  entries : List (Nat × α)
  /-- The numbers that are free again, the last one first. -/
  freed : List Nat
  distinct : (entries.map Prod.fst).Nodup

namespace Slab

variable {α : Type}

def empty : Slab α :=
  ⟨[], [], by simp⟩

def find? (slab : Slab α) (id : Nat) : Option α :=
  Entries.find? id slab.entries

def contains (slab : Slab α) (id : Nat) : Bool :=
  (slab.find? id).isSome

def values (slab : Slab α) : List α :=
  slab.entries.map Prod.snd

/-- Puts a value into a slot that is not in use, and returns the number of the slot. -/
def insert (numbering : Numbering) (slab : Slab α) (value : α) : Nat × Slab α :=
  let used := slab.entries.map Prod.fst
  let id := numbering.next used slab.freed
  (id,
    { entries := slab.entries ++ [(id, value)]
      freed := slab.freed.erase id
      distinct := by
        rw [List.map_append, List.nodup_append]
        refine ⟨slab.distinct, by simp, ?_⟩
        rintro key taken other fresh rfl
        exact numbering.unused _ _ (List.mem_singleton.mp fresh ▸ taken) })

/-- Frees a slot.  Does nothing if the slot is not in use. -/
def erase (slab : Slab α) (id : Nat) : Slab α :=
  if slab.contains id then
    { entries := Entries.erase id slab.entries
      freed := id :: slab.freed
      distinct := slab.distinct.sublist (Entries.keys_erase_sublist _ _) }
  else slab

/-- Makes a change to the value in a slot, if the slot is in use. -/
def modify (slab : Slab α) (id : Nat) (change : α → α) : Slab α where
  entries := Entries.modify id change slab.entries
  freed := slab.freed
  distinct := by
    rw [Entries.keys_modify]
    exact slab.distinct

@[simp] theorem find?_empty (id : Nat) : (empty : Slab α).find? id = none := rfl

/-- A value gets a slot that was not in use. -/
theorem find?_insert_fst (numbering : Numbering) (slab : Slab α) (value : α) :
    slab.find? (slab.insert numbering value).1 = none :=
  Entries.find?_eq_none_iff.mpr (numbering.unused _ _)

theorem find?_insert (numbering : Numbering) (slab : Slab α) (value : α) (id : Nat) :
    (slab.insert numbering value).2.find? id =
      if id = (slab.insert numbering value).1 then some value else slab.find? id := by
  have fresh := slab.find?_insert_fst numbering value
  have entries : (slab.insert numbering value).2.entries =
      slab.entries ++ [((slab.insert numbering value).1, value)] := rfl
  unfold find? at fresh ⊢
  rw [entries, Entries.find?_append]
  by_cases new : id = (slab.insert numbering value).1
  · rw [if_pos new, new, fresh]
    simp [Entries.find?]
  · simp [Entries.find?, new]

@[simp] theorem find?_erase (slab : Slab α) (id other : Nat) :
    (slab.erase id).find? other = if other = id then none else slab.find? other := by
  unfold erase
  split
  · exact Entries.find?_erase _ _ _
  · rename_i unused
    split
    · rename_i same
      rw [contains, Bool.not_eq_true, Option.isSome_eq_false_iff, Option.isNone_iff_eq_none]
        at unused
      rw [same, unused]
    · rfl

@[simp] theorem find?_modify (slab : Slab α) (id other : Nat) (change : α → α) :
    (slab.modify id change).find? other =
      if other = id then (slab.find? other).map change else slab.find? other :=
  Entries.find?_modify _ _ _ _

end Slab

end IrcServer
