/-
A bag of properties, at most one for each type of value.

Types are named by keys.  A slot holds a value together with the name of its own
type, and reading a slot checks that name against the key, because nothing in the
representation forces the two to agree.  Slots stand in the order in which their
keys first came into the bag.
-/
namespace OutlineBar

/-- A value that carries the name of its type. -/
structure Tagged (κ : Type) (ν : κ → Type) where
  key : κ
  value : ν key

namespace Tagged

variable {κ : Type} {ν : κ → Type} [DecidableEq κ]

def cast? (k : κ) (t : Tagged κ ν) : Option (ν k) :=
  if h : t.key = k then some (h ▸ t.value) else none

end Tagged

/-- Properties by type.  `ν k` is the type of the values that the key `k` names. -/
structure Bag (κ : Type) (ν : κ → Type) where
  slots : List (κ × Tagged κ ν) := []

namespace Bag

variable {κ : Type} {ν : κ → Type} [DecidableEq κ]

def empty : Bag κ ν := {}

instance : Inhabited (Bag κ ν) := ⟨empty⟩

/-- The slots after writing one, in place when the key is there already. -/
def write (k : κ) (t : Tagged κ ν) : List (κ × Tagged κ ν) → List (κ × Tagged κ ν)
  | [] => [(k, t)]
  | (k', t') :: rest => if k' = k then (k, t) :: rest else (k', t') :: write k t rest

/-- The contents of the slot of a key, of whatever type. -/
def slot? (k : κ) (b : Bag κ ν) : Option (Tagged κ ν) :=
  (b.slots.find? fun slot => decide (slot.1 = k)).map Prod.snd

def get? (k : κ) (b : Bag κ ν) : Option (ν k) := (b.slot? k).bind (Tagged.cast? k)

def contains (k : κ) (b : Bag κ ν) : Bool := (b.slot? k).isSome

/-- Stores a property; also answers the one it replaces. -/
def insert (k : κ) (v : ν k) (b : Bag κ ν) : Option (ν k) × Bag κ ν :=
  (b.get? k, ⟨write k ⟨k, v⟩ b.slots⟩)

/-- Empties the slot of a type; also answers the property that was there. -/
def remove (k : κ) (b : Bag κ ν) : Option (ν k) × Bag κ ν :=
  (b.get? k, ⟨b.slots.filter fun slot => !decide (slot.1 = k)⟩)

def size (b : Bag κ ν) : Nat := b.slots.length

def isEmpty (b : Bag κ ν) : Bool := b.slots.isEmpty

def description (b : Bag κ ν) : String := "PropertyBag \x7b len: " ++ toString b.size ++ " \x7d"

/-! ## Reading what was written -/

theorem find?_write_self (k : κ) (t : Tagged κ ν) (slots : List (κ × Tagged κ ν)) :
    ((write k t slots).find? fun slot => decide (slot.1 = k)) = some (k, t) := by
  induction slots with
  | nil => simp [write]
  | cons slot rest ih =>
    by_cases e : slot.1 = k
    · simp [write, e]
    · simp [write, e, ih]

theorem find?_write_of_ne {k k' : κ} (ne : k' ≠ k) (t : Tagged κ ν)
    (slots : List (κ × Tagged κ ν)) :
    ((write k t slots).find? fun slot => decide (slot.1 = k')) =
      slots.find? fun slot => decide (slot.1 = k') := by
  induction slots with
  | nil => simp [write, ne.symm]
  | cons slot rest ih => grind [write]

@[simp] theorem slot?_insert_self (k : κ) (v : ν k) (b : Bag κ ν) :
    (b.insert k v).2.slot? k = some ⟨k, v⟩ := by
  simp [insert, slot?, find?_write_self]

theorem slot?_insert_of_ne {k k' : κ} (ne : k' ≠ k) (v : ν k) (b : Bag κ ν) :
    (b.insert k v).2.slot? k' = b.slot? k' := by
  simp [insert, slot?, find?_write_of_ne ne]

@[simp] theorem slot?_remove_self (k : κ) (b : Bag κ ν) : (b.remove k).2.slot? k = none := by
  have gone : (b.slots.filter fun slot => !decide (slot.1 = k)).find?
      (fun slot => decide (slot.1 = k)) = none := by
    rw [List.find?_eq_none]
    intro slot h
    simpa using (List.mem_filter.mp h).2
  simp [remove, slot?, gone]

theorem slot?_remove_of_ne {k k' : κ} (ne : k' ≠ k) (b : Bag κ ν) :
    (b.remove k).2.slot? k' = b.slot? k' := by
  have same : ∀ slot : κ × Tagged κ ν,
      decide ((!decide (slot.1 = k)) = true ∧ decide (slot.1 = k') = true) =
        decide (slot.1 = k') := by
    intro slot
    by_cases e : slot.1 = k' <;> simp [e, ne]
  simp only [remove, slot?, List.find?_filter, same]

@[simp] theorem get?_insert_self (k : κ) (v : ν k) (b : Bag κ ν) :
    (b.insert k v).2.get? k = some v := by
  simp [get?, Tagged.cast?]

theorem get?_insert_of_ne {k k' : κ} (ne : k' ≠ k) (v : ν k) (b : Bag κ ν) :
    (b.insert k v).2.get? k' = b.get? k' := by
  simp [get?, slot?_insert_of_ne ne]

@[simp] theorem get?_remove_self (k : κ) (b : Bag κ ν) : (b.remove k).2.get? k = none := by
  simp [get?]

theorem get?_remove_of_ne {k k' : κ} (ne : k' ≠ k) (b : Bag κ ν) :
    (b.remove k).2.get? k' = b.get? k' := by
  simp [get?, slot?_remove_of_ne ne]

end Bag

end OutlineBar
