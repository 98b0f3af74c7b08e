/-
Stores: the objects of one kind, by reference.

A store is a function, because that makes writing to one reference and reading
another independent without asking whether either was ever handed out.  `size`
counts the references that were; a reference beyond it reads the object that all
of them started with.
-/
import OutlineBar.Identity

namespace OutlineBar

/-- The objects of one kind. -/
structure Store (kind : Kind) (α : Type) where
  size : Nat := 0
  cell : Nat → α

namespace Store

variable {kind : Kind} {α : Type}

def empty [Inhabited α] : Store kind α := { cell := fun _ => default }

instance [Inhabited α] : Inhabited (Store kind α) := ⟨empty⟩

def get (s : Store kind α) (r : Ref kind) : α := s.cell r.index

def set (s : Store kind α) (r : Ref kind) (a : α) : Store kind α :=
  { s with cell := fun i => if i = r.index then a else s.cell i }

def modify (s : Store kind α) (r : Ref kind) (change : α → α) : Store kind α :=
  s.set r (change (s.get r))

def add (s : Store kind α) (a : α) : Ref kind × Store kind α :=
  (⟨s.size⟩, { size := s.size + 1, cell := fun i => if i = s.size then a else s.cell i })

def refs (s : Store kind α) : List (Ref kind) := (List.range s.size).map Ref.mk

@[simp] theorem get_set_self (s : Store kind α) (r : Ref kind) (a : α) : (s.set r a).get r = a := by
  simp [get, set]

theorem get_set_of_ne (s : Store kind α) {r r' : Ref kind} (a : α) (h : r' ≠ r) :
    (s.set r a).get r' = s.get r' := by
  have : r'.index ≠ r.index := fun e => h (by cases r; cases r'; simp_all)
  simp [get, set, this]

/-- What an object has in common with the one in its place is read as before. -/
theorem map_get_set {β : Type} (f : α → β) (s : Store kind α) {r : Ref kind} {a : α}
    (same : f a = f (s.get r)) (r' : Ref kind) : f ((s.set r a).get r') = f (s.get r') := by
  by_cases e : r' = r
  · rw [e, get_set_self, same]
  · rw [get_set_of_ne _ _ e]

theorem set_get (s : Store kind α) (r : Ref kind) : s.set r (s.get r) = s := by
  have same : (fun i => if i = r.index then s.cell r.index else s.cell i) = s.cell := by
    funext i
    split
    · simp [*]
    · rfl
  simp [set, get, same]

theorem set_set (s : Store kind α) (r : Ref kind) (a b : α) : (s.set r a).set r b = s.set r b := by
  simp only [set, mk.injEq, true_and]
  funext i
  split <;> rfl

theorem set_comm (s : Store kind α) {r r' : Ref kind} (ne : r' ≠ r) (a b : α) :
    (s.set r a).set r' b = (s.set r' b).set r a := by
  have other : r'.index ≠ r.index := fun e => ne (congrArg Ref.mk e)
  simp only [set, mk.injEq, true_and]
  funext i
  by_cases e : i = r.index
  · simp [e, other.symm]
  · simp [e]

/-- Changes of one object must commute by themselves. -/
theorem modify_comm (s : Store kind α) {r r' : Ref kind} {change change' : α → α}
    (comm : r' = r → ∀ a, change' (change a) = change (change' a)) :
    (s.modify r change).modify r' change' = (s.modify r' change').modify r change := by
  unfold modify
  by_cases e : r' = r
  · subst e
    rw [get_set_self, get_set_self, set_set, set_set, comm rfl]
  · rw [get_set_of_ne _ _ e, get_set_of_ne _ _ (Ne.symm e), set_comm _ e]

theorem get_add_self (s : Store kind α) (a : α) : (s.add a).2.get (s.add a).1 = a := by
  simp [get, add]

theorem get_add_of_ne (s : Store kind α) {r : Ref kind} (a : α) (h : r.index ≠ s.size) :
    (s.add a).2.get r = s.get r := by
  simp [get, add, h]

theorem get_add_of_lt (s : Store kind α) {r : Ref kind} (a : α) (h : r.index < s.size) :
    (s.add a).2.get r = s.get r := s.get_add_of_ne a (Nat.ne_of_lt h)

/-- A reference that was handed out is the last one, or was handed out before it. -/
theorem eq_or_lt_of_lt_add (s : Store kind α) (a : α) {r : Ref kind}
    (given : r.index < (s.add a).2.size) : r = (s.add a).1 ∨ r.index < s.size :=
  (Nat.lt_succ_iff_lt_or_eq.mp given).symm.imp_left fun e => congrArg Ref.mk e

end Store

end OutlineBar
