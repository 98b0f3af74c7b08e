/-
Rosters: the registered windows.

A roster keeps at most one entry for each window identity.  An entry is a handle,
which names a presenter and the scope it was opened in; a handle registered under
another identity than its own is still the same presenter.  Entries are listed in
the order in which their keys first came in, which is only a representation:
`ids` is ascending, and what a walk over the entries does must not depend on their
order.
-/
import OutlineBar.Identity

namespace OutlineBar

/-- A handle on the presenter of a window. -/
structure Handle where
  window : WindowId
  scope : ScopeId
  presenter : PresenterId
  deriving DecidableEq, Repr, Inhabited

def Handle.description (h : Handle) : String :=
  "ControllerHandle \x7b window: WindowId(" ++ toString h.window.number ++ "), .. \x7d"

/-- The handles registered under window identities. -/
structure Roster where
  entries : List (WindowId × Handle) := []
  deriving Repr, Inhabited

namespace Roster

def get? (id : WindowId) (r : Roster) : Option Handle :=
  (r.entries.find? fun entry => decide (entry.1 = id)).map Prod.snd

def contains (id : WindowId) (r : Roster) : Bool := (r.get? id).isSome

/-- The entries with one written, in place when its key is there already. -/
def write (id : WindowId) (h : Handle) : List (WindowId × Handle) → List (WindowId × Handle)
  | [] => [(id, h)]
  | (id', h') :: rest => if id' = id then (id, h) :: rest else (id', h') :: write id h rest

/-- Registers a handle; also answers the one it replaces. -/
def put (id : WindowId) (h : Handle) (r : Roster) : Option Handle × Roster :=
  (r.get? id, ⟨write id h r.entries⟩)

/-- Removes the entry of an identity; also answers the handle that was there. -/
def remove (id : WindowId) (r : Roster) : Option Handle × Roster :=
  (r.get? id, ⟨r.entries.filter fun entry => !decide (entry.1 = id)⟩)

def drain (r : Roster) : List Handle × Roster := (r.entries.map Prod.snd, {})

def size (r : Roster) : Nat := r.entries.length

def isEmpty (r : Roster) : Bool := r.entries.isEmpty

def handles (r : Roster) : List Handle := r.entries.map Prod.snd

/-- The identities under which something is registered, ascending. -/
def ids (r : Roster) : List WindowId :=
  (ascending (r.entries.map fun entry => entry.1.number)).map WindowId.mk

/-! ## Reading what was written -/

theorem find?_write_self (id : WindowId) (h : Handle) (entries : List (WindowId × Handle)) :
    ((write id h entries).find? fun entry => decide (entry.1 = id)) = some (id, h) := by
  induction entries with
  | nil => simp [write]
  | cons entry rest ih =>
    by_cases e : entry.1 = id
    · simp [write, e]
    · simp [write, e, ih]

theorem find?_write_of_ne {id id' : WindowId} (ne : id' ≠ id) (h : Handle)
    (entries : List (WindowId × Handle)) :
    ((write id h entries).find? fun entry => decide (entry.1 = id')) =
      entries.find? fun entry => decide (entry.1 = id') := by
  induction entries with
  | nil => simp [write, ne.symm]
  | cons entry rest ih => grind [write]

@[simp] theorem get?_put_self (id : WindowId) (h : Handle) (r : Roster) :
    (r.put id h).2.get? id = some h := by
  simp [put, get?, find?_write_self]

theorem get?_put_of_ne {id id' : WindowId} (ne : id' ≠ id) (h : Handle) (r : Roster) :
    (r.put id h).2.get? id' = r.get? id' := by
  simp [put, get?, find?_write_of_ne ne]

@[simp] theorem get?_remove_self (id : WindowId) (r : Roster) : (r.remove id).2.get? id = none := by
  simp [remove, get?, List.find?_filter]

theorem get?_remove_of_ne {id id' : WindowId} (ne : id' ≠ id) (r : Roster) :
    (r.remove id).2.get? id' = r.get? id' := by
  have same : ∀ entry : WindowId × Handle,
      decide ((!decide (entry.1 = id)) = true ∧ decide (entry.1 = id') = true) =
        decide (entry.1 = id') := by
    intro entry
    by_cases e : entry.1 = id' <;> simp [e, ne]
  simp only [remove, get?, List.find?_filter, same]

end Roster

end OutlineBar
