/-
The outlines that windows hand to their clients.

A client gets an outline with the call that makes it, and with every update.  Both are
read off the log of the host: `handedBy` is what the operations of a presenter handed to
clients, whatever came of it, and `givenTo` is what one client got from it.
-/
import OutlineBar.Proofs.Host.Recorded

namespace OutlineBar

variable {η : Type}

/-- The outline that a call hands to a client. -/
def HostCall.handed? : HostCall → Option Outline
  | .createClient _ _ outline | .updateClient _ outline => some outline
  | _ => none

/-- The outline that a client got with a call. -/
def HostRecord.given? (client : ClientId) : HostRecord η → Option Outline
  | ⟨_, _, .createClient _ _ outline, .ok made⟩ => if made = client then some outline else none
  | ⟨_, _, .updateClient updated outline, _⟩ => if updated = client then some outline else none
  | _ => none

/-- The outlines that a presenter handed to its clients, in order. -/
def handedBy (id : PresenterId) (log : List (HostRecord η)) : List Outline :=
  log.filterMap fun r => if r.caller = some id then r.call.handed? else none

/-- The outlines that a client got from a presenter, in order. -/
def givenTo (id : PresenterId) (client : ClientId) (log : List (HostRecord η)) : List Outline :=
  log.filterMap fun r => if r.caller = some id then r.given? client else none

variable {id : PresenterId} {client : ClientId} {log : List (HostRecord η)}

theorem given?_of_silent {r : HostRecord η} (silent : r.call.handed? = none) :
    r.given? client = none := by
  obtain ⟨caller, before, call, outcome⟩ := r
  cases call <;> first | rfl | cases silent

theorem handedBy_concat (log : List (HostRecord η)) (r : HostRecord η) :
    handedBy id (log ++ [r]) =
      handedBy id log ++ (if r.caller = some id then r.call.handed? else none).toList := by
  unfold handedBy
  rw [List.filterMap_append]
  cases h : (if r.caller = some id then r.call.handed? else none) <;> simp [h]

theorem givenTo_concat (log : List (HostRecord η)) (r : HostRecord η) :
    givenTo id client (log ++ [r]) =
      givenTo id client log ++ (if r.caller = some id then r.given? client else none).toList := by
  unfold givenTo
  rw [List.filterMap_append]
  cases h : (if r.caller = some id then r.given? client else none) <;> simp [h]

/-- Whether none of the calls hands out anything for a presenter. -/
def Silent (id : PresenterId) (more : List (HostRecord η)) : Prop :=
  ∀ r ∈ more, r.caller = some id → r.call.handed? = none

theorem handedBy_append_silent {more : List (HostRecord η)} (silent : Silent id more) :
    handedBy id (log ++ more) = handedBy id log := by
  have none : handedBy id more = [] := by
    unfold handedBy
    rw [List.filterMap_eq_nil_iff]
    intro r mem
    split
    · exact silent r mem ‹_›
    · rfl
  rw [← List.append_nil (handedBy id log), ← none]
  exact List.filterMap_append

theorem givenTo_append_silent {more : List (HostRecord η)} (silent : Silent id more) :
    givenTo id client (log ++ more) = givenTo id client log := by
  have none : givenTo id client more = [] := by
    unfold givenTo
    rw [List.filterMap_eq_nil_iff]
    intro r mem
    split
    · exact given?_of_silent (silent r mem ‹_›)
    · rfl
  rw [← List.append_nil (givenTo id client log), ← none]
  exact List.filterMap_append

end OutlineBar
