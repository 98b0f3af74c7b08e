/-
Hosts with one slot for the bars of a manager.

`OneSlot` says what such a host does: it tells whether the slot is taken, a bar that it
removes leaves the slot empty, and a client that it takes finds the slot empty and is in
it afterwards.  A call that fails or panics changes nothing.
-/
import OutlineBar.Proofs.Workspace.Upheld

namespace OutlineBar

open OutlineBar.Action

/-- A host whose bar manager `bars` has one slot, which holds what `slot` says. -/
structure Host.OneSlot {η : Type} (H : Host η) (bars : BarManagerId)
    (slot : η → Option ClientId) : Prop where
  shows : ∀ {s answer s'}, H.barSlot bars s = .ok (.ok answer) s' → answer.isSome = (slot s).isSome
  asked : ∀ s, slot ((H.barSlot bars).after s) = slot s
  removed : ∀ {s s'}, H.removeBar bars s = .ok (.ok ()) s' → slot s' = none
  notRemoved : ∀ s, (∀ s', H.removeBar bars s ≠ .ok (.ok ()) s') →
    slot ((H.removeBar bars).after s) = slot s
  taken : ∀ {priority client s s'}, H.addBar bars priority client s = .ok (.ok ()) s' →
    slot s = none ∧ slot s' = some client
  notTaken : ∀ priority client s, (∀ s', H.addBar bars priority client s ≠ .ok (.ok ()) s') →
    slot ((H.addBar bars priority client).after s) = slot s
  elsewhere : ∀ {call : HostCall} s, call.bars? ≠ some bars →
    slot ((H.answer call).after s) = slot s
  idle : ∀ filters source b, slot ((H.onIdle filters source).after b).host = slot b.host

namespace Host.OneSlot

variable {η : Type} {H : Host η} {bars : BarManagerId} {slot : η → Option ClientId}
  {caller : Option PresenterId} {s s' : Recorded η} (h : H.OneSlot bars slot)
include h

theorem overlooks : H.Overlooks slot :=
  ⟨fun s aside => h.elsewhere s (by rw [HostCall.bars?_of_isAside aside]; nofun), h.idle⟩

theorem slot_elsewhere {call : HostCall} {outcome : Except Panic call.Answer}
    (called : H.Calls caller call s outcome s') (other : call.bars? ≠ some bars) :
    slot s'.host = slot s.host := by
  rw [called.host_eq, h.elsewhere s.host other]

theorem slot_asked {outcome : Except Panic (Except HostFailure (Option BarSlotId))}
    (called : H.Calls caller (.barSlot bars) s outcome s') : slot s'.host = slot s.host :=
  called.host_eq ▸ h.asked s.host

theorem slot_notRemoved {outcome : Except Panic HostStatus}
    (called : H.Calls caller (.removeBar bars) s outcome s') (fails : outcome ≠ .ok (.ok ())) :
    slot s'.host = slot s.host :=
  called.host_eq ▸ h.notRemoved s.host fun _ removed => fails (called.eq_ok removed)

theorem slot_notTaken {priority : Int} {client : ClientId} {outcome : Except Panic HostStatus}
    (called : H.Calls caller (.addBar bars priority client) s outcome s')
    (fails : outcome ≠ .ok (.ok ())) : slot s'.host = slot s.host :=
  called.host_eq ▸ h.notTaken priority client s.host fun _ taken => fails (called.eq_ok taken)

/-- What is in the slot after it was asked to be emptied. -/
theorem slot_removeBar {outcome : Except Panic HostStatus}
    (called : H.Calls caller (.removeBar bars) s outcome s') :
    slot s'.host = none ∨ slot s'.host = slot s.host := by
  by_cases removed : outcome = .ok (.ok ())
  · subst removed
    exact .inl (h.removed called.answered)
  · exact .inr (h.slot_notRemoved called removed)

end Host.OneSlot

end OutlineBar
