/-
A host with a slot for every bar manager.

`Host.slotted` never makes a client twice, and which requests to remove a bar it follows is
left open.  Whatever it follows, it has one slot for each manager, as `OneSlot` asks.
-/
import Mathlib.Logic.Function.Basic
import OutlineBar.Proofs.Host.OneSlot

namespace OutlineBar

open OutlineBar.Action

/-- The bars that a host shows, how many clients it made, and how often it was asked to
remove a bar. -/
structure Slotted where
  slot : BarManagerId → Option ClientId := fun _ => none
  made : Nat := 0
  asked : Nat := 0

namespace Slotted

/-- A request to remove a bar, which the host follows or not. -/
def remove (follows : Bool) (bars : BarManagerId) : Action Slotted HostStatus := fun s =>
  if follows then
    .ok (.ok ()) { s with slot := Function.update s.slot bars none, asked := s.asked + 1 }
  else
    .ok (.error (.general .removeBar)) { s with asked := s.asked + 1 }

def add (bars : BarManagerId) (client : ClientId) : Action Slotted HostStatus := fun s =>
  match s.slot bars with
  | none => .ok (.ok ()) { s with slot := Function.update s.slot bars (some client) }
  | some _ => .ok (.error (.general .addBar)) s

theorem add_free {bars : BarManagerId} {s : Slotted} (client : ClientId)
    (free : s.slot bars = none) :
    add bars client s =
      .ok (.ok ()) { s with slot := Function.update s.slot bars (some client) } := by
  unfold add
  rw [free]

theorem add_occupied {bars : BarManagerId} {bar : ClientId} {s : Slotted} (client : ClientId)
    (occupied : s.slot bars = some bar) :
    add bars client s = .ok (.error (.general .addBar)) s := by
  unfold add
  rw [occupied]

end Slotted

/-- A host that removes the bar when asked for the `n`-th time if `removes n`. -/
def Host.slotted (removes : Nat → Bool) : Host Slotted where
  answer
    | .primaryView _ | .secondaryView _ => pure (.ok ⟨0⟩)
    | .barSlot bars => fun s => .ok (.ok ((s.slot bars).map fun _ => ⟨0⟩)) s
    | .removeBar bars => fun s => Slotted.remove (removes s.asked) bars s
    | .addBar bars _ client => Slotted.add bars client
    | .createClient factory .. => fun s =>
      .ok (.made factory s.made) { s with made := s.made + 1 }
    | .filterKeyboard .. | .filterView .. => pure (.ok ())
    | .updateClient .. | .unregisterClient _ => pure ()
    | .requestParse .. | .subscribe _ | .unsubscribeIdle .. => pure ()
    | .snapshot _ => pure ⟨1, "a"⟩
    | .resolve .. => pure (.ok ⟨0⟩)
    | .parse _ snapshot => pure (.empty snapshot.version snapshot.byteLength)
    | .mayContinue _ => pure true
    | .subscribeIdle .. => pure ⟨0⟩
  onIdle _ _ := pure (.ok ())

theorem Host.slotted_oneSlot (removes : Nat → Bool) (bars : BarManagerId) :
    (Host.slotted removes).OneSlot bars (·.slot bars) where
  shows := by
    rintro s answer s' ⟨⟩
    exact Option.isSome_map
  asked _ := rfl
  removed {s s'} removed := by
    have removed : Slotted.remove (removes s.asked) bars s = .ok (.ok ()) s' := removed
    cases follows : removes s.asked <;> rw [follows] at removed <;> cases removed
    exact Function.update_self _ _ _
  notRemoved s fails := by
    have fails : ∀ s', Slotted.remove (removes s.asked) bars s ≠ .ok (.ok ()) s' := fails
    show ((Slotted.remove (removes s.asked) bars).after s).slot bars = s.slot bars
    cases follows : removes s.asked with
    | true =>
      rw [follows] at fails
      exact absurd rfl (fails _)
    | false => rfl
  taken {priority client s s'} taken := by
    have taken : Slotted.add bars client s = .ok (.ok ()) s' := taken
    cases shown : s.slot bars with
    | none =>
      cases (Slotted.add_free client shown).symm.trans taken
      exact ⟨rfl, Function.update_self _ _ _⟩
    | some bar => cases (Slotted.add_occupied client shown).symm.trans taken
  notTaken priority client s fails := by
    show ((Slotted.add bars client).after s).slot bars = s.slot bars
    cases shown : s.slot bars with
    | none => exact absurd (Slotted.add_free client shown) (fails _)
    | some bar =>
      rw [after_of_ok (Slotted.add_occupied client shown)]
      exact shown
  elsewhere {call} s other := by
    cases call with
    | removeBar manager =>
      have ne : bars ≠ manager := fun same => other (congrArg some same.symm)
      show ((Slotted.remove (removes s.asked) manager).after s).slot bars = s.slot bars
      cases removes s.asked with
      | true => exact Function.update_of_ne ne _ _
      | false => rfl
    | addBar manager priority client =>
      have ne : bars ≠ manager := fun same => other (congrArg some same.symm)
      show ((Slotted.add manager client).after s).slot bars = s.slot bars
      cases shown : s.slot manager with
      | none =>
        rw [after_of_ok (Slotted.add_free client shown)]
        exact Function.update_of_ne ne _ _
      | some bar => rw [after_of_ok (Slotted.add_occupied client shown)]
    | _ => rfl
  idle _ _ _ := rfl

/-- The host that removes every bar when asked to. -/
def Slotted.obliging : Host Slotted := Host.slotted fun _ => true

end OutlineBar
