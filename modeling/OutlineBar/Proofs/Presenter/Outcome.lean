/-
Whether a window is attached after an operation.

Detaching leaves a window without a client, also when it panics.  Attaching leaves one with
a client exactly when it answers that all went well.
-/
import OutlineBar.Proofs.Presenter.Upheld

namespace OutlineBar.Desk

open OutlineBar.Action

variable {η : Type} (H : Host η) {d : Desk η}

theorem client_after_detach (d : Desk η) : ((detach H).after d).presenter.client = none := by
  have e := detach_eq H d
  cases attached : d.presenter.client with
  | none =>
    rw [attached] at e
    rw [after_of_ok e]
    exact attached
  | some client =>
    rw [attached] at e
    dsimp only at e
    cases told : H.unregisterClient client d.host with
    | error p host =>
      rw [told] at e
      rw [after_of_error e]
    | ok _ host =>
      rw [told] at e
      dsimp only at e
      cases removed : H.removeBar d.presenter.bars host with
      | error p host' =>
        rw [removed] at e
        rw [after_of_error e]
        rfl
      | ok status host' =>
        rw [removed] at e
        rw [after_of_ok e]
        rfl

/-- Whether the window has a client if the status says so, and none otherwise. -/
def Settles : EStateM.Result Panic (Desk η) HostStatus → Prop
  | .ok (.ok ()) d => d.presenter.client.isSome = true
  | .ok (.error _) d | .error _ d => d.presenter.client = none

theorem settles_offer (none : d.presenter.client = none) (client : ClientId) (version : Nat) :
    Settles (offer H d client version) := by
  unfold offer
  cases H.addBar d.presenter.bars d.presenter.priority client d.host with
  | error p host => exact none
  | ok status host =>
    cases status with
    | ok _ => rfl
    | error failure =>
      dsimp only
      cases H.unregisterClient client host <;> exact none

theorem presenter_after_outlineOf (snapshot : Snapshot) (d : Desk η) :
    ((outlineOf H snapshot).after d).presenter = d.presenter := by
  have e := outlineOf_eq H d snapshot
  unfold after
  split at e
  · split at e <;> rw [e]
  · dsimp only at e
    split at e <;> rw [e]

theorem settles_offerClient (none : d.presenter.client = none) : Settles (offerClient H d) := by
  rw [offerClient_eq]
  cases H.snapshot d.presenter.buffer d.host with
  | error p host => exact none
  | ok snapshot host =>
    have same := presenter_after_outlineOf H snapshot { d with host }
    dsimp only
    cases outlined : outlineOf H snapshot { d with host } with
    | error p d' =>
      rw [after_of_error outlined] at same
      show d'.presenter.client = .none
      rw [same]
      exact none
    | ok outline d' =>
      rw [after_of_ok outlined] at same
      have unattached : d'.presenter.client = .none := by
        rw [same]
        exact none
      dsimp only
      cases H.createClient d'.presenter.factory d'.presenter.window outline d'.host with
      | error p host => exact unattached
      | ok client host => exact settles_offer H (d := { d' with host }) unattached client _

theorem settles_attach (d : Desk η) : Settles (attach H d) := by
  unfold attach
  rw [bind_apply]
  cases detached : detachPrevious H d with
  | error p d₁ =>
    -- Only detaching can panic here.
    show d₁.presenter.client = none
    unfold detachPrevious at detached
    rw [bind_apply] at detached
    dsimp only [get_apply] at detached
    split at detached
    · rw [bind_apply] at detached
      cases first : detach H d with
      | error p' d' =>
        rw [first] at detached
        cases detached
        rw [← after_of_error first]
        exact client_after_detach H d
      | ok status d' =>
        rw [first] at detached
        cases status <;> cases detached
    · cases detached
  | ok _ d₁ =>
    have none := client_of_detachPrevious detached
    dsimp only
    have same : ((clearSlot H).after d₁).presenter = d₁.presenter :=
      keeps_clearSlot (P := fun d => d.presenter = d₁.presenter) (fun _ _ h => h)
        (fun _ _ _ _ _ h => h) d₁ rfl
    rw [bind_apply]
    cases cleared : clearSlot H d₁ with
    | error p d₂ =>
      rw [after_of_error cleared] at same
      show d₂.presenter.client = .none
      rw [same]
      exact none
    | ok status d₂ =>
      rw [after_of_ok cleared] at same
      have unattached : d₂.presenter.client = .none := by
        rw [same]
        exact none
      cases status with
      | error failure => exact unattached
      | ok _ => exact settles_offerClient H unattached

end OutlineBar.Desk
