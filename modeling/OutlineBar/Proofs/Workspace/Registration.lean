/-
What operations do to rosters.

A window enters the roster of its scope under its identity, and whoever stands under its
identity is taken out: this is what `rosters_after_perform` says of all that a window can do,
whether it returns or panics.  A session empties its roster when it ends.  Nothing else
changes a roster but the idle hooks of the host.

The proofs are about predicates on presenters, rosters and scopes.  Such a predicate is stable
under all work on a desk that it ignores, so it is enough to look at registrations.
`Undisturbed` lists what a predicate has to show besides, so that sessions and new windows keep
it as well.
-/
import OutlineBar.Proofs.Session.Synced

namespace OutlineBar

open OutlineBar.Action

variable {η : Type} {H : Host η} {h : Handle} {s : Session} {w : Workspace η}

namespace Workspace

variable {P : Workspace η → Prop}

/-- Whether a predicate is about presenters, rosters and scopes only. -/
def AboutRolls (P : Workspace η → Prop) : Prop :=
  ∀ ⦃w w' : Workspace η⦄, P w → w'.presenters = w.presenters → w'.rosters = w.rosters →
    w'.scopes = w.scopes → P w'

/-- Whether work on the desk of a presenter keeps a predicate. -/
def Ignores (P : Workspace η → Prop) (id : PresenterId) : Prop :=
  ∀ w d, P w → P (w.putDesk id d)

theorem AboutRolls.stable (about : AboutRolls P) :
    Stable H (fun _ => True) (fun id _ => Ignores P id) P where
  note _ hw := about hw rfl rfl rfl
  wake _ hw := about hw rfl rfl rfl
  call _ hw := about hw rfl rfl rfl
  desk ignores hw := ignores _ _ hw

end Workspace

open Workspace

/-! ## Windows -/

/-- A roster after an operation of a window of its scope. -/
def WindowOperation.onRoster (h : Handle) : WindowOperation → Roster → Roster
  | register, r | adorn, r => (r.put h.window h).2
  | unregister, r | unadorn, r => (r.remove h.window).2
  | _, r => r

/-- What is in a roster after a window was entered or taken out. -/
theorem WindowOperation.rosters_after_roll (operation : WindowOperation) (h : Handle)
    (w : Workspace η) (roster : RosterId) :
    ((operation.roll h).after w).rosters.get roster =
      if roster = (w.scopes.get h.scope).roster then operation.onRoster h (w.rosters.get roster)
      else w.rosters.get roster := by
  have changed (change : Roster → Roster) :
      (w.rosters.modify (w.scopes.get h.scope).roster change).get roster =
        if roster = (w.scopes.get h.scope).roster then change (w.rosters.get roster)
        else w.rosters.get roster := by
    unfold Store.modify
    split
    · rename_i own
      rw [own, Store.get_set_self]
    · rename_i other
      exact Store.get_set_of_ne _ _ other
  cases operation with
  | register | adorn => exact changed fun r => (r.put h.window h).2
  | unregister | unadorn => exact changed fun r => (r.remove h.window).2
  | _ => exact (ite_self _).symm

/-- Whatever a window does, and whether it returns or panics: the roster of its scope is as the
operation says, all other rosters and all scopes are as before.  An idle hook must leave the
roster alone for this. -/
theorem WindowOperation.rosters_after_perform (operation : WindowOperation) (h : Handle)
    (w : Workspace η) (roster : RosterId)
    (hooks : ∀ source, operation = .maintain source → H.Spares roster) :
    ((operation.perform H h).after w).scopes = w.scopes ∧
      ((operation.perform H h).after w).rosters.get roster =
        if roster = (w.scopes.get h.scope).roster then operation.onRoster h (w.rosters.get roster)
        else w.rosters.get roster := by
  rw [← operation.rosters_after_roll h w roster]
  let P (w' : Workspace η) : Prop := w'.scopes = w.scopes ∧
    w'.rosters.get roster = ((operation.roll h).after w).rosters.get roster
  have about : AboutRolls P := fun _ _ kept _ rosters scopes =>
    ⟨scopes.trans kept.1, (congrArg (·.get roster) rosters).trans kept.2⟩
  have hooked (source : IdleSourceId) (e : operation = .maintain source) (filters : FiltersId) :
      Keeps P (onBackstage (H.onIdle filters source)) := Keeps.zoom fun w kept =>
    ⟨kept.1, (hooks source e filters source w.toBackstage).trans kept.2⟩
  have rolled : P ((operation.roll h).after w) := ⟨by cases operation <;> rfl, rfl⟩
  exact about.stable.after_perform operation (fun _ _ _ _ kept => kept) hooked rolled

/-! ## Any operation -/

/-- What a predicate has to show so that every operation keeps it that is not one of a window
itself: that it ignores the windows that are registered, and is kept when a roster is emptied,
bars are switched on or off, a window is opened or an idle hook runs. -/
structure Workspace.Undisturbed (H : Host η) (P : Workspace η → Prop) : Prop where
  about : AboutRolls P
  ignores : ∀ {w}, P w → ∀ roster, ∀ h ∈ (w.rosters.get roster).handles, Ignores P h.presenter
  emptied : ∀ {w} scope, P w → P (w.emptied scope)
  switched : ∀ {w} scope enabled, P w → P (w.switched scope enabled)
  opened : ∀ {w} p, P w → P { w with presenters := (w.presenters.add p).2 }
  hooked : ∀ filters source, Keeps P (onBackstage (H.onIdle filters source))

namespace Workspace.Undisturbed

variable {P : Workspace η → Prop} (undisturbed : Undisturbed H P)
include undisturbed

theorem keeps_session (s : Session) (operation : SessionOperation) :
    Keeps P (operation.perform H s) :=
  undisturbed.about.stable.keeps_session operation
    (fun _ hw k mem _ _ => undisturbed.ignores hw _ k mem)
    (fun _ hw => undisturbed.emptied s.scope hw)
    (fun _ enabled hw => undisturbed.switched s.scope enabled hw)
    (fun source _ => undisturbed.about.stable.keeps_tick trivial
      (fun filters => undisturbed.hooked filters source) _)
    fun _ _ _ => trivial

theorem keeps_openWindow (parts : WindowParts) (scope : ScopeId) :
    Keeps P (openWindow H parts scope) := by
  have about := undisturbed.about
  exact about.stable.keeps_openWindow (fun _ => trivial) (fun _ _ _ _ _ hw => about hw rfl rfl rfl)
    (fun _ _ hw => about hw rfl rfl rfl) (fun p _ _ hw => undisturbed.opened p hw) scope

end Workspace.Undisturbed

end OutlineBar
