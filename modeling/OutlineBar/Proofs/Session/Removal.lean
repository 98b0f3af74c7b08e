/-
Who is taken out of a roster.

A window is taken out under its identity, and nothing asks whether the entry that stands there
is the window's own.  `removal_takes_whoever_stands_there` says what this does to another
window that was registered under the same identity since: its entry is gone, and from then on
nothing reaches it that goes through a roster, whatever happens, until it is registered again.
`removal_takes_another` is a window that keeps its bar for this reason when all bars are turned
off.

The invariant is `Unlisted`: no roster lists the presenter, which is as it was.
-/
import OutlineBar.Proofs.Session.Opened
import OutlineBar.Proofs.Workspace.Registration

namespace OutlineBar

open OutlineBar.Action

variable {η : Type} {H : Host η} {caller : Option PresenterId}

/-- Whether idle hooks enter no window into a roster.  They may take windows out. -/
def Host.EntersNobody (H : Host η) : Prop :=
  ∀ filters source b roster, (((H.onIdle filters source).after b).rosters.get roster).entries ⊆
    (b.rosters.get roster).entries

theorem Host.EntersNobody.recorded (enters : H.EntersNobody) (caller : Option PresenterId) :
    (H.recorded caller).EntersNobody := by
  intro filters source b
  unfold Host.recorded
  dsimp only
  rw [after_zoom]
  exact enters filters source _

/-- Whether an operation is one of a window of its own. -/
def Operation.IsOf (id : PresenterId) : Operation η → Prop
  | .window h _ => h.presenter = id
  | _ => False

namespace Roster

theorem mem_entries_write {id : WindowId} {h : Handle} {entries : List (WindowId × Handle)}
    {entry : WindowId × Handle} (mem : entry ∈ write id h entries) :
    entry = (id, h) ∨ entry ∈ entries := by
  induction entries with
  | nil => exact .inl (List.mem_singleton.mp mem)
  | cons other rest ih =>
    unfold write at mem
    split at mem
    · exact (List.mem_cons.mp mem).imp_right (List.mem_cons_of_mem _)
    · rcases List.mem_cons.mp mem with rfl | mem
      · exact .inr List.mem_cons_self
      · exact (ih mem).imp_right (List.mem_cons_of_mem _)

end Roster

/-- Whether a presenter is as `p` says and no roster lists it. -/
structure Workspace.Unlisted (id : PresenterId) (p : Presenter) (w : Workspace η) : Prop where
  given : id.index < w.presenters.size
  same : w.presenters.get id = p
  unlisted : ∀ roster, ∀ entry ∈ (w.rosters.get roster).entries, entry.2.presenter ≠ id

namespace Workspace.Unlisted

variable {id : PresenterId} {p : Presenter} {w : Workspace η}

theorem about : AboutRolls (η := η) (Unlisted id p) := by
  intro w w' before presenters rosters _
  refine ⟨?_, ?_, ?_⟩
  · rw [presenters]
    exact before.given
  · rw [presenters]
    exact before.same
  · rw [rosters]
    exact before.unlisted

theorem ignores {other : PresenterId} (ne : other ≠ id) :
    Ignores (η := η) (Unlisted id p) other := fun _ _ before =>
  ⟨before.given, (Store.get_set_of_ne _ _ ne.symm).trans before.same, before.unlisted⟩

/-- A change of one roster that enters no handle on the presenter. -/
theorem change (before : Unlisted id p w) (roster : RosterId) {r : Roster}
    (unlisted : ∀ entry ∈ r.entries, entry.2.presenter ≠ id) :
    Unlisted id p { w with rosters := w.rosters.set roster r } := by
  refine ⟨before.given, before.same, fun other entry mem => ?_⟩
  by_cases e : other = roster
  · subst e
    rw [Store.get_set_self] at mem
    exact unlisted entry mem
  · rw [Store.get_set_of_ne _ _ e] at mem
    exact before.unlisted other entry mem

theorem roll (before : Unlisted id p w) {h : Handle} (ne : h.presenter ≠ id)
    (operation : WindowOperation) : Unlisted id p ((operation.roll h).after w) := by
  let roster := (w.scopes.get h.scope).roster
  have entered : Unlisted id p (h.register.after w) := by
    refine about (before.change roster (r := ((w.rosters.get roster).put h.window h).2)
      fun entry mem => ?_) rfl rfl rfl
    rcases Roster.mem_entries_write mem with rfl | mem
    · exact ne
    · exact before.unlisted roster entry mem
  have taken : Unlisted id p (h.unregister.after w) :=
    about (before.change roster (r := ((w.rosters.get roster).remove h.window).2)
      fun entry mem => before.unlisted roster entry (List.mem_filter.mp mem).1) rfl rfl rfl
  cases operation with
  | register | adorn => exact entered
  | unregister | unadorn => exact taken
  | _ => exact before

/-- A presenter that no roster lists is as it was, whatever is done that is not an operation
of its own. -/
theorem undisturbed (enters : H.EntersNobody) :
    Undisturbed (H.recorded caller) (Unlisted id p) where
  about := about
  ignores before roster h mem := by
    obtain ⟨entry, listed, rfl⟩ := List.mem_map.mp mem
    exact ignores (before.unlisted roster entry listed)
  emptied _ before := before.change _ nofun
  switched _ _ before := ⟨before.given, before.same, before.unlisted⟩
  opened _ before := ⟨Nat.lt_succ_of_lt before.given,
    (Store.get_add_of_lt _ _ before.given).trans before.same, before.unlisted⟩
  hooked filters source := Keeps.zoom fun w before => ⟨before.given, before.same,
    fun roster entry mem => before.unlisted roster entry
      (enters.recorded caller filters source w.toBackstage roster mem)⟩

theorem perform {w : Workspace (Recorded η)} (enters : H.EntersNobody)
    (before : Unlisted id p w) {operation : Operation η} (other : ¬ operation.IsOf id) :
    Unlisted id p ((operation.perform H).after w) := by
  have undisturbed (caller : Option PresenterId) :
      Undisturbed (H.recorded caller) (Unlisted (η := Recorded η) id p) := undisturbed enters
  cases operation with
  | openWindow parts scope =>
    exact Keeps.bind ((undisturbed none).keeps_openWindow parts scope) (fun _ => Keeps.pure _)
      w before
  | window h operation =>
    exact about.stable.after_perform operation (fun _ _ => ignores other)
      (fun source _ filters => (undisturbed _).hooked filters source) (before.roll other operation)
  | session s operation => exact (undisturbed none).keeps_session s operation w before
  | outliner outliner operation => exact about before rfl rfl rfl
  | host change => exact about before rfl rfl rfl

end Workspace.Unlisted

open Workspace

/-- Whether all entries for the window of a handle stand under one identity in one roster. -/
def Workspace.StandsOnlyAt (w : Workspace η) (k : Handle) (roster : RosterId) (id : WindowId) :
    Prop :=
  ∀ other, ∀ entry ∈ (w.rosters.get other).entries, entry.2.presenter = k.presenter →
    other = roster ∧ entry.1 = id

theorem Workspace.StandsOnlyAt.unlisted {w : Workspace η} {h k : Handle}
    (stands : w.StandsOnlyAt k (w.scopes.get h.scope).roster h.window) (known : w.Knows k) :
    Unlisted k.presenter (w.presenterOf k) (h.unregister.after w) := by
  refine ⟨known, rfl, fun roster entry mem mine => ?_⟩
  let own := (w.scopes.get h.scope).roster
  have mem : entry ∈
      ((w.rosters.set own ((w.rosters.get own).remove h.window).2).get roster).entries := mem
  by_cases e : roster = own
  · rw [e, Store.get_set_self] at mem
    obtain ⟨there, kept⟩ := List.mem_filter.mp mem
    simp [(stands own entry there mine).2] at kept
  · rw [Store.get_set_of_ne _ _ e] at mem
    exact e (stands roster entry mem mine).1

/-- To take a window out of its roster empties what stands under its identity, whoever that is,
and nothing else.  If it is another window, and that is registered nowhere else, no roster lists
that window any more.  So it stays as it is, attached or not: whatever is done with sessions and
with other windows, until something is done with that window itself. -/
theorem removal_takes_whoever_stands_there (H : Host η) (enters : H.EntersNobody)
    {w : Workspace (Recorded η)} {h : Handle} {removal : WindowOperation}
    (removes : removal = .unregister ∨ removal = .unadorn) :
    let left := ((Operation.window h removal).perform H).after w
    (∀ roster id, (left.rosters.get roster).get? id =
      if roster = (w.scopes.get h.scope).roster ∧ id = h.window then none
      else (w.rosters.get roster).get? id) ∧
    ∀ k : Handle, w.Knows k → k.presenter ≠ h.presenter →
      w.StandsOnlyAt k (w.scopes.get h.scope).roster h.window →
      ∀ w', Reaches H (fun _ operation => ¬ operation.IsOf k.presenter) left w' →
        w'.presenterOf k = w.presenterOf k ∧
          ∀ roster, ∀ k' ∈ (w'.rosters.get roster).handles, k'.presenter ≠ k.presenter := by
  intro left
  have noHook (source : IdleSourceId) : removal ≠ .maintain source := by
    rcases removes with rfl | rfl <;> nofun
  constructor
  · intro roster id
    obtain ⟨-, changed⟩ := removal.rosters_after_perform (H := H.recorded (some h.presenter)) h w
      roster fun source e => absurd e (noHook source)
    have changed : left.rosters.get roster = _ := changed
    have taken : removal.onRoster h (w.rosters.get roster) =
        ((w.rosters.get roster).remove h.window).2 := by rcases removes with rfl | rfl <;> rfl
    rw [changed, taken]
    by_cases own : roster = (w.scopes.get h.scope).roster
    · by_cases e : id = h.window
      · rw [if_pos own, if_pos ⟨own, e⟩, e]
        exact Roster.get?_remove_self _ _
      · rw [if_pos own, if_neg fun both => e both.2]
        exact Roster.get?_remove_of_ne e _
    · rw [if_neg own, if_neg fun both => own both.1]
  · intro k known ne stands w' reached
    have rolled : Unlisted k.presenter (w.presenterOf k) ((removal.roll h).after w) := by
      rcases removes with rfl | rfl <;> exact stands.unlisted known
    have start : Unlisted k.presenter (w.presenterOf k) left :=
      Unlisted.about.stable.after_perform removal (fun _ _ => Unlisted.ignores ne.symm)
        (fun source e => absurd e (noHook source)) rolled
    have unlisted : Unlisted k.presenter (w.presenterOf k) w' :=
      reached.invariant start fun w operation before other => before.perform enters other
    refine ⟨unlisted.same, fun roster k' mem => ?_⟩
    obtain ⟨entry, listed, rfl⟩ := List.mem_map.mp mem
    exact unlisted.unlisted roster entry listed

/-! ## Two windows under one identity -/

namespace Slotted

/-- A window was opened again under its identity, and both windows have a bar. -/
def reopened : Workspace (Recorded Slotted) :=
  [handle 1 0, handle 1 1].foldl
    (fun w h => ((Operation.window h .adorn).perform obliging).after w)
    (opened (obliging.recorded none) ⟨{}, []⟩ [parts 1 0 0, parts 1 1 1])

end Slotted

open Slotted in
theorem removal_takes_the_window_opened_again :
    let first := handle 1 0
    let second := handle 1 1
    let left := ((Operation.window first .unadorn).perform obliging).after reopened
    let off := ((Operation.session session (.setEnabled false)).perform obliging).after left
    (left.rosterOf ⟨0⟩).get? ⟨1⟩ = none ∧ (off.presenterOf second).isAttached = true := by
  intro first second left off
  have stands : reopened.StandsOnlyAt second ⟨0⟩ ⟨1⟩ := by
    have listed : (reopened.rosters.get ⟨0⟩).entries = [(⟨1⟩, second)] := rfl
    rintro ⟨_ | i⟩ entry mem mine
    · rw [listed, List.mem_singleton] at mem
      exact ⟨rfl, congrArg Prod.fst mem⟩
    · cases (show entry ∈ [] from mem)
  obtain ⟨taken, others⟩ := removal_takes_whoever_stands_there obliging
    (fun _ _ _ _ => List.Subset.refl _) (w := reopened) (h := first) (.inr rfl)
  have reached : Reaches obliging (fun _ operation => ¬ operation.IsOf second.presenter) left off :=
    .step .start _ nofun
  obtain ⟨same, -⟩ := others second (by decide) (by decide) stands off reached
  exact ⟨taken ⟨0⟩ ⟨1⟩, same ▸ by decide +kernel⟩

open Slotted in
/-- A window that was registered is not registered any more because another one was taken out, and
keeps its bar when all bars are turned off. -/
theorem removal_takes_another :
    let first := handle 1 0
    let second := handle 1 1
    let left := (first.unadorn (obliging.recorded none)).after reopened
    let off := (session.setEnabled (obliging.recorded none) false).after left
    (reopened.rosterOf ⟨0⟩).get? ⟨1⟩ = some second ∧ (left.rosterOf ⟨0⟩).get? ⟨1⟩ = none ∧
      ((first.unregister.after reopened).rosterOf ⟨0⟩).get? ⟨1⟩ = none ∧
      (off.presenterOf second).isAttached = true := by
  decide +kernel

end OutlineBar
