/-
What windows can still do after the end of their session.

The end of a session empties its roster, and no more: the scope stays as it was, and handles
that were given out before can be used as ever.  `registration_outlives_session` says that the
roster then holds what these handles enter into it and do not take out again, and that a
window whose scope has bars gets one.  So a session can be over while windows are registered
with it, and nothing will detach them any more.
-/
import OutlineBar.Proofs.Session.Opened
import OutlineBar.Proofs.Workspace.Registration

namespace OutlineBar

open OutlineBar.Action

variable {η : Type} {H : Host η} {h : Handle} {s : Session} {w w' : Workspace η}

/-- The workspace after windows did one thing after the other, whether it returned or
panicked. -/
def Workspace.afterTurns (H : Host η) (w : Workspace η) (turns : List (Handle × WindowOperation)) :
    Workspace η :=
  turns.foldl (fun w (h, operation) => (operation.perform H h).after w) w

/-- A roster after windows of its scope did one thing after the other. -/
def Roster.replay (turns : List (Handle × WindowOperation)) (r : Roster) : Roster :=
  turns.foldl (fun r (h, operation) => operation.onRoster h r) r

open Workspace

/-- The roster of a scope follows what windows of the scope do, and the scope stays as it
was. -/
theorem Workspace.rosterOf_afterTurns {scope : ScopeId} {turns : List (Handle × WindowOperation)}
    (own : ∀ turn ∈ turns, turn.1.scope = scope)
    (hooks : ∀ turn ∈ turns, ∀ source, turn.2 = .maintain source →
      H.Spares (w.scopes.get scope).roster) :
    (w.afterTurns H turns).scopes = w.scopes ∧
      (w.afterTurns H turns).rosterOf scope = (w.rosterOf scope).replay turns := by
  induction turns generalizing w with
  | nil => exact ⟨rfl, rfl⟩
  | cons turn rest ih =>
    obtain ⟨h, operation⟩ := turn
    obtain rfl : h.scope = scope := own _ List.mem_cons_self
    obtain ⟨scopes, roster⟩ :=
      operation.rosters_after_perform h w _ (hooks _ List.mem_cons_self)
    rw [if_pos rfl] at roster
    obtain ⟨scopes', roster'⟩ := ih (w := (operation.perform H h).after w)
      (fun turn mem => own turn (List.mem_cons_of_mem _ mem)) (by
        rw [scopes]
        exact fun turn mem => hooks turn (List.mem_cons_of_mem _ mem))
    refine ⟨scopes'.trans scopes, roster'.trans ?_⟩
    unfold rosterOf
    rw [scopes, roster]
    rfl

/-- The end of a session empties its roster, and leaves its scope as it was. -/
theorem Session.rosterOf_after_end {ending : SessionOperation}
    (ends : ending = .shutdown ∨ ending = .drop) :
    ((ending.perform H s).after w).scopes = w.scopes ∧
      ((ending.perform H s).after w).rosterOf s.scope = {} := by
  let P (w' : Workspace η) : Prop := w'.scopes = w.scopes ∧ w'.rosterOf s.scope = {}
  have about : AboutRolls P := fun _ _ kept _ rosters scopes => by
    refine ⟨scopes.trans kept.1, ?_⟩
    unfold rosterOf
    rw [scopes, rosters]
    exact kept.2
  have closed {w' : Workspace η} (scopes : w'.scopes = w.scopes) :
      P ((s.closeWindows H).after w') :=
    about.stable.after_closeWindows (fun _ _ _ _ kept => kept)
      ⟨scopes, Store.get_set_self _ _ _⟩
  have given : s.idle.GivesUpBy fun _ => True := fun _ _ => trivial
  rcases ends with rfl | rfl
  · refine Keeps.after_bind (P := P) ?_ fun _ _ _ kept => kept
    exact about.stable.after_shutdown given (closed rfl) fun _ kept => closed kept.1
  · exact about.stable.after_drop given (closed rfl)

namespace Handle

/-- A window is entered into the roster of its scope before it can get a bar. -/
theorem get?_after_adorn (h : Handle) (w : Workspace η) :
    (((h.adorn H).after w).rosterOf h.scope).get? h.window = some h := by
  have entered : (h.register.after w).rosterOf h.scope = ((w.rosterOf h.scope).put h.window h).2 :=
    Store.get_set_self _ _ _
  let P (w' : Workspace η) : Prop := (w'.rosterOf h.scope).get? h.window = some h
  have about : AboutRolls P := fun w w' kept _ rosters scopes => by
    have same : w'.rosterOf h.scope = w.rosterOf h.scope := by
      unfold rosterOf
      rw [rosters, scopes]
    show (w'.rosterOf h.scope).get? h.window = some h
    rw [same]
    exact kept
  refine about.stable.after_adorn (fun _ _ _ _ kept => kept) ?_
  show ((h.register.after w).rosterOf h.scope).get? h.window = some h
  rw [entered]
  exact Roster.get?_put_self _ _ _

theorem isAttached_of_attach {status : HostStatus} (attached : h.attach H w = .ok status w') :
    (w'.presenterOf h).isAttached = status.isOk := by
  have attached : onDesk h.presenter (Desk.attach H) w = .ok status w' := attached
  obtain ⟨d, done, rfl⟩ := zoom_eq_ok attached
  have settled := Desk.settles_attach H (w.desk h.presenter)
  rw [done] at settled
  have own : (w.putDesk h.presenter d).presenterOf h = d.presenter := Store.get_set_self _ _ _
  rw [own]
  cases status with
  | ok _ => exact settled
  | error failure => exact congrArg Option.isSome settled

/-- A window whose scope has bars is attached when it is told that all went well, and not when it
is told of a failure.  Without bars it stays as it was. -/
theorem isAttached_of_adorn {status : HostStatus} (adorned : h.adorn H w = .ok status w') :
    (w'.presenterOf h).isAttached =
      if (w.scopes.get h.scope).enabled then status.isOk else (w.presenterOf h).isAttached := by
  let w₁ : Workspace η := h.register.after w
  obtain ⟨_, w₂, noted, adorned⟩ := bind_eq_ok (s := w₁) adorned
  obtain ⟨d, recorded, rfl⟩ := zoom_eq_ok noted
  have views : Desk.Quiet (w₁.desk h.presenter)
      ((Desk.recordViews H).after (w₁.desk h.presenter)) :=
    Desk.quiet_leaves H (rfl : DeskOperation.recordViews.isQuiet = true) _
  rw [after_of_ok recorded] at views
  have client : ((w₁.putDesk h.presenter d).presenterOf h).isAttached =
      (w.presenterOf h).isAttached := by
    have own : (w₁.putDesk h.presenter d).presenterOf h = d.presenter := Store.get_set_self _ _ _
    rw [own]
    exact congrArg Option.isSome views.client
  have last : (if (w.scopes.get h.scope).enabled then h.attach H else do
      emit (.barsDisabled h.window)
      return .ok ()) (w₁.putDesk h.presenter d) = .ok status w' := adorned
  by_cases on : (w.scopes.get h.scope).enabled = true
  · rw [if_pos on] at last ⊢
    exact isAttached_of_attach last
  · rw [if_neg on] at last ⊢
    rw [← client]
    cases last
    rfl

end Handle

/-- After a session was shut down or dropped, whether or not a window panicked at that, nothing is
registered with it, and whether its windows get bars is as before.  From then on its roster holds
what handles of its scope enter into it, the last one under each identity, and do not take out
again.  To adorn such a window enters it into the roster, and when the scope has bars the window is
attached exactly when the answer is that all went well. -/
theorem registration_outlives_session (H : Host η) {s : Session} {w : Workspace η}
    {ending : SessionOperation} (ends : ending = .shutdown ∨ ending = .drop)
    {turns : List (Handle × WindowOperation)} (own : ∀ turn ∈ turns, turn.1.scope = s.scope)
    (hooks : ∀ turn ∈ turns, ∀ source, turn.2 = .maintain source →
      H.Spares (w.scopes.get s.scope).roster) :
    let ended := (ending.perform H s).after w
    let later := ended.afterTurns H turns
    ended.rosterOf s.scope = {} ∧
    later.rosterOf s.scope = Roster.replay turns {} ∧
    later.scopes.get s.scope = w.scopes.get s.scope ∧
    ∀ h : Handle, h.scope = s.scope →
      (((h.adorn H).after later).rosterOf s.scope).get? h.window = some h ∧
      ∀ status w', h.adorn H later = .ok status w' →
        (w'.presenterOf h).isAttached =
          if (w.scopes.get s.scope).enabled then status.isOk
          else (later.presenterOf h).isAttached := by
  intro ended later
  obtain ⟨scopes, empty⟩ := Session.rosterOf_after_end (H := H) (s := s) (w := w) ends
  obtain ⟨scopes', roster⟩ := rosterOf_afterTurns (w := ended) own (by rwa [scopes])
  have scope : later.scopes.get s.scope = w.scopes.get s.scope := by rw [scopes', scopes]
  refine ⟨empty, by rw [roster, empty], scope, fun h mine => ⟨?_, fun status w' adorned => ?_⟩⟩
  · rw [← mine]
    exact h.get?_after_adorn later
  · rw [Handle.isAttached_of_adorn adorned, mine, scope]

/-! ## Two windows that outlive their session -/

namespace Slotted

/-- A session that has opened two windows. -/
def two : Workspace Slotted := opened obliging {} [parts 1 0 0, parts 2 1 1]

end Slotted

open Slotted in
theorem registration_outlives_session_of_two :
    let first := handle 1 0
    let turns := [(first, .adorn), (handle 2 1, .adorn), (first, .unadorn)]
    let dropped := (SessionOperation.drop.perform obliging session).after two
    let later := dropped.afterTurns obliging turns
    later.listed session = [handle 2 1] ∧
      ∃ w', first.adorn obliging later = .ok (.ok ()) w' ∧
        (w'.rosterOf ⟨0⟩).get? ⟨1⟩ = some first ∧ (w'.presenterOf first).isAttached = true := by
  intro first turns dropped later
  have own : ∀ turn ∈ turns, turn.1.scope = session.scope := by decide
  obtain ⟨-, roster, -, adorns⟩ :=
    registration_outlives_session obliging (w := two) (.inr rfl) own fun _ _ _ _ _ _ _ => rfl
  obtain ⟨entered, attached⟩ := adorns first rfl
  let answer : Option HostStatus :=
    match first.adorn obliging later with
    | .ok status _ => some status
    | .error _ _ => none
  have answered : answer = some (.ok ()) := by decide +kernel
  refine ⟨congrArg Roster.handles roster, ?_⟩
  unfold answer at answered
  cases adorned : first.adorn obliging later with
  | error p w' =>
    rw [adorned] at answered
    cases answered
  | ok status w' =>
    rw [adorned] at answered
    cases answered
    rw [after_of_ok adorned] at entered
    exact ⟨w', rfl, entered, (attached _ _ adorned).trans rfl⟩

open Slotted in
/-- A window is registered and gets a bar although its session was shut down or dropped. -/
theorem registered_after_session :
    let h := handle 1 0
    let shut := (h.adorn obliging).after ((session.shutdown obliging).after two)
    let dropped := (h.adorn obliging).after ((session.drop obliging).after two)
    (shut.listed session = [h] ∧ (shut.presenterOf h).isAttached = true) ∧
      dropped.listed session = [h] ∧ (dropped.presenterOf h).isAttached = true := by
  decide +kernel

end OutlineBar
