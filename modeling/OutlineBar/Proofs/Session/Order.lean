/-
The order of registered windows does not matter.

A roster may list its windows in any order.  `fan_out_order_irrelevant` says that what a session
does to all of them comes to the same in two orders: turning bars on or off, handing out
completions, an idle tick that nothing ends, and the end of the session.  Windows must not share
more than outliners, and the host must be made of separate objects whose calls return.
-/
import OutlineBar.Proofs.Host.Counting
import OutlineBar.Proofs.Session.TickOrder

namespace OutlineBar

open OutlineBar.Action

variable {η : Type} {H : Host η} {maker : ClientId → FactoryId} {s : Session}

/-- Whether the windows of a session share no more than outliners, which have no grammar that
panics, and whether they have clients of their own factories. -/
structure Workspace.AllApart (H : Host η) (maker : ClientId → FactoryId) (s : Session)
    (w : Workspace (Recorded η)) : Prop where
  sound : w.Sound
  apart : (w.listed s).Pairwise fun h k => (w.presenterOf h).Apart H (w.presenterOf k)
  owns : ∀ h ∈ w.listed s, ∀ client, (w.presenterOf h).client = some client →
    (w.presenterOf h).Owns maker client

/-- Whether a call is one of a window on what is its own. -/
def Workspace.Calls (maker : ClientId → FactoryId) (w : Workspace (Recorded η)) (h : Handle)
    (call : HostCall) : Prop :=
  call.IsOwn ((w.presenterOf h).Owns maker) (w.presenterOf h)

namespace Handle

open Workspace

/-- What is noted about a window that failed. -/
def failureNote (note : Handle → HostFailure → Event) (h : Handle) : HostStatus → List Event
  | .ok () => []
  | .error failure => [note h failure]

theorem attempt_eq_tend (act : Action (Desk (Recorded η)) HostStatus)
    (note : Handle → HostFailure → Event) (h : Handle) :
    h.attempt (onDesk h.presenter act) (note h) = do
      return (h, ← h.tend act (failureNote note)) := by
  funext w
  cases done : act (w.desk h.presenter) with
  | ok status d =>
    rw [bind_of_ok (tend_of_ok done (failureNote note))]
    refine (bind_of_ok (onDesk_of_ok done) _).trans ?_
    cases status with
    | ok _ =>
      rw [failureNote, List.append_nil]
      rfl
    | error failure => rfl
  | error p d =>
    rw [bind_of_error (tend_of_error done (failureNote note))]
    exact bind_of_error (onDesk_of_error done) _

/-- Where nothing is noted, tending to a window is the operation on its desk. -/
theorem onDesk_eq_tend {α : Type} (act : Action (Desk (Recorded η)) α) (h : Handle) :
    onDesk h.presenter act = h.tend act fun _ _ => [] := by
  funext w
  cases done : act (w.desk h.presenter) with
  | ok a d =>
    rw [tend_of_ok done, List.append_nil]
    exact onDesk_of_ok done
  | error p d =>
    rw [tend_of_error done]
    exact onDesk_of_error done

end Handle

namespace Workspace.Reordered

variable {w w' : Workspace (Recorded η)} (same : w.Reordered w')
include same

theorem switched (scope : ScopeId) (enabled : Bool) :
    (w.switched scope enabled).Reordered (w'.switched scope enabled) where
  core := congrArg (fun c : Core η =>
    { c with scopes := c.scopes.modify scope fun scope => { scope with enabled } }) same.core
  size := same.size
  entries := same.entries

theorem emptied (scope : ScopeId) : (w.emptied scope).Reordered (w'.emptied scope) where
  core := same.core
  size := same.size
  entries roster := by
    show ((w.rosters.set (w.scopes.get scope).roster {}).get roster).entries.Perm
      ((w'.rosters.set (w'.scopes.get scope).roster {}).get roster).entries
    rw [same.scopes]
    by_cases own : roster = (w.scopes.get scope).roster
    · rw [own, Store.get_set_self, Store.get_set_self]
    · rw [Store.get_set_of_ne _ _ own, Store.get_set_of_ne _ _ own]
      exact same.entries roster

end Workspace.Reordered

/-- A call that is made after both. -/
theorem Alike.call {mine : Handle → HostCall → Prop} {handles handles' : List Handle}
    {w w' w₁ w₁' : Workspace (Recorded η)} (alike : Alike mine handles handles' w w' w₁ w₁')
    (steady : H.Steady) (call : HostCall) :
    ∃ a host host', (H.recorded none).answer call w₁.host = .ok a host ∧
      (H.recorded none).answer call w₁'.host = .ok a host' ∧
      Alike mine handles handles' w w' { w₁ with host } { w₁' with host := host' } := by
  obtain ⟨a, host, answered⟩ := steady call w₁.host.host
  have answered' : H.answer call w₁'.host.host = .ok a host := by
    rw [alike.toReordered.host]
    exact answered
  have recorded := Host.recorded_of_ok none answered
  have recorded' := Host.recorded_of_ok none answered'
  refine ⟨a, _, _, recorded, recorded', ⟨?_, alike.size, alike.entries⟩, ?_, alike.events⟩
  · exact congrArg (fun c : Core η => { c with host }) alike.core
  · dsimp only
    rw [Host.exchangesIn_recorded recorded, Host.exchangesIn_recorded recorded']
    exact alike.calls.concat _

namespace Session

open Workspace

variable {w w' : Workspace (Recorded η)}

theorem toggle_eq_visit (enabled : Bool) (h : Handle) :
    h.toggle (H.recorded none) enabled = do
      let v ← h.visit (Handle.tend
        (if enabled then Desk.attach (H.recorded none) else Desk.detach (H.recorded none))
        (Handle.failureNote fun h => .toggleFailed h.window enabled))
      return (v.window, v.answer) := by
  have tried : h.toggle (H.recorded none) enabled = h.attempt (onDesk h.presenter
      (if enabled then Desk.attach (H.recorded none) else Desk.detach (H.recorded none)))
      (.toggleFailed h.window enabled) := by
    cases enabled <;> rfl
  rw [tried]
  exact (Handle.attempt_eq_tend _ (fun h => .toggleFailed h.window enabled) h).trans
    (Handle.bind_visit _ Prod.mk h)

theorem leave_eq_visit (h : Handle) :
    h.leave (H.recorded none) = do
      let v ← h.visit (Handle.tend (Desk.detach (H.recorded none))
        (Handle.failureNote fun h => .detachFailedAtEnd h.window))
      return (v.window, v.answer) :=
  (Handle.attempt_eq_tend _ (fun h => .detachFailedAtEnd h.window) h).trans
    (Handle.bind_visit _ Prod.mk h)

theorem drain_eq_visit (h : Handle) :
    h.drain (H.recorded none) = do
      let v ← h.visit (Handle.tend (Desk.drain (H.recorded none)) fun _ _ => [])
      return v.answer :=
  (Handle.onDesk_eq_tend _ h).trans
    ((bind_pure _).symm.trans (Handle.bind_visit _ (fun _ a => a) h))

variable (steady : H.Steady) (separate : H.Separate maker) (apart : w.AllApart H maker s)
  (same : w.Reordered w')
include steady separate apart same

theorem setEnabled_perm (enabled : Bool) :
    ∃ failures failures' w₁ w₁',
      s.setEnabled (H.recorded none) enabled w = .ok (toggleAnswer enabled failures) w₁ ∧
      s.setEnabled (H.recorded none) enabled w' = .ok (toggleAnswer enabled failures') w₁' ∧
      failures.Perm failures' ∧
      Alike (w.Calls maker) (w.listed s) (w'.listed s) w w' w₁ w₁' := by
  have common : Desk.Common H maker
      (if enabled then Desk.attach (H.recorded none) else Desk.detach (H.recorded none)) := by
    cases enabled
    · exact Desk.common_detach H maker
    · exact Desk.common_attach H maker
  have perm := same.listed s
  have ready : ∀ h ∈ w.listed s,
      (w.switched s.scope enabled).Ready maker (w.presenterOf h) h.presenter :=
    fun h mem => ⟨apart.sound, rfl, apart.owns h mem⟩
  obtain ⟨visits, visits', w₁, w₁', done, done', permuted, alike⟩ :=
    tend_perm steady separate common (Handle.failureNote fun h => .toggleFailed h.window enabled)
      perm apart.apart (same.switched s.scope enabled) ready
  have toggled := setEnabled_eq (H.recorded none) s w enabled
  have toggled' := setEnabled_eq (H.recorded none) s w' enabled
  rw [bind_of_ok (mapM_map_of_ok (toggle_eq_visit enabled) done)] at toggled
  rw [bind_of_ok (mapM_map_of_ok (toggle_eq_visit enabled) done')] at toggled'
  have failures : (failuresOf (visits.map fun v => (v.window, v.answer))).Perm
      (failuresOf (visits'.map fun v => (v.window, v.answer))) :=
    (permuted.map _).filterMap _
  have alike := alike.note (.toggled enabled (w.listed s).length
    (failuresOf (visits.map fun v => (v.window, v.answer))).length)
  rw [← perm.length_eq, ← failures.length_eq] at toggled'
  exact ⟨_, _, _, _, toggled, toggled', failures, alike.toReordered, alike.calls, alike.events⟩

theorem dispatch_perm :
    ∃ forwarded w₁ w₁', s.dispatch (H.recorded none) w = .ok forwarded w₁ ∧
      s.dispatch (H.recorded none) w' = .ok forwarded w₁' ∧
      Alike (w.Calls maker) (w.listed s) (w'.listed s) w w' w₁ w₁' := by
  have ready : ∀ h ∈ w.listed s, w.Ready maker (w.presenterOf h) h.presenter :=
    fun h mem => ⟨apart.sound, rfl, apart.owns h mem⟩
  obtain ⟨visits, visits', w₁, w₁', done, done', permuted, alike⟩ :=
    tend_perm steady separate (Desk.common_drain H maker) (fun _ _ => []) (same.listed s)
      apart.apart same ready
  have dispatched := dispatch_eq (H.recorded none) s w
  have dispatched' := dispatch_eq (H.recorded none) s w'
  rw [bind_of_ok (mapM_map_of_ok drain_eq_visit done)] at dispatched
  rw [bind_of_ok (mapM_map_of_ok drain_eq_visit done')] at dispatched'
  have sums : (visits'.map Visit.answer).foldl Nat.add 0 =
      (visits.map Visit.answer).foldl Nat.add 0 :=
    (permuted.map _).symm.foldl_eq' (fun a _ b _ sum => Nat.add_right_comm sum a b) 0
  rw [sums] at dispatched'
  exact ⟨_, _, _, dispatched, dispatched', alike⟩

theorem closeWindows_perm :
    ∃ windows w₁ w₁', s.closeWindows (H.recorded none) w = .ok windows w₁ ∧
      s.closeWindows (H.recorded none) w' = .ok windows w₁' ∧
      Alike (w.Calls maker) (w.listed s) (w'.listed s) w w' w₁ w₁' := by
  have perm := same.listed s
  have ready : ∀ h ∈ w.listed s, (w.emptied s.scope).Ready maker (w.presenterOf h) h.presenter :=
    fun h mem => ⟨apart.sound, rfl, apart.owns h mem⟩
  obtain ⟨visits, visits', w₁, w₁', done, done', permuted, alike⟩ :=
    tend_perm steady separate (Desk.common_detach H maker)
      (Handle.failureNote fun h => .detachFailedAtEnd h.window) perm apart.apart
      (same.emptied s.scope) ready
  have closed := closeWindows_eq (H.recorded none) s w
  have closed' := closeWindows_eq (H.recorded none) s w'
  rw [bind_of_ok (mapM_map_of_ok leave_eq_visit done)] at closed
  rw [bind_of_ok (mapM_map_of_ok leave_eq_visit done'), ← perm.length_eq] at closed'
  exact ⟨_, _, _, closed, closed', alike.toReordered, alike.calls, alike.events⟩

theorem end_perm :
    ∃ windows w₁ w₁', s.shutdown (H.recorded none) w = .ok windows w₁ ∧
      s.shutdown (H.recorded none) w' = .ok windows w₁' ∧
      s.drop (H.recorded none) w = .ok () w₁ ∧ s.drop (H.recorded none) w' = .ok () w₁' ∧
      Alike (w.Calls maker) (w.listed s) (w'.listed s) w w' w₁ w₁' := by
  obtain ⟨windows, w₁, w₁', closed, closed', alike⟩ := closeWindows_perm steady separate apart same
  have given : ∃ idle w₂ w₂', s.idle.uninstall (H.recorded none) w₁ = .ok idle w₂ ∧
      s.idle.uninstall (H.recorded none) w₁' = .ok idle w₂' ∧
      Alike (w.Calls maker) (w.listed s) (w'.listed s) w w' w₂ w₂' := by
    have e := uninstall_eq (H.recorded none) w₁ s.idle
    have e' := uninstall_eq (H.recorded none) w₁' s.idle
    cases installed : s.idle.subscription with
    | none =>
      rw [installed] at e e'
      exact ⟨_, _, _, e, e', alike⟩
    | some subscription =>
      obtain ⟨_, host, host', told, told', alike⟩ :=
        alike.call steady (.unsubscribeIdle s.idle.idleHost subscription)
      have told : (H.recorded none).unsubscribeIdle s.idle.idleHost subscription w₁.host =
        .ok () host := told
      have told' : (H.recorded none).unsubscribeIdle s.idle.idleHost subscription w₁'.host =
        .ok () host' := told'
      rw [installed] at e e'
      dsimp only at e e'
      rw [told] at e
      rw [told'] at e'
      exact ⟨_, _, _, e, e', alike.note _⟩
  obtain ⟨idle, w₂, w₂', gone, gone', alike⟩ := given
  obtain ⟨shut, dropped⟩ := end_of_closed closed gone
  obtain ⟨shut', dropped'⟩ := end_of_closed closed' gone'
  exact ⟨_, _, _, shut, shut', dropped, dropped', alike.note _⟩

end Session

/-- Take a host made of separate objects whose calls return, a session whose windows share no more
than outliners, and a workspace that is the same but for the order in which windows are
registered.  Turning bars on or off, passing completions on and ending the session return in both.
So does an idle tick without a cap whose source always continues, even if hooks fail or panic.
The counts and the report are the same, and so are the failures but for their order.  What is
left is the same but for the order of rosters, the host with what it kept of its hooks included,
and every window made the same calls in the same order. -/
theorem fan_out_order_irrelevant (H : Host η) {s : Session} {w w' : Workspace (Recorded η)}
    (steady : H.Steady) (separate : H.Separate maker) (apart : w.AllApart H maker s)
    (same : w.Reordered w') :
    (∀ enabled, ∃ failures failures' w₁ w₁',
      s.setEnabled (H.recorded none) enabled w = .ok (Session.toggleAnswer enabled failures) w₁ ∧
      s.setEnabled (H.recorded none) enabled w' = .ok (Session.toggleAnswer enabled failures') w₁' ∧
      failures.Perm failures' ∧ Alike (w.Calls maker) (w.listed s) (w'.listed s) w w' w₁ w₁') ∧
    (∃ forwarded w₁ w₁', s.dispatch (H.recorded none) w = .ok forwarded w₁ ∧
      s.dispatch (H.recorded none) w' = .ok forwarded w₁' ∧
      Alike (w.Calls maker) (w.listed s) (w'.listed s) w w' w₁ w₁') ∧
    (∃ windows w₁ w₁', s.shutdown (H.recorded none) w = .ok windows w₁ ∧
      s.shutdown (H.recorded none) w' = .ok windows w₁' ∧
      s.drop (H.recorded none) w = .ok () w₁ ∧ s.drop (H.recorded none) w' = .ok () w₁' ∧
      Alike (w.Calls maker) (w.listed s) (w'.listed s) w w' w₁ w₁') ∧
    ∀ hook source, H.Attends hook source →
      s.idle.round = ⟨(w.scopes.get s.scope).roster, none⟩ →
      ∃ report w₁ w₁', s.onIdle (H.recorded none) source w = .ok report w₁ ∧
        s.onIdle (H.recorded none) source w' = .ok report w₁' ∧
        Alike (fun _ call => call = .mayContinue source) (w.listed s) (w'.listed s)
          w w' w₁ w₁' := by
  refine ⟨Session.setEnabled_perm steady separate apart same,
    Session.dispatch_perm steady separate apart same,
    Session.end_perm steady separate apart same, ?_⟩
  intro hook source attends round
  have filters : (w.listed s).Pairwise fun h k =>
      (w.presenterOf h).filters ≠ (w.presenterOf k).filters := by
    refine apart.apart.imp ?_
    intro h k apart
    exact apart.filters
  have listed' : w'.listed s = (w'.rosters.get (w.scopes.get s.scope).roster).handles := by
    rw [← same.scopes]
    rfl
  unfold Session.onIdle IdleCoordinator.onIdle
  rw [round, listed']
  exact IdleRound.run_perm attends rfl same filters

/-- Two windows share an outliner.  Their bars cannot be removed, the idle hook of the first fails,
and that of the second panics. -/
theorem fan_out_order_irrelevant_of_two :
    let H := Host.counting (fun _ _ => false) fun filters _ =>
      if filters = ⟨1⟩ then .ok (.error (.general .idle)) else .error .payload
    let s : Session := ⟨⟨0⟩, ⟨⟨⟨0⟩, none⟩, ⟨0⟩, none⟩⟩
    let scene (entries : List (WindowId × Handle)) : Workspace (Recorded Counts) := {
      host := ⟨fun _ => 0, []⟩
      rosters := ⟨1, fun _ => ⟨entries⟩⟩
      presenters := ⟨3, fun i =>
        ⟨⟨i⟩, ⟨i⟩, ⟨i⟩, ⟨i⟩, ⟨i⟩, ⟨i⟩, ⟨0⟩, ⟨i⟩, some (.made ⟨i⟩ 0), some 1, [], 0⟩⟩ }
    let one : WindowId × Handle := (⟨1⟩, ⟨⟨1⟩, ⟨0⟩, ⟨1⟩⟩)
    let two : WindowId × Handle := (⟨2⟩, ⟨⟨2⟩, ⟨0⟩, ⟨2⟩⟩)
    ∃ w₁ w₁' w₂ w₂',
      s.setEnabled (H.recorded none) false (scene [one, two]) =
        .ok (.error ⟨false, [(⟨1⟩, .general .removeBar), (⟨2⟩, .general .removeBar)]⟩) w₁ ∧
      s.setEnabled (H.recorded none) false (scene [two, one]) =
        .ok (.error ⟨false, [(⟨2⟩, .general .removeBar), (⟨1⟩, .general .removeBar)]⟩) w₁' ∧
      w₁'.core = w₁.core ∧
      s.onIdle (H.recorded none) ⟨0⟩ (scene [one, two]) = .ok ⟨2, 2, false⟩ w₂ ∧
      s.onIdle (H.recorded none) ⟨0⟩ (scene [two, one]) = .ok ⟨2, 2, false⟩ w₂' ∧
      w₂'.core = w₂.core := by
  intro H s scene one two
  have apart : (scene [one, two]).AllApart H Counts.maker s := by
    refine ⟨fun _ => trivial, List.pairwise_pair.mpr ?_, ?_⟩
    · exact ⟨by decide, by decide, by decide, by decide, fun _ => by decide,
        fun _ => Host.counting_parse _⟩
    · intro h _ client attached
      cases attached
      rfl
  have same : (scene [one, two]).Reordered (scene [two, one]) :=
    ⟨rfl, rfl, fun _ => .swap two one []⟩
  obtain ⟨toggles, -, -, ticks⟩ :=
    fan_out_order_irrelevant H Host.counting_steady Host.counting_separate apart same
  obtain ⟨failures, failures', w₁, w₁', toggled, toggled', -, toggledAlike⟩ := toggles false
  obtain ⟨report, w₂, w₂', ticked, ticked', tickedAlike⟩ :=
    ticks _ ⟨0⟩ (Host.counting_attends _) rfl
  let answer {α : Type} (act : Action (Workspace (Recorded Counts)) α)
      (w : Workspace (Recorded Counts)) : Option α :=
    match act w with
    | .ok a _ => some a
    | .error _ _ => none
  have answers {α : Type} {act : Action (Workspace (Recorded Counts)) α} {a b : α}
      {w w' : Workspace (Recorded Counts)} (done : act w = .ok a w') (is : answer act w = some b) :
      act w = .ok b w' := by
    unfold answer at is
    rw [done] at is
    rw [done, Option.some.inj is]
  exact ⟨w₁, w₁', w₂, w₂', answers toggled (by decide +kernel),
    answers toggled' (by decide +kernel), toggledAlike.core, answers ticked (by decide +kernel),
    answers ticked' (by decide +kernel), tickedAlike.core⟩

end OutlineBar
