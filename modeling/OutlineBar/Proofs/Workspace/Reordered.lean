/-
Visits of windows in another order.

Two workspaces are `Reordered` if they are the same but for the order in which their rosters list
windows, and for the events and the record of calls.  If visits of windows are `Orderless`, the
same visits in another order are `Alike`: they leave such workspaces, and every window makes
the same calls and is noted in the same events.  Tending to windows that share no more than an
outliner is orderless.
-/
import OutlineBar.Proofs.Workspace.Beside

namespace OutlineBar

open OutlineBar.Action

variable {η ξ α : Type} {H : Host η} {mine : Handle → HostCall → Prop}

namespace Visited

theorem nil (w : Workspace (Recorded η)) : Visited (α := α) mine [] [] w w :=
  ⟨rfl, nofun, (List.append_nil _).symm, (List.append_nil _).symm, rfl⟩

theorem cons {h : Handle} {v : Visit α} {handles : List Handle} {visits : List (Visit α)}
    {w w₁ w' : Workspace (Recorded η)} (first : Visited mine [h] [v] w w₁)
    (others : Visited mine handles visits w₁ w') :
    Visited mine (h :: handles) (v :: visits) w w' where
  windows := by
    have window := first.windows
    rw [List.map_cons, others.windows]
    exact congrArg (· ++ handles) window
  own := by
    intro u mem
    rcases List.mem_cons.mp mem with rfl | mem
    · exact first.own u List.mem_cons_self
    · exact others.own u mem
  calls := by
    rw [others.calls, first.calls, List.append_assoc, ← List.flatMap_append]
    rfl
  events := by
    rw [others.events, first.events, List.append_assoc, ← List.flatMap_append]
    rfl
  rosters := others.rosters.trans first.rosters

theorem imp {handles : List Handle} {visits : List (Visit α)} {w w' : Workspace (Recorded η)}
    {mine' : Handle → HostCall → Prop} (visited : Visited mine handles visits w w')
    (weaker : ∀ h ∈ handles, ∀ call, mine h call → mine' h call) :
    Visited mine' handles visits w w' where
  windows := visited.windows
  own := by
    intro v mem x called
    have listed : v.window ∈ handles := visited.windows ▸ List.mem_map_of_mem mem
    exact weaker _ listed _ (visited.own v mem x called)
  calls := visited.calls
  events := visited.events
  rosters := visited.rosters

end Visited

/-! ## Two orders -/

namespace Workspace

/-- Whether two workspaces are the same but for the order in which rosters list windows, for the
events and for the record of calls. -/
structure Reordered (w w' : Workspace (Recorded η)) : Prop where
  core : w'.core = w.core
  size : w'.rosters.size = w.rosters.size
  entries : ∀ roster, (w.rosters.get roster).entries.Perm (w'.rosters.get roster).entries

namespace Reordered

variable {w w' : Workspace (Recorded η)} (same : w.Reordered w')
include same

theorem presenters : w'.presenters = w.presenters := congrArg Core.presenters same.core

theorem scopes : w'.scopes = w.scopes := congrArg Core.scopes same.core

theorem host : w'.host.host = w.host.host := congrArg Core.host same.core

theorem presenterOf (h : Handle) : w'.presenterOf h = w.presenterOf h :=
  congrArg (fun c : Core η => c.presenters.get h.presenter) same.core

theorem listed (s : Session) : (w.listed s).Perm (w'.listed s) := by
  unfold Workspace.listed rosterOf Roster.handles
  rw [same.scopes]
  exact (same.entries _).map Prod.snd

end Reordered

end Workspace

/-- Whether two lists were extended by the same notes of every window, each in the order of its
windows, and by the same notes after them. -/
def Attributed (own : Handle → ξ → Prop) (handles handles' : List Handle)
    (before before' after after' : List ξ) : Prop :=
  ∃ (notes : Handle → List ξ) (last : List ξ), (∀ h ∈ handles, ∀ x ∈ notes h, own h x) ∧
    after = before ++ handles.flatMap notes ++ last ∧
    after' = before' ++ handles'.flatMap notes ++ last

/-- What the visits of different windows added to two lists, in two orders. -/
theorem attributed_of_visits {own : Handle → ξ → Prop} {handles handles' : List Handle}
    {visits visits' : List (Visit α)} {before before' after after' : List ξ}
    (notes : Visit α → List ξ) (windows : visits.map Visit.window = handles)
    (windows' : visits'.map Visit.window = handles') (perm : visits.Perm visits')
    (once : handles.Nodup) (mine : ∀ v ∈ visits, ∀ x ∈ notes v, own v.window x)
    (grown : after = before ++ visits.flatMap notes)
    (grown' : after' = before' ++ visits'.flatMap notes) :
    Attributed own handles handles' before before' after after' := by
  subst windows windows'
  -- What a visit noted is a function of its window.
  obtain ⟨noted, same⟩ : ∃ noted : Handle → List ξ, ∀ v ∈ visits, noted v.window = notes v :=
    exists_of_item once
  have renamed {some : List (Visit α)} (among : ∀ v ∈ some, v ∈ visits) :
      some.flatMap notes = (some.map Visit.window).flatMap noted := by
    rw [List.flatMap_map]
    exact List.flatMap_congr fun v mem => (same v (among v mem)).symm
  refine ⟨noted, [], ?_, ?_, ?_⟩
  · intro h listed x called
    obtain ⟨v, mem, rfl⟩ := List.mem_map.mp listed
    rw [same v mem] at called
    exact mine v mem x called
  · rw [grown, renamed fun _ mem => mem, List.append_nil]
  · rw [grown', renamed fun _ mem => perm.mem_iff.mpr mem, List.append_nil]

theorem Attributed.concat {own : Handle → ξ → Prop} {handles handles' : List Handle}
    {before before' after after' : List ξ}
    (h : Attributed own handles handles' before before' after after') (x : ξ) :
    Attributed own handles handles' before before' (after ++ [x]) (after' ++ [x]) := by
  obtain ⟨notes, last, mine, rfl, rfl⟩ := h
  exact ⟨notes, last ++ [x], mine, List.append_assoc _ _ _, List.append_assoc _ _ _⟩

/-- Whether what led from `w` to `w₁` and from `w'` to `w₁'` was the same for every window, though
in another order. -/
structure Alike (mine : Handle → HostCall → Prop) (handles handles' : List Handle)
    (w w' w₁ w₁' : Workspace (Recorded η)) : Prop extends w₁.Reordered w₁' where
  calls : Attributed (fun h x => mine h x.1) handles handles' (exchangesIn w.host.log)
    (exchangesIn w'.host.log) (exchangesIn w₁.host.log) (exchangesIn w₁'.host.log)
  events : Attributed (fun _ _ => True) handles handles' w.trace w'.trace w₁.trace w₁'.trace

theorem Alike.note {handles handles' : List Handle} {w w' w₁ w₁' : Workspace (Recorded η)}
    (alike : Alike mine handles handles' w w' w₁ w₁') (event : Event) :
    Alike mine handles handles' w w' { w₁ with trace := w₁.trace ++ [event] }
      { w₁' with trace := w₁'.trace ++ [event] } where
  core := alike.core
  size := alike.size
  entries := alike.entries
  calls := alike.calls
  events := alike.events.concat event

/-- Orderless visits of different windows are alike in two orders. -/
theorem visits_perm {act : Handle → Action (Workspace (Recorded η)) (Visit α)}
    {good : Workspace (Recorded η) → Prop} {apart : Handle → Handle → Prop}
    {handles handles' : List Handle}
    (orderless : Orderless act Workspace.core good (· ∈ handles) apart)
    (each : ∀ {h w v w'}, h ∈ handles → good w → act h w = .ok v w' → Visited mine [h] [v] w w')
    (perm : handles.Perm handles') (pairwise : handles.Pairwise apart)
    (ne : ∀ {h k}, apart h k → h ≠ k) {w w' : Workspace (Recorded η)} (same : w.Reordered w')
    (start : good w) (start' : good w') :
    ∃ visits visits' w₁ w₁', handles.mapM act w = .ok visits w₁ ∧
      handles'.mapM act w' = .ok visits' w₁' ∧ visits.Perm visits' ∧
      Alike mine handles handles' w w' w₁ w₁' := by
  have once : handles.Nodup := pairwise.imp ne
  have members : ∀ h ∈ handles, h ∈ handles := fun _ mem => mem
  have members' : ∀ h ∈ handles', h ∈ handles := fun _ mem => perm.mem_iff.mpr mem
  obtain ⟨visits, w₁, done⟩ := orderless.mapM_returns members start
  obtain ⟨visits', w₁', done', permuted, core⟩ :=
    orderless.mapM_perm perm members pairwise same.core start done
  have run {items : List Handle} (members : ∀ h ∈ items, h ∈ handles)
      {w w' : Workspace (Recorded η)} {visits : List (Visit α)} (start : good w)
      (done : items.mapM act w = .ok visits w') : Visited mine items visits w w' :=
    orderless.mapM_run Visited.nil
      (fun mem before first others => (each mem before first).cons others) members start done
  have first := run members start done
  have second := run members' start' done'
  refine ⟨visits, visits', w₁, w₁', done, done', permuted, ⟨core, ?_, ?_⟩, ?_, ?_⟩
  · rw [first.rosters, second.rosters]
    exact same.size
  · rw [first.rosters, second.rosters]
    exact same.entries
  · exact attributed_of_visits Visit.calls first.windows second.windows permuted once first.own
      first.calls second.calls
  · exact attributed_of_visits Visit.events first.windows second.windows permuted once
      (fun _ _ _ _ => trivial) first.events second.events

/-! ## Tending to windows -/

namespace Workspace

variable {maker : ClientId → FactoryId} {p q : Presenter} {w w₁ : Workspace (Recorded η)}
  {act : Action (Desk (Recorded η)) α}

/-- A window is still ready after another one was visited. -/
theorem Ready.visited {id other : PresenterId} (ready : w.Ready maker q other)
    (first : w.Ready maker p id) {e : Effect} (own : e.IsOf maker p)
    (core : w₁.core = w.core.visited H p id e) (sound : w₁.Sound) : w₁.Ready maker q other := by
  have presenters : w₁.presenters = w.presenters.set id e.presenter :=
    congrArg Core.presenters core
  by_cases same : other = id
  · subst same
    have fixed : p.fixed = q.fixed := first.fixed.symm.trans ready.fixed
    have now : w₁.presenters.get other = e.presenter := by
      rw [presenters, Store.get_set_self]
    refine ⟨sound, ?_, ?_⟩
    · rw [now]
      exact own.fixed.trans fixed
    · rw [now]
      exact fun client attached => (own.owns client attached).trans (factory_of_fixed fixed)
  · have kept : w₁.presenters.get other = w.presenters.get other := by
      rw [presenters, Store.get_set_of_ne _ _ same]
    refine ⟨sound, ?_, ?_⟩
    · rw [kept]
      exact ready.fixed
    · rw [kept]
      exact ready.owns

/-- The order in which windows are tended to does not matter if they share no more than an
outliner. -/
theorem orderless_tend (steady : H.Steady) (separate : H.Separate maker)
    (common : Desk.Common H maker act) (note : Handle → α → List Event) (handles : List Handle)
    (p : Handle → Presenter) :
    Orderless (Handle.visit (Handle.tend act note)) core
      (fun w => ∀ h ∈ handles, w.Ready maker (p h) h.presenter) (· ∈ handles)
      (fun h k => (p h).Apart H (p k)) where
  returns {h w} mem good := by
    obtain ⟨v, e, w₁, -, own, done, -, core, -, sound, -⟩ :=
      visit_beside steady separate common note (good h mem) (.of_eq rfl)
    exact ⟨v, w₁, done, fun k mem' => (good k mem').visited (good h mem) own core sound⟩
  congr {h w w' v w₁} mem same good done := by
    obtain ⟨v', e, w₂, w₂', -, done₂, done₂', core, core', -⟩ :=
      visit_beside steady separate common note (good h mem) (.of_eq same)
    cases done₂.symm.trans done
    exact ⟨w₂', done₂', by rw [core', core, same]⟩
  swap {h k w v w₁ u w₂} mem mem' apart good done done' := by
    have ne : k.presenter ≠ h.presenter := by
      intro same
      have fixed := (good k mem').fixed
      rw [same, (good h mem).fixed] at fixed
      exact apart.buffer (buffer_of_fixed fixed)
    obtain ⟨v', e, _, -, own, first, -, core, -⟩ :=
      visit_beside steady separate common note (good h mem) (.of_eq rfl)
    cases first.symm.trans done
    -- The second window does not notice that the first one was visited.
    have beside : Core.Beside H maker (p k) k.presenter w.core w₁.core :=
      core ▸ .visited separate apart ne own _
    obtain ⟨u', f, t₁, _, own', early, late, core₁, core₂, -⟩ :=
      visit_beside steady separate common note (good k mem') beside
    cases late.symm.trans done'
    -- Nor does the first one notice it the other way round.
    have beside' : Core.Beside H maker (p h) h.presenter w.core t₁.core :=
      core₁ ▸ .visited separate apart.symm ne.symm own' _
    obtain ⟨v', e', _, t₂, own, first', second, core, core₃, -⟩ :=
      visit_beside steady separate common note (good h mem) beside'
    cases first'.symm.trans done
    refine ⟨t₁, t₂, early, second, ?_⟩
    rw [core₃, core₂, core₁, core]
    exact (Core.visited_comm separate apart ne own own' _).symm
  symm apart := apart.symm

theorem Reordered.ready {w' : Workspace (Recorded η)} {id : PresenterId} (same : w.Reordered w')
    (ready : w.Ready maker p id) : w'.Ready maker p id where
  sound := by
    have outliners : w'.outliners = w.outliners := congrArg Core.outliners same.core
    unfold Workspace.Sound
    rw [outliners]
    exact ready.sound
  fixed := by
    rw [same.presenters]
    exact ready.fixed
  owns := by
    rw [same.presenters]
    exact ready.owns

/-- Tending to windows that share no more than an outliner comes to the same in two orders. -/
theorem tend_perm (steady : H.Steady) (separate : H.Separate maker)
    (common : Desk.Common H maker act) (note : Handle → α → List Event) {p : Handle → Presenter}
    {handles handles' : List Handle} (perm : handles.Perm handles')
    (apart : handles.Pairwise fun h k => (p h).Apart H (p k)) {w w' : Workspace (Recorded η)}
    (same : w.Reordered w') (ready : ∀ h ∈ handles, w.Ready maker (p h) h.presenter) :
    ∃ visits visits' w₁ w₁', handles.mapM (Handle.visit (Handle.tend act note)) w = .ok visits w₁ ∧
      handles'.mapM (Handle.visit (Handle.tend act note)) w' = .ok visits' w₁' ∧
      visits.Perm visits' ∧
      Alike (fun h call => call.IsOwn ((p h).Owns maker) (p h)) handles handles' w w' w₁ w₁' := by
  have orderless := orderless_tend steady separate common note handles p
  refine visits_perm orderless (fun {h w v w₁} mem good done => ?_) perm apart
    (fun apart same => apart.buffer (same ▸ rfl)) same ready fun h mem => same.ready (ready h mem)
  obtain ⟨v', e, w₂, -, -, done', -, -, -, -, visited⟩ :=
    visit_beside steady separate common note (good h mem) (.of_eq rfl)
  cases done'.symm.trans done
  refine visited.imp fun k mem call own => ?_
  rw [List.mem_singleton.mp mem]
  exact own

end Workspace

end OutlineBar
