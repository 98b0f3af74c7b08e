/-
Idle ticks in another order.

Take a tick without a cap whose source always continues.  It runs the idle hook of every
registered window, whatever becomes of them, so it is one action per handle again.  If hooks of
different filters are apart, as `Host.Attends` says, these actions are orderless: hooks may fail
and panic, and in every order each of them comes to the same.
-/
import OutlineBar.Proofs.Workspace.Reordered

namespace OutlineBar

open OutlineBar.Action

variable {η : Type} {H : Host η} {hook : FiltersId → Action η HostStatus} {source : IdleSourceId}

/-! ## Hooks -/

/-- Whether a source always continues, and the hooks that run with it work on the host only and
do not notice each other. -/
structure Host.Attends (H : Host η) (hook : FiltersId → Action η HostStatus)
    (source : IdleSourceId) : Prop where
  onIdle : ∀ filters, H.onIdle filters source = Backstage.onHost (hook filters)
  continues : ∀ s, ∃ s', H.mayContinue source s = .ok true s'
  apart : ∀ {filters other}, filters ≠ other → Apart (hook filters) (hook other)
  source : ∀ filters, Apart (H.mayContinue source) (hook filters)

/-- What a tick does to the host when it visits a window. -/
def Host.tends (H : Host η) (hook : FiltersId → Action η HostStatus) (source : IdleSourceId)
    (filters : FiltersId) : Action η (Except Panic HostStatus) := do
  let _ ← H.mayContinue source
  Action.attempt (hook filters)

theorem Host.tends_of_ok {host host₁ : η} (asked : H.mayContinue source host = .ok true host₁)
    (filters : FiltersId) :
    H.tends hook source filters host = Action.attempt (hook filters) host₁ := bind_of_ok asked _

namespace Host.Attends

variable (attends : H.Attends hook source)
include attends

theorem returns (filters : FiltersId) (host : η) :
    ∃ result host', H.tends hook source filters host = .ok result host' := by
  obtain ⟨host₁, asked⟩ := attends.continues host
  rw [Host.tends_of_ok asked, attempt_apply]
  cases hook filters host₁ <;> exact ⟨_, _, rfl⟩

theorem after_tends (filters : FiltersId) (host : η) :
    (H.tends hook source filters).after host =
      (hook filters).after ((H.mayContinue source).after host) := by
  obtain ⟨host₁, asked⟩ := attends.continues host
  rw [after_of_ok asked]
  unfold after
  rw [Host.tends_of_ok asked, attempt_apply]
  cases hook filters host₁ <;> rfl

/-- A source that always continues does not notice how often it was asked. -/
theorem through_source : Through (H.mayContinue source).after (H.mayContinue source) := by
  intro host
  obtain ⟨host₁, asked⟩ := attends.continues host
  obtain ⟨host₂, again⟩ := attends.continues host₁
  rw [asked, after_of_ok asked, again]
  dsimp only
  rw [after_of_ok again]

theorem through_tends {filters other : FiltersId} (ne : filters ≠ other) :
    Through (H.tends hook source other).after (H.tends hook source filters) := by
  have moved : (H.tends hook source other).after =
      fun host => (hook other).after ((H.mayContinue source).after host) :=
    funext (attends.after_tends other)
  rw [moved]
  refine Through.bind ?_ fun _ => Through.attempt ?_
  · exact attends.through_source.comp (attends.source other).left
  · exact (attends.source filters).right.comp (attends.apart ne).left

theorem apart_tends {filters other : FiltersId} (ne : filters ≠ other) :
    Apart (H.tends hook source filters) (H.tends hook source other) :=
  ⟨attends.through_tends ne, attends.through_tends ne.symm⟩

theorem recorded_continues (host : Recorded η) :
    ∃ host', (H.recorded none).mayContinue source host = .ok true host' := by
  obtain ⟨host', asked⟩ := attends.continues host.host
  exact ⟨_, Host.recorded_of_ok none asked⟩

end Host.Attends

/-! ## One window -/

namespace Handle

open Workspace

/-- Whether an idle hook counts as faulted. -/
def faulted : Except Panic HostStatus → Bool
  | .ok (.ok ()) => false
  | _ => true

/-- What is noted about an idle hook. -/
def faults (h : Handle) : Except Panic HostStatus → List Event
  | .ok (.ok ()) => []
  | .ok (.error failure) => [.idleFault h.window failure]
  | .error p => [.idlePanic h.window p]

/-- What a tick that goes on does about a window. -/
def idle (H : Host η) (source : IdleSourceId) (h : Handle) : Action (Workspace η) Bool := do
  let _ ← onHost (H.mayContinue source)
  h.maintainGuarded H source

theorem maintain_apply (attends : H.Attends hook source) (h : Handle)
    (w : Workspace (Recorded η)) :
    h.maintain (H.recorded none) source w =
      match hook (w.presenterOf h).filters w.host.host with
      | .ok status host => .ok status { w with host := { w.host with host } }
      | .error p host => .error p { w with host := { w.host with host } } := by
  show onBackstage ((H.recorded none).onIdle (w.presenterOf h).filters source) w = _
  unfold onBackstage Host.recorded
  dsimp only
  rw [zoom_apply, zoom_apply, attends.onIdle]
  unfold Backstage.onHost
  rw [zoom_apply]
  dsimp only
  cases hook (w.presenterOf h).filters w.host.host <;> rfl

/-- A tick goes on after a window, whatever became of its hook. -/
theorem idle_of_tends (attends : H.Attends hook source) (h : Handle) {w : Workspace (Recorded η)}
    {result : Except Panic HostStatus} {host' : η}
    (tended : H.tends hook source (w.presenterOf h).filters w.host.host = .ok result host') :
    ∃ log, h.idle (H.recorded none) source w = .ok (faulted result)
        { w with host := ⟨host', log⟩, trace := w.trace ++ h.faults result } ∧
      exchangesIn log = exchangesIn w.host.log ++ [⟨.mayContinue source, .ok true⟩] := by
  obtain ⟨host₁, asked⟩ := attends.continues w.host.host
  have recorded := Host.recorded_of_ok none asked
  have first : onHost ((H.recorded none).mayContinue source) w = .ok true { w with host := _ } :=
    zoom_of_ok (fun w : Workspace (Recorded η) => w.host) _ recorded
  rw [Host.tends_of_ok asked, attempt_apply] at tended
  refine ⟨_, (bind_of_ok first _).trans ?_, Host.exchangesIn_recorded recorded⟩
  unfold maintainGuarded
  rw [bind_apply, attempt_apply, maintain_apply attends]
  dsimp only [Workspace.presenterOf] at tended ⊢
  cases ran : hook (w.presenters.get h.presenter).filters host₁ with
  | ok status host₂ =>
    rw [ran] at tended
    cases tended
    cases status with
    | ok _ =>
      dsimp only
      rw [faults, List.append_nil]
      rfl
    | error failure => rfl
  | error p host₂ =>
    rw [ran] at tended
    cases tended
    rfl

theorem visit_idle (attends : H.Attends hook source) {h : Handle} {w : Workspace (Recorded η)}
    {filters : FiltersId} (own : (w.presenterOf h).filters = filters) {host host' : η}
    {result : Except Panic HostStatus} (current : w.host.host = host)
    (tended : H.tends hook source filters host = .ok result host') :
    ∃ w', h.visit (Handle.idle (H.recorded none) source) w =
        .ok ⟨h, faulted result, [⟨.mayContinue source, .ok true⟩], h.faults result⟩ w' ∧
      w'.core = { w.core with host := host' } ∧
      Visited (fun _ call => call = .mayContinue source) [h]
        [⟨h, faulted result, [⟨.mayContinue source, .ok true⟩], h.faults result⟩] w w' := by
  subst own current
  obtain ⟨log, done, logged⟩ := idle_of_tends attends h tended
  refine ⟨_, visit_of_ok done logged rfl, rfl, rfl, ?_, logged, ?_, rfl⟩
  · intro v mem x called
    rw [List.mem_singleton.mp mem, List.mem_singleton] at called
    rw [called]
  · rw [List.flatMap_singleton]

end Handle

/-! ## All windows -/

theorem presenterOf_of_core {w w' : Workspace (Recorded η)} {host : η}
    (core : w'.core = { w.core with host }) (h : Handle) : w'.presenterOf h = w.presenterOf h :=
  congrArg (fun c : Core η => c.presenters.get h.presenter) core

/-- The order in which idle hooks of different filters run does not matter. -/
theorem orderless_idle (attends : H.Attends hook source) (handles : List Handle)
    (filters : Handle → FiltersId) :
    Orderless (Handle.visit (Handle.idle (H.recorded none) source)) Workspace.core
      (fun w => ∀ h ∈ handles, (w.presenterOf h).filters = filters h) (· ∈ handles)
      (fun h k => filters h ≠ filters k) where
  returns {h w} mem good := by
    obtain ⟨result, host', tended⟩ := attends.returns (filters h) w.host.host
    obtain ⟨w', done, core, -⟩ := Handle.visit_idle attends (good h mem) rfl tended
    refine ⟨_, w', done, fun k mem' => ?_⟩
    rw [presenterOf_of_core core]
    exact good k mem'
  congr {h w w' v w₁} mem same good done := by
    obtain ⟨result, host', tended⟩ := attends.returns (filters h) w.host.host
    obtain ⟨w₂, done₂, core, -⟩ := Handle.visit_idle attends (good h mem) rfl tended
    cases done₂.symm.trans done
    have own : (w'.presenterOf h).filters = filters h := by
      have core : w'.core = { w.core with host := w.host.host } := same
      rw [presenterOf_of_core core]
      exact good h mem
    have current : w'.host.host = w.host.host := congrArg Core.host same
    obtain ⟨w₂', done₂', core', -⟩ := Handle.visit_idle attends own current tended
    exact ⟨w₂', done₂', by rw [core', core, same]⟩
  swap {h k w v w₁ u w₂} mem mem' apart good done done' := by
    obtain ⟨result, host₁, tended⟩ := attends.returns (filters h) w.host.host
    obtain ⟨w₁', first, core₁, -⟩ := Handle.visit_idle attends (good h mem) rfl tended
    cases first.symm.trans done
    obtain ⟨result', host₂, tended'⟩ := attends.returns (filters k) host₁
    have own : (w₁.presenterOf k).filters = filters k := by
      rw [presenterOf_of_core core₁]
      exact good k mem'
    have current : w₁.host.host = host₁ := congrArg Core.host core₁
    obtain ⟨w₂', second, core₂, -⟩ := Handle.visit_idle attends own current tended'
    cases second.symm.trans done'
    -- The same two steps of the host the other way round.
    obtain ⟨host, early, late⟩ := (attends.apart_tends apart).swap tended tended'
    obtain ⟨t₁, third, core₃, -⟩ := Handle.visit_idle attends (good k mem') rfl early
    have own' : (t₁.presenterOf h).filters = filters h := by
      rw [presenterOf_of_core core₃]
      exact good h mem
    have current' : t₁.host.host = host := congrArg Core.host core₃
    obtain ⟨t₂, fourth, core₄, -⟩ := Handle.visit_idle attends own' current' late
    exact ⟨t₁, t₂, third, fourth, by rw [core₄, core₃, core₂, core₁]⟩
  symm apart := apart.symm

/-! ## A tick -/

namespace IdleRound

open Workspace

variable {round : IdleRound}

theorem visit_eq (attends : H.Attends hook source) (uncapped : round.cap = none)
    (report : IdleReport) (h : Handle) :
    round.visit (H.recorded none) source report h = do
      return .yield (report.afterVisit (← h.idle (H.recorded none) source)) := by
  funext w
  obtain ⟨host, asked⟩ := attends.recorded_continues w.host
  have first : onHost ((H.recorded none).mayContinue source) w = .ok true { w with host } :=
    zoom_of_ok (fun w : Workspace (Recorded η) => w.host) _ asked
  have roomy : round.isFull report.visited = false := by
    unfold isFull
    rw [uncapped]
  unfold visit Handle.idle
  rw [bind_of_ok first, bind_assoc, bind_of_ok first, roomy]
  rfl

/-- A tick that nothing ends runs the hooks of all windows. -/
theorem run_eq (attends : H.Attends hook source) (uncapped : round.cap = none)
    (w : Workspace (Recorded η)) :
    round.run (H.recorded none) source w =
      (do
        let faults ← (w.rosters.get round.roster).handles.mapM
          (Handle.idle (H.recorded none) source)
        let report := faults.foldl IdleReport.afterVisit {}
        emit (.idleTick report)
        return report) w := by
  have walked : round.run (H.recorded none) source w =
      (do
        let reached ← Handle.visitEach (round.visit (H.recorded none) source) {}
          (w.rosters.get round.roster).handles
        emit (.idleTick reached.2)
        return reached.2) w := rfl
  rw [walked, visitEach_eq_mapM (visit_eq attends uncapped)]
  simp only [bind_assoc, pure_bind]

theorem afterVisit_comm (report : IdleReport) (a b : Bool) :
    (report.afterVisit a).afterVisit b = (report.afterVisit b).afterVisit a := by
  unfold IdleReport.afterVisit
  simp only [IdleReport.mk.injEq, and_true, true_and]
  omega

/-- A tick without a cap, whose source always continues, comes to the same in two orders. -/
theorem run_perm (attends : H.Attends hook source) (uncapped : round.cap = none)
    {w w' : Workspace (Recorded η)} (same : w.Reordered w')
    (apart : (w.rosters.get round.roster).handles.Pairwise fun h k =>
      (w.presenterOf h).filters ≠ (w.presenterOf k).filters) :
    ∃ report w₁ w₁', round.run (H.recorded none) source w = .ok report w₁ ∧
      round.run (H.recorded none) source w' = .ok report w₁' ∧
      Alike (fun _ call => call = .mayContinue source) (w.rosters.get round.roster).handles
        (w'.rosters.get round.roster).handles w w' w₁ w₁' := by
  have orderless := orderless_idle attends (w.rosters.get round.roster).handles
    fun h => (w.presenterOf h).filters
  have perm : (w.rosters.get round.roster).handles.Perm (w'.rosters.get round.roster).handles :=
    (same.entries _).map Prod.snd
  have each {h : Handle} {w₁ w₂ : Workspace (Recorded η)} {v : Visit Bool}
      (own : (w₁.presenterOf h).filters = (w.presenterOf h).filters)
      (done : h.visit (Handle.idle (H.recorded none) source) w₁ = .ok v w₂) :
      Visited (fun _ call => call = .mayContinue source) [h] [v] w₁ w₂ := by
    obtain ⟨result, host, tended⟩ := attends.returns (w.presenterOf h).filters w₁.host.host
    obtain ⟨w₃, done', -, visited⟩ := Handle.visit_idle attends own rfl tended
    cases done'.symm.trans done
    exact visited
  obtain ⟨visits, visits', w₁, w₁', done, done', permuted, alike⟩ :=
    visits_perm orderless (fun mem good done => each (good _ mem) done) perm apart
      (fun ne same => ne (same ▸ rfl)) same (fun _ _ => rfl) fun h _ => by rw [same.presenterOf]
  have visit (h : Handle) : h.idle (H.recorded none) source = do
      return (← h.visit (Handle.idle (H.recorded none) source)).answer :=
    (bind_pure _).symm.trans (Handle.bind_visit _ (fun _ a => a) h)
  have reports : (visits'.map Visit.answer).foldl IdleReport.afterVisit {} =
      (visits.map Visit.answer).foldl IdleReport.afterVisit {} :=
    (permuted.map Visit.answer).symm.foldl_eq' (fun a _ b _ report => afterVisit_comm report a b) {}
  have ran := run_eq attends uncapped w
  have ran' := run_eq attends uncapped w'
  rw [bind_of_ok (mapM_map_of_ok visit done)] at ran
  rw [bind_of_ok (mapM_map_of_ok visit done'), reports] at ran'
  exact ⟨_, _, _, ran, ran', alike.note _⟩

end IdleRound

end OutlineBar
