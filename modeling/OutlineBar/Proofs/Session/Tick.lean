/-
What one idle tick does.

`Host.watched` notes what a host is told to do: the calls that it answers and the hooks that it
runs.  A hook may ask its idle source and change rosters; what it asks by itself is not noted.
`tick_visits_in_turn` says what a tick tells the host, for any source and any hooks: it asks the
source and runs a hook, one window after the other, until the source says no, the tick has
visited as many windows as it may, or all windows were visited.

A `HookRun` is a window whose hook ran, with what came of it.  One visit is `visit_cases`, and a
tick is an induction on the handles over it.
-/
import OutlineBar.Proofs.Host.Counting

namespace OutlineBar

open OutlineBar.Action

/-! ## Hosts that are watched -/

/-- What a host was told to do, and what came of it. -/
inductive HostStep where
  | answered (exchange : Exchange)
  | ranHook (filters : FiltersId) (source : IdleSourceId) (outcome : Except Panic HostStatus)

/-- The state of a host, and what it was told to do, in order. -/
structure Watched (η : Type) where
  host : η
  steps : List HostStep := []

def HostStep.asked (source : IdleSourceId) (answer : Except Panic Bool) : HostStep :=
  .answered ⟨.mayContinue source, answer⟩

variable {η : Type} (H : Host η)

namespace Host

/-- The host that notes every call and every hook after it came to something. -/
def watched : Host (Watched η) where
  answer call := fun s =>
    match H.answer call s.host with
    | .ok a host => .ok a ⟨host, s.steps ++ [.answered ⟨call, .ok a⟩]⟩
    | .error p host => .error p ⟨host, s.steps ++ [.answered ⟨call, .error p⟩]⟩
  onIdle filters source := fun b =>
    match H.onIdle filters source ⟨b.host.host, b.rosters, b.trace⟩ with
    | .ok status b' => .ok status
        ⟨⟨b'.host, b.host.steps ++ [.ranHook filters source (.ok status)]⟩, b'.rosters, b'.trace⟩
    | .error p b' => .error p
        ⟨⟨b'.host, b.host.steps ++ [.ranHook filters source (.error p)]⟩, b'.rosters, b'.trace⟩

variable {H}

theorem attempt_watched_answer (call : HostCall) (s : Watched η) : ∃ outcome s',
    attempt (H.watched.answer call) s = .ok outcome s' ∧
      s'.steps = s.steps ++ [.answered ⟨call, outcome⟩] := by
  rw [attempt_apply]
  unfold watched
  dsimp only
  cases H.answer call s.host <;> exact ⟨_, _, rfl, rfl⟩

theorem attempt_watched_onIdle (filters : FiltersId) (source : IdleSourceId)
    (b : Backstage (Watched η)) : ∃ outcome b',
    attempt (H.watched.onIdle filters source) b = .ok outcome b' ∧
      b'.host.steps = b.host.steps ++ [.ranHook filters source outcome] := by
  rw [attempt_apply]
  unfold watched
  dsimp only
  cases H.onIdle filters source ⟨b.host.host, b.rosters, b.trace⟩ <;> exact ⟨_, _, rfl, rfl⟩

end Host

/-! ## One window -/

namespace Workspace

/-- Whether two workspaces differ in no more than the host, the rosters and the log. -/
def SameStage (w w' : Workspace η) : Prop := w' = { w with toBackstage := w'.toBackstage }

theorem SameStage.trans {w w' w'' : Workspace η} (h : w.SameStage w') (h' : w'.SameStage w'') :
    w.SameStage w'' := by
  unfold SameStage at *
  rw [h', h]

end Workspace

open Workspace

variable {H} {source : IdleSourceId} {round : IdleRound}

theorem attempt_zoom {σ τ α : Type} (view : σ → τ) (put : τ → σ → σ) {act : Action τ α} {s : σ}
    {t : τ} {outcome : Except Panic α} (tried : attempt act (view s) = .ok outcome t) :
    attempt (zoom view put act) s = .ok outcome (put t s) := by
  rw [attempt_apply] at tried ⊢
  rw [zoom_apply]
  cases e : act (view s) <;> rw [e] at tried <;> cases tried <;> rfl

/-- A source that is asked panics or answers. -/
theorem asks_watched (source : IdleSourceId) (w : Workspace (Watched η)) : ∃ w',
    w.SameStage w' ∧
      ((∃ p, onHost (H.watched.mayContinue source) w = .error p w' ∧
          w'.host.steps = w.host.steps ++ [.asked source (.error p)]) ∨
        ∃ answer, onHost (H.watched.mayContinue source) w = .ok answer w' ∧
          w'.host.steps = w.host.steps ++ [.asked source (.ok answer)]) := by
  obtain ⟨outcome, host, asked, steps⟩ :=
    Host.attempt_watched_answer (H := H) (.mayContinue source) w.host
  refine ⟨{ w with host }, rfl, ?_⟩
  unfold onHost
  rw [zoom_apply]
  rw [attempt_apply] at asked
  unfold Host.mayContinue
  cases e : H.watched.answer (.mayContinue source) w.host with
  | ok answer host' =>
    rw [e] at asked
    cases asked
    exact .inr ⟨answer, rfl, steps⟩
  | error p host' =>
    rw [e] at asked
    cases asked
    exact .inl ⟨p, rfl, steps⟩

/-- A hook that panics is one that faulted. -/
theorem maintainGuarded_watched (h : Handle) (w : Workspace (Watched η)) : ∃ outcome w',
    h.maintainGuarded H.watched source w = .ok (Handle.faulted outcome) w' ∧ w.SameStage w' ∧
      w'.host.steps = w.host.steps ++ [.ranHook (w.presenterOf h).filters source outcome] := by
  obtain ⟨outcome, b, ran, steps⟩ :=
    Host.attempt_watched_onIdle (H := H) (w.presenterOf h).filters source w.toBackstage
  have tried : attempt (h.maintain H.watched source) w =
      .ok outcome { w with toBackstage := b } :=
    attempt_zoom (fun w : Workspace (Watched η) => w.toBackstage)
      (fun b w => { w with toBackstage := b }) ran
  refine ⟨outcome, ?_⟩
  unfold Handle.maintainGuarded
  rw [bind_of_ok tried]
  rcases outcome with p | failure | _
  all_goals exact ⟨_, rfl, rfl, steps⟩

namespace IdleRound

/-- A visit asks the source.  If the source does not panic, it is the last one, because the
source said no or the tick is full, or it runs the hook of the window. -/
theorem visit_cases (round : IdleRound) (source : IdleSourceId) (report : IdleReport) (h : Handle)
    (w : Workspace (Watched η)) : ∃ w', w.SameStage w' ∧
      ((∃ p, round.visit H.watched source report h w = .error p w' ∧
          w'.host.steps = w.host.steps ++ [.asked source (.error p)]) ∨
        (∃ answer, (answer = false ∨ round.isFull report.visited = true) ∧
          round.visit H.watched source report h w =
            .ok (.done { report with stoppedEarly := true }) w' ∧
          w'.host.steps = w.host.steps ++ [.asked source (.ok answer)]) ∨
        ∃ outcome, round.isFull report.visited = false ∧
          round.visit H.watched source report h w =
            .ok (.yield (report.afterVisit (Handle.faulted outcome))) w' ∧
          w'.host.steps = w.host.steps ++ [.asked source (.ok true),
            .ranHook (w.presenterOf h).filters source outcome]) := by
  obtain ⟨w₁, same, ⟨p, asked, steps⟩ | ⟨answer, asked, steps⟩⟩ := asks_watched (H := H) source w
  · exact ⟨w₁, same, .inl ⟨p, bind_of_error asked _, steps⟩⟩
  · unfold visit
    rw [bind_of_ok asked]
    by_cases stops : (!answer || round.isFull report.visited) = true
    · rw [if_pos stops]
      refine ⟨w₁, same, .inr (.inl ⟨answer, ?_, rfl, steps⟩)⟩
      simpa using stops
    · rw [if_neg stops]
      obtain ⟨rfl, roomy⟩ : answer = true ∧ round.isFull report.visited = false := by
        simpa using stops
      obtain ⟨outcome, w₂, ran, same', steps'⟩ := maintainGuarded_watched (H := H) h w₁
      have own : w₁.presenterOf h = w.presenterOf h := by
        rw [same]
        rfl
      refine ⟨w₂, same.trans same', .inr (.inr ⟨outcome, roomy, bind_of_ok ran _, ?_⟩)⟩
      rw [steps', steps, own, List.append_assoc]
      rfl

end IdleRound

/-! ## All windows -/

/-- A window whose hook ran: the identity under which it was registered, its handle, and what
came of the hook. -/
structure HookRun where
  window : WindowId
  handle : Handle
  outcome : Except Panic HostStatus

namespace HookRun

def entry (r : HookRun) : WindowId × Handle := (r.window, r.handle)

def isFault (r : HookRun) : Bool := Handle.faulted r.outcome

/-- What the host was told to do for a window: first to ask the source, which said yes, then to
run the window's hook. -/
def steps (w : Workspace η) (source : IdleSourceId) (r : HookRun) : List HostStep :=
  [.asked source (.ok true), .ranHook (w.presenterOf r.handle).filters source r.outcome]

theorem steps_of_sameStage {w w' : Workspace η} (same : w.SameStage w') (source : IdleSourceId) :
    steps w' source = steps w source := by
  funext r
  unfold steps
  rw [same]
  rfl

end HookRun

namespace IdleReport

def afterRuns (report : IdleReport) (runs : List HookRun) : IdleReport :=
  runs.foldl (fun report r => report.afterVisit r.isFault) report

theorem afterRuns_eq (report : IdleReport) (runs : List HookRun) : report.afterRuns runs =
    { report with
      visited := report.visited + runs.length
      faulted := report.faulted + runs.countP HookRun.isFault } := by
  induction runs generalizing report with
  | nil => rfl
  | cons r rest ih =>
    have first : report.afterRuns (r :: rest) = (report.afterVisit r.isFault).afterRuns rest := rfl
    rw [first, ih, List.length_cons, List.countP_cons]
    unfold afterVisit
    simp only [IdleReport.mk.injEq, and_true]
    omega

end IdleReport

namespace IdleRound

/-- What a tick that had visited so many windows did about further entries: it ran hooks of the
first of them, and told the host so much more at last. -/
structure Ticked (round : IdleRound) (source : IdleSourceId) (visited : Nat)
    (entries : List (WindowId × Handle)) (runs : List HookRun) (last : List HostStep)
    (w w' : Workspace (Watched η)) : Prop where
  first : runs.map HookRun.entry <+: entries
  roomy : ∀ n < runs.length, round.isFull (visited + n) = false
  same : w.SameStage w'
  steps : w'.host.steps = w.host.steps ++ runs.flatMap (HookRun.steps w source) ++ last

namespace Ticked

variable {visited : Nat} {entries : List (WindowId × Handle)} {runs : List HookRun}
  {last : List HostStep} {w w₁ w' : Workspace (Watched η)}

theorem none (same : w.SameStage w') (steps : w'.host.steps = w.host.steps ++ last) :
    Ticked round source visited entries [] last w w' where
  first := List.nil_prefix
  roomy _ less := nomatch less
  same := same
  steps := by rw [steps, List.flatMap_nil, List.append_nil]

theorem cons {r : HookRun} (roomy : round.isFull visited = false) (same : w.SameStage w₁)
    (steps : w₁.host.steps = w.host.steps ++ r.steps w source)
    (h : Ticked round source (visited + 1) entries runs last w₁ w') :
    Ticked round source visited (r.entry :: entries) (r :: runs) last w w' where
  first := List.cons_prefix_cons.mpr ⟨rfl, h.first⟩
  roomy n less := by
    cases n with
    | zero => exact roomy
    | succ n =>
      rw [← Nat.add_assoc, Nat.add_right_comm]
      exact h.roomy n (Nat.lt_of_succ_lt_succ less)
  same := same.trans h.same
  steps := by
    rw [h.steps, steps, HookRun.steps_of_sameStage same, List.flatMap_cons]
    simp only [List.append_assoc]

end Ticked

/-- A tick runs hooks of the first so many entries.  Then the source panics, or it is asked in
vain, or no entry is left. -/
theorem visitEach_cases (round : IdleRound) (source : IdleSourceId)
    (entries : List (WindowId × Handle)) (report : IdleReport) (w : Workspace (Watched η)) :
    ∃ runs last w', Ticked round source report.visited entries runs last w w' ∧
      ((∃ p, last = [.asked source (.error p)] ∧
          Handle.visitEach (round.visit H.watched source) report (entries.map Prod.snd) w =
            .error p w') ∨
        (∃ answer count, last = [.asked source (.ok answer)] ∧ runs.length < entries.length ∧
          (answer = false ∨ round.isFull (report.visited + runs.length) = true) ∧
          Handle.visitEach (round.visit H.watched source) report (entries.map Prod.snd) w =
            .ok (count, { report.afterRuns runs with stoppedEarly := true }) w') ∨
        ∃ count, last = [] ∧ runs.length = entries.length ∧
          Handle.visitEach (round.visit H.watched source) report (entries.map Prod.snd) w =
            .ok (count, report.afterRuns runs) w') := by
  induction entries generalizing report w with
  | nil =>
    have idle : Ticked round source report.visited [] [] [] w w :=
      .none rfl (List.append_nil _).symm
    exact ⟨[], [], w, idle, .inr (.inr ⟨0, rfl, rfl, rfl⟩)⟩
  | cons entry rest ih =>
    obtain ⟨window, h⟩ := entry
    rw [List.map_cons]
    unfold Handle.visitEach
    obtain ⟨w₁, same, ⟨p, visited, steps⟩ | ⟨answer, stops, visited, steps⟩ |
      ⟨outcome, roomy, visited, steps⟩⟩ := round.visit_cases (H := H) source report h w
    · exact ⟨[], _, w₁, .none same steps, .inl ⟨p, rfl, bind_of_error visited _⟩⟩
    · refine ⟨[], _, w₁, .none same steps, .inr (.inl ⟨answer, 1, rfl, ?_, stops, ?_⟩)⟩
      · exact Nat.succ_pos _
      · exact bind_of_ok visited _
    · rw [bind_of_ok visited]
      dsimp only
      obtain ⟨runs, last, w', ticked, ended⟩ := ih (report.afterVisit (Handle.faulted outcome)) w₁
      have ran := Ticked.cons (r := ⟨window, h, outcome⟩) roomy same steps ticked
      refine ⟨_, last, w', ran, ?_⟩
      rcases ended with ⟨p, e, rest⟩ | ⟨answer, count, e, less, stops, rest⟩ | ⟨count, e, all, rest⟩
      · exact .inl ⟨p, e, bind_of_error rest _⟩
      · refine .inr (.inl ⟨answer, count + 1, e, Nat.succ_lt_succ less, ?_, bind_of_ok rest _⟩)
        rwa [List.length_cons, Nat.add_comm runs.length 1, ← Nat.add_assoc]
      · exact .inr (.inr ⟨count + 1, e, congrArg Nat.succ all, bind_of_ok rest _⟩)

theorem isFull_iff {options : IdleOptions} {roster : RosterId} {visited : Nat} :
    (IdleRound.mk roster options.cap).isFull visited = true ↔
      0 < options.maxWindows ∧ options.maxWindows ≤ visited := by
  unfold isFull IdleOptions.cap
  by_cases bounded : 0 < options.maxWindows <;> simp [bounded]

/-- A tick ends as the visits of the entries end. -/
theorem run_cases (round : IdleRound) (source : IdleSourceId) (w : Workspace (Watched η)) :
    ∃ runs last w', Ticked round source 0 (w.rosters.get round.roster).entries runs last w w' ∧
      ((∃ p, last = [.asked source (.error p)] ∧
          round.run H.watched source w = .error p w') ∨
        (∃ answer, last = [.asked source (.ok answer)] ∧
          runs.length < (w.rosters.get round.roster).size ∧
          (answer = false ∨ round.isFull runs.length = true) ∧
          round.run H.watched source w =
            .ok ⟨runs.length, runs.countP HookRun.isFault, true⟩ w') ∨
        last = [] ∧ runs.length = (w.rosters.get round.roster).size ∧
          round.run H.watched source w =
            .ok ⟨runs.length, runs.countP HookRun.isFault, false⟩ w') := by
  obtain ⟨runs, last, w₁, ticked, ended⟩ :=
    round.visitEach_cases (H := H) source (w.rosters.get round.roster).entries {} w
  have report := IdleReport.afterRuns_eq {} runs
  rw [Nat.zero_add, Nat.zero_add] at report
  rw [report, Nat.zero_add] at ended
  have noted (event : Event) : Ticked round source 0 (w.rosters.get round.roster).entries runs last
      w { w₁ with trace := w₁.trace ++ [event] } :=
    { ticked with
      same := by
        unfold SameStage
        rw [ticked.same] }
  rcases ended with ⟨p, e, reached⟩ | ⟨answer, count, e, less, stops, reached⟩ |
    ⟨count, e, all, reached⟩
  · exact ⟨runs, last, w₁, ticked, .inl ⟨p, e, bind_of_error reached _⟩⟩
  · exact ⟨runs, last, _, noted _, .inr (.inl ⟨answer, e, less, stops, bind_of_ok reached _⟩)⟩
  · exact ⟨runs, last, _, noted _, .inr (.inr ⟨e, all, bind_of_ok reached _⟩)⟩

/-- A tick is full only when it has visited as many windows as it may. -/
theorem Ticked.le_maxWindows {options : IdleOptions} {roster : RosterId}
    {entries : List (WindowId × Handle)} {runs : List HookRun} {last : List HostStep}
    {w w' : Workspace (Watched η)}
    (h : Ticked ⟨roster, options.cap⟩ source 0 entries runs last w w')
    (bounded : 0 < options.maxWindows) : runs.length ≤ options.maxWindows := by
  by_contra more
  have roomy := h.roomy options.maxWindows (Nat.lt_of_not_le more)
  have full : (IdleRound.mk roster options.cap).isFull (0 + options.maxWindows) = true :=
    isFull_iff.mpr ⟨bounded, Nat.le_add_left options.maxWindows 0⟩
  rw [full] at roomy
  cases roomy

end IdleRound

/-- The idle host is given the round that the coordinator itself runs. -/
theorem IdleCoordinator.steps_of_install {idleHost : IdleHostId}
    {before installed : Workspace (Watched η)} {c : IdleCoordinator}
    (begun : IdleCoordinator.install H.watched round idleHost before = .ok c installed) :
    c.round = round ∧ ∃ subscription, installed.host.steps =
      before.host.steps ++ [.answered ⟨.subscribeIdle idleHost round, .ok subscription⟩] := by
  obtain ⟨subscription, w₁, subscribed, rest⟩ := bind_eq_ok begun
  obtain ⟨host, asked, rfl⟩ := zoom_eq_ok subscribed
  obtain ⟨outcome, host', tried, steps⟩ :=
    Host.attempt_watched_answer (H := H) (.subscribeIdle idleHost round) before.host
  have answered : H.watched.answer (.subscribeIdle idleHost round) before.host =
    .ok subscription host := asked
  rw [attempt_apply, answered] at tried
  cases tried
  cases rest
  exact ⟨rfl, subscription, steps⟩

/-- A tick, whether a coordinator runs it or the idle host runs the round that it was given, asks
its source and runs the hook of a window, over and over.  The windows were registered when it
began and are all different, whatever the hooks do, and nothing is changed but backstage.  If the
source does not panic there is a report.  It counts the hooks that ran and those that failed or
panicked; it is early exactly if windows are left over, and then the source was asked once more,
and either said no or the tick was full. -/
theorem tick_visits_in_turn (options : IdleOptions) (roster : RosterId) {idleHost : IdleHostId}
    {before installed : Workspace (Watched η)} {c : IdleCoordinator}
    (begun : IdleCoordinator.install H.watched ⟨roster, options.cap⟩ idleHost before =
      .ok c installed) :
    (∃ given subscription, installed.host.steps = before.host.steps ++
        [.answered ⟨.subscribeIdle idleHost given, .ok subscription⟩] ∧
      ∀ source w, given.run H.watched source w = c.onIdle H.watched source w) ∧
    ∀ source (w : Workspace (Watched η)), (w.rosters.get roster).Keyed →
      ∃ (runs : List HookRun) (last : List HostStep) (w' : Workspace (Watched η)),
        (runs.map HookRun.window).Nodup ∧
        (∀ r ∈ runs, (w.rosters.get roster).get? r.window = some r.handle) ∧
        w'.host.steps = w.host.steps ++ runs.flatMap (HookRun.steps w source) ++ last ∧
        w.SameStage w' ∧
        ((∃ p, last = [.asked source (.error p)] ∧ c.onIdle H.watched source w = .error p w') ∨
          ∃ report, c.onIdle H.watched source w = .ok report w' ∧
            report.visited = runs.length ∧
            report.faulted = runs.countP HookRun.isFault ∧
            (0 < options.maxWindows → report.visited ≤ options.maxWindows) ∧
            (report.stoppedEarly = true ↔ report.visited < (w.rosters.get roster).size) ∧
            (report.stoppedEarly = true → ∃ answer, last = [.asked source (.ok answer)] ∧
              (answer = false ∨ 0 < options.maxWindows ∧ report.visited = options.maxWindows)) ∧
            (report.stoppedEarly = false → last = [] ∧
              ∀ id h, (w.rosters.get roster).get? id = some h →
                ∃ r ∈ runs, r.window = id ∧ r.handle = h)) := by
  obtain ⟨same, subscription, steps⟩ := IdleCoordinator.steps_of_install begun
  refine ⟨⟨_, subscription, steps, fun source w => by rw [← same]; rfl⟩, fun source w keyed => ?_⟩
  obtain ⟨runs, last, w', ticked, ended⟩ :=
    IdleRound.run_cases (H := H) ⟨roster, options.cap⟩ source w
  have ran : c.onIdle H.watched source w =
      IdleRound.run H.watched ⟨roster, options.cap⟩ source w := by
    rw [← same]
    rfl
  rw [← ran] at ended
  have nodup : (runs.map HookRun.window).Nodup := by
    have first := ticked.first.map Prod.fst
    rw [List.map_map] at first
    exact keyed.sublist first.sublist
  have listed : ∀ r ∈ runs, (w.rosters.get roster).get? r.window = some r.handle := fun r mem =>
    keyed.mem_entries.mp (ticked.first.subset (List.mem_map_of_mem (f := HookRun.entry) mem))
  refine ⟨runs, last, w', nodup, listed, ticked.steps, ticked.same, ?_⟩
  rcases ended with panicked | ⟨answer, e, less, stops, ended⟩ | ⟨e, all, ended⟩
  · exact .inl panicked
  · refine .inr ⟨_, ended, rfl, rfl, ticked.le_maxWindows, iff_of_true rfl less, fun _ => ?_, nofun⟩
    refine ⟨answer, e, stops.imp_right fun full => ?_⟩
    obtain ⟨bounded, reached⟩ := IdleRound.isFull_iff.mp full
    exact ⟨bounded, Nat.le_antisymm (ticked.le_maxWindows bounded) reached⟩
  · refine .inr ⟨_, ended, rfl, rfl, ticked.le_maxWindows, ?_, nofun, fun _ => ⟨e, ?_⟩⟩
    · exact iff_of_false nofun (Nat.not_lt_of_le (Nat.le_of_eq all.symm))
    · -- Every entry was visited.
      intro id h found
      have whole : runs.map HookRun.entry = (w.rosters.get roster).entries :=
        ticked.first.eq_of_length ((List.length_map _).trans all)
      have mem := keyed.mem_entries.mpr found
      rw [← whole] at mem
      obtain ⟨r, mem, e⟩ := List.mem_map.mp mem
      exact ⟨r, mem, congrArg Prod.fst e, congrArg Prod.snd e⟩

/-! ## A tick that is full -/

namespace Tick

/-- The hook of the second filters panics. -/
def host : Host Counts := Host.counting (fun _ _ => true) fun filters _ =>
  if filters = ⟨1⟩ then .error (.text "boom") else .ok (.ok ())

/-- Three windows with filters of their own. -/
def windows : Workspace (Watched Counts) where
  host := ⟨fun _ => 0, []⟩
  rosters := Store.empty.set ⟨0⟩
    ⟨[(⟨1⟩, ⟨⟨1⟩, ⟨0⟩, ⟨0⟩⟩), (⟨2⟩, ⟨⟨2⟩, ⟨0⟩, ⟨1⟩⟩), (⟨3⟩, ⟨⟨3⟩, ⟨0⟩, ⟨2⟩⟩)]⟩
  presenters := { size := 3, cell := fun i => { (default : Presenter) with filters := ⟨i⟩ } }

def coordinator : IdleCoordinator := ⟨⟨⟨0⟩, some 2⟩, ⟨0⟩, some ⟨0⟩⟩

end Tick

open Tick in
/-- A tick that may visit two windows visits two of three, one of which panics.  The source was
asked three times, and had nothing against the third window. -/
theorem tick_visits_in_turn_until_full : ∃ (runs : List HookRun) (w' : Workspace (Watched Counts)),
    coordinator.onIdle host.watched ⟨0⟩ windows = .ok ⟨2, 1, true⟩ w' ∧
      runs.length = 2 ∧ (runs.map HookRun.window).Nodup ∧
      w'.host.steps = runs.flatMap (HookRun.steps windows ⟨0⟩) ++ [.asked ⟨0⟩ (.ok true)] := by
  have keyed : (windows.rosters.get ⟨0⟩).Keyed := by
    unfold Roster.Keyed
    decide
  have begun : IdleCoordinator.install host.watched ⟨⟨0⟩, (IdleOptions.mk 2).cap⟩ ⟨0⟩ windows =
      .ok coordinator _ := rfl
  obtain ⟨-, ticks⟩ := tick_visits_in_turn ⟨2⟩ ⟨0⟩ begun
  obtain ⟨runs, last, w', nodup, -, steps, -, panicked | reported⟩ := ticks ⟨0⟩ windows keyed
  · obtain ⟨p, -, panicked⟩ := panicked
    cases panicked
  · obtain ⟨report, ticked, visited, -, -, -, early, -⟩ := reported
    have ran : coordinator.onIdle host.watched ⟨0⟩ windows = .ok ⟨2, 1, true⟩ _ := rfl
    obtain ⟨rfl, rfl⟩ := EStateM.Result.ok.inj (ran.symm.trans ticked)
    obtain ⟨answer, rfl, -⟩ := early rfl
    have told : some (HostStep.asked ⟨0⟩ (.ok true)) = some (HostStep.asked ⟨0⟩ (.ok answer)) :=
      (congrArg List.getLast? steps).trans (List.getLast?_append_of_ne_nil _ (List.cons_ne_nil _ _))
    cases told
    exact ⟨runs, _, ran, visited.symm, nodup, steps⟩

end OutlineBar
