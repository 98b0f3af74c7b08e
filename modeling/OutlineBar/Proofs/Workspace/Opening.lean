/-
How the opening of a window ends.

An opening finds an outliner, puts two filters on the view, subscribes to the outliner and adds
a presenter.  It ends early when there is no outliner or when a filter is refused, and then
everything in the workspace is as it was and the host was asked for nothing else.  `Ending` lists
the ways in which it can end, and `Opened` says what there is when it succeeds.
-/
import OutlineBar.Proofs.Workspace.Operation
import OutlineBar.Proofs.Workspace.Resolution

namespace OutlineBar

open OutlineBar.Action

variable {η : Type}

/-- What an action answers that came to `outcome` and left `s`. -/
def Action.endsIn {σ α : Type} (outcome : Except Panic α) (s : σ) : EStateM.Result Panic σ α :=
  match outcome with
  | .ok a => .ok a s
  | .error p => .error p s

/-! ## Filters -/

/-- Whether a host in state `s` refuses the filters of a view, the first time with this
failure. -/
def Host.Refuses (H : Host η) (filters : FiltersId) (view : ViewId) (failure : HostFailure)
    (s : η) : Prop :=
  (∃ s', H.filterKeyboard filters view s = .ok (.error failure) s') ∨
    ∃ s' s'', H.filterKeyboard filters view s = .ok (.ok ()) s' ∧
      H.filterView filters view s' = .ok (.error failure) s''

/-- The calls that put both filters on a view. -/
def WindowParts.filterCalls (parts : WindowParts) : List HostCall :=
  [.filterKeyboard parts.filters parts.view, .filterView parts.filters parts.view]

/-- The presenter of a new window. -/
def WindowParts.presenter (parts : WindowParts) (outliner : OutlinerId) (listener : ListenerId)
    (priority : Int) : Presenter where
  window := parts.window
  buffer := parts.buffer
  shell := parts.shell
  bars := parts.bars
  factory := parts.factory
  filters := parts.filters
  outliner
  listener
  priority

/-- The calls to the host that a subscription to an outliner takes. -/
def Outliner.subscribeCalls (id : OutlinerId) : Outliner → List HostCall
  | hosted _ => [.subscribe id]
  | background _ => []

namespace Workspace

/-- How putting filters on a view ends: with the first of the two calls, or with the second. -/
inductive Filtering (H : Host η) (filters : FiltersId) (view : ViewId) (s : Recorded η) :
    Except Panic HostStatus → Recorded η → Prop
  | keyboard {outcome : Except Panic HostStatus} {s' : Recorded η}
      (called : H.Calls none (.filterKeyboard filters view) s outcome s')
      (stops : outcome ≠ .ok (.ok ())) : Filtering H filters view s outcome s'
  | view {outcome : Except Panic HostStatus} {s' s'' : Recorded η}
      (kept : H.Calls none (.filterKeyboard filters view) s (.ok (.ok ())) s')
      (called : H.Calls none (.filterView filters view) s' outcome s'') :
      Filtering H filters view s outcome s''

variable {H : Host η} {filters : FiltersId} {view : ViewId} {parts : WindowParts}
  {scope : ScopeId}

theorem exists_filtering (H : Host η) (filters : FiltersId) (view : ViewId)
    (w : Workspace (Recorded η)) : ∃ outcome s, Filtering H filters view w.host outcome s ∧
      attachFilters (H.recorded none) filters view w = endsIn outcome { w with host := s } := by
  have panics (p : Panic) : (.error p : Except Panic HostStatus) ≠ .ok (.ok ()) := by
    intro e
    cases e
  have refuses (failure : HostFailure) :
      (.ok (.error failure) : Except Panic HostStatus) ≠ .ok (.ok ()) := by
    intro e
    cases e
  unfold attachFilters
  simp only [bind_apply, onHost, zoom_apply]
  cases keyboard : (H.recorded none).filterKeyboard filters view w.host with
  | error p s => exact ⟨.error p, s, .keyboard (Host.calls_error keyboard) (panics p), rfl⟩
  | ok status s =>
    cases status with
    | error failure =>
      exact ⟨_, s, .keyboard (Host.calls_ok keyboard) (refuses failure), rfl⟩
    | ok _ =>
      simp only [zoom_apply]
      cases viewed : (H.recorded none).filterView filters view s with
      | error p s' => exact ⟨_, s', .view (Host.calls_ok keyboard) (Host.calls_error viewed), rfl⟩
      | ok status s' => exact ⟨_, s', .view (Host.calls_ok keyboard) (Host.calls_ok viewed), rfl⟩

namespace Filtering

variable {s s' : Recorded η} {outcome : Except Panic HostStatus} {failure : HostFailure}

theorem callsIn_of_passed (h : Filtering H parts.filters parts.view s (.ok (.ok ())) s') :
    callsIn s'.log = callsIn s.log ++ parts.filterCalls := by
  cases h with
  | keyboard called stops => exact absurd rfl stops
  | view kept called => rw [called.callsIn, kept.callsIn, List.append_assoc]; rfl

end Filtering

/-! ## Subscribing -/

theorem subscribe_eq (H : Host η) (outliner : OutlinerId) (w : Workspace η) :
    subscribe H outliner w =
      let (listener, changed) := (w.outliners.get outliner).subscribe
      match w.outliners.get outliner with
      | .hosted _ =>
        match H.subscribe outliner w.host with
        | .error p host => .error p { w with host }
        | .ok () host =>
          .ok listener { w with host, outliners := w.outliners.set outliner changed }
      | .background _ =>
        .ok listener { w with outliners := w.outliners.set outliner changed } := by
  unfold subscribe
  simp only [bind_apply, get_apply]
  cases own : w.outliners.get outliner with
  | hosted broadcast =>
    simp only [bind_apply, onHost, zoom_apply]
    cases H.subscribe outliner w.host with
    | error p host => rfl
    | ok _ host => simp only [get_apply, set_apply, pure_apply, own]
  | background service => simp only [bind_apply, get_apply, set_apply, pure_apply, own]

theorem subscribe_cases (H : Host η) (outliner : OutlinerId) (w : Workspace (Recorded η)) :
    match subscribe (H.recorded none) outliner w with
    | .error _ w' => ∃ host, w' = { w with host }
    | .ok listener w' => ∃ host,
      callsIn host.log =
        callsIn w.host.log ++ (w.outliners.get outliner).subscribeCalls outliner ∧
      listener = (w.outliners.get outliner).subscribe.1 ∧
      w' = { w with
        host
        outliners := w.outliners.set outliner (w.outliners.get outliner).subscribe.2 } := by
  rw [subscribe_eq]
  cases own : w.outliners.get outliner with
  | hosted broadcast =>
    dsimp only
    cases asked : (H.recorded none).subscribe outliner w.host with
    | error p host => exact ⟨host, rfl⟩
    | ok _ host => exact ⟨host, (Host.calls_ok asked).callsIn, rfl, rfl⟩
  | background service => exact ⟨w.host, (List.append_nil _).symm, rfl, rfl⟩

/-- A subscription adds one listener, to one outliner. -/
theorem listeners_subscribe (w : Workspace η) (outliner : OutlinerId) (host : η)
    (id : OutlinerId) :
    listeners { w with
      host
      outliners := w.outliners.set outliner (w.outliners.get outliner).subscribe.2 } id =
      w.listeners id ++
        if id = outliner then [(w.outliners.get outliner).subscribe.1] else [] := by
  unfold listeners
  by_cases same : id = outliner
  · subst same
    rw [Store.get_set_self, if_pos rfl]
    cases w.outliners.get id <;> exact Broadcast.openNames_subscribe _
  · rw [Store.get_set_of_ne _ _ same, if_neg same, List.append_nil]

/-! ## Opening -/

/-- What there is when a window was opened: its presenter is new, it is the only thing that was
added, and its listener is the only new one.  `found` is the workspace in which the outliner was
found. -/
structure Opened (parts : WindowParts) (scope : ScopeId) (outliner : OutlinerId)
    (w found : Workspace (Recorded η)) (h : Handle) (opened : Workspace (Recorded η)) : Prop where
  search : w.Untouched found
  handle : h = ⟨parts.window, scope, ⟨w.presenters.size⟩⟩
  one : opened.presenters.size = w.presenters.size + 1
  presenter : ∃ priority, opened.presenterOf h =
    parts.presenter outliner (found.outliners.get outliner).subscribe.1 priority
  listeners : ∀ id, opened.listeners id = found.listeners id ++
    if id = outliner then [(found.outliners.get outliner).subscribe.1] else []
  subscribed : opened.outliners.get outliner = (found.outliners.get outliner).subscribe.2
  others : ∀ id, id.index < w.presenters.size → opened.presenters.get id = w.presenters.get id
  outliners : ∀ id, id ≠ outliner → opened.outliners.get id = found.outliners.get id
  count : opened.outliners.size = found.outliners.size
  rosters : opened.rosters = w.rosters
  buffers : opened.buffers = w.buffers
  scopes : opened.scopes = w.scopes
  calls : callsIn opened.host.log =
    callsIn w.host.log ++ parts.source.calls parts.buffer ++ parts.filterCalls ++
      (found.outliners.get outliner).subscribeCalls outliner

theorem Opened.known {outliner : OutlinerId} {w found opened : Workspace (Recorded η)} {h : Handle}
    (made : Opened parts scope outliner w found h opened) : opened.Knows h := by
  unfold Knows
  rw [made.one, made.handle]
  exact Nat.lt_succ_self _

theorem openWindow_eq (H : Host η) (parts : WindowParts) (scope : ScopeId) (w : Workspace η) :
    openWindow H parts scope w =
      match resolveOutliner H parts.source parts.buffer w with
      | .error p w => .error p w
      | .ok (.error cause) w =>
        .ok (.error (.noOutliner parts.window cause)) { w with
          trace := w.trace ++ [.outlinerUnavailable parts.window
            (w.buffers.get parts.buffer).contentType cause.message] }
      | .ok (.ok outliner) w =>
        match attachFilters H parts.filters parts.view w with
        | .error p w => .error p w
        | .ok (.error failure) w => .ok (.error (.host failure)) w
        | .ok (.ok ()) w =>
          match subscribe H outliner w with
          | .error p w => .error p w
          | .ok listener w =>
            .ok (.ok ⟨parts.window, scope, ⟨w.presenters.size⟩⟩) { w with
              trace := w.trace ++ [.created parts.window parts.view]
              presenters := (w.presenters.add (parts.presenter outliner listener
                (w.scopes.get scope).options.bar.priority)).2 } := by
  unfold openWindow
  simp only [bind_apply]
  cases resolveOutliner H parts.source parts.buffer w with
  | error p w => rfl
  | ok resolved w =>
    cases resolved with
    | error cause => rfl
    | ok outliner =>
      simp only [bind_apply]
      cases attachFilters H parts.filters parts.view w with
      | error p w => rfl
      | ok status w =>
        cases status with
        | error failure => rfl
        | ok _ =>
          simp only [bind_apply]
          cases subscribe H outliner w <;> rfl

section
variable {w w' found : Workspace (Recorded η)} {outliner : OutlinerId}

theorem untouched_of_resolved {answer : Except ResolveError OutlinerId}
    (resolved : resolveOutliner (H.recorded none) parts.source parts.buffer w = .ok answer found) :
    w.Untouched found := by
  have touched := untouched_resolveOutliner (H.recorded none) parts.source parts.buffer w
  rwa [after_of_ok resolved] at touched

theorem callsIn_of_resolved {answer : Except ResolveError OutlinerId}
    (resolved : resolveOutliner (H.recorded none) parts.source parts.buffer w = .ok answer found) :
    callsIn found.host.log = callsIn w.host.log ++ parts.source.calls parts.buffer := by
  have calls := callsIn_resolveOutliner H none parts.source parts.buffer w
  rwa [after_of_ok resolved] at calls

/-- A subscription after both filters were put on the view, and the presenter. -/
theorem opened_of_subscribed
    (resolved : resolveOutliner (H.recorded none) parts.source parts.buffer w =
      .ok (.ok outliner) found)
    {s host : Recorded η}
    (passed : Filtering H parts.filters parts.view found.host (.ok (.ok ())) s)
    (asked : callsIn host.log =
      callsIn s.log ++ (found.outliners.get outliner).subscribeCalls outliner)
    (priority : Int) (trace : List Event) :
    Opened parts scope outliner w found ⟨parts.window, scope, ⟨found.presenters.size⟩⟩ { found with
      host, trace
      outliners := found.outliners.set outliner (found.outliners.get outliner).subscribe.2
      presenters := (found.presenters.add (parts.presenter outliner
        (found.outliners.get outliner).subscribe.1 priority)).2 } := by
  have touched := untouched_of_resolved resolved
  exact {
    search := touched
    handle := by rw [← touched.presenters]
    one := by rw [← touched.presenters]; rfl
    presenter := ⟨priority, found.presenters.get_add_self _⟩
    listeners := listeners_subscribe found outliner host
    subscribed := Store.get_set_self _ _ _
    others := fun id given => by
      rw [← touched.presenters] at given ⊢
      exact found.presenters.get_add_of_lt _ given
    outliners := fun id other => Store.get_set_of_ne _ _ other
    count := rfl
    rosters := touched.rosters
    buffers := touched.buffers
    scopes := touched.scopes
    calls := by
      refine asked.trans ?_
      rw [passed.callsIn_of_passed, callsIn_of_resolved resolved] }

/-- How an opening ends. -/
inductive Ending (H : Host η) (parts : WindowParts) (scope : ScopeId) (w : Workspace (Recorded η)) :
    EStateM.Result Panic (Workspace (Recorded η)) (Except OpenError Handle) → Prop
  | panicked {p : Panic} {w' : Workspace (Recorded η)} (untouched : w.Untouched w') :
      Ending H parts scope w (.error p w')
  | noOutliner {cause : ResolveError} {found : Workspace (Recorded η)}
      (resolved : resolveOutliner (H.recorded none) parts.source parts.buffer w =
        .ok (.error cause) found) (trace : List Event) :
      Ending H parts scope w (.ok (.error (.noOutliner parts.window cause)) { found with trace })
  | refused {outliner : OutlinerId} {found : Workspace (Recorded η)} {failure : HostFailure}
      {s : Recorded η}
      (resolved : resolveOutliner (H.recorded none) parts.source parts.buffer w =
        .ok (.ok outliner) found)
      (filtering : Filtering H parts.filters parts.view found.host (.ok (.error failure)) s) :
      Ending H parts scope w (.ok (.error (.host failure)) { found with host := s })
  | opened {outliner : OutlinerId} {found w' : Workspace (Recorded η)} {h : Handle}
      (resolved : resolveOutliner (H.recorded none) parts.source parts.buffer w =
        .ok (.ok outliner) found)
      (made : Opened parts scope outliner w found h w') : Ending H parts scope w (.ok (.ok h) w')

theorem ending (H : Host η) (parts : WindowParts) (scope : ScopeId) (w : Workspace (Recorded η)) :
    Ending H parts scope w (openWindow (H.recorded none) parts scope w) := by
  rw [openWindow_eq]
  split
  · rename_i found panicked
    have touched := untouched_resolveOutliner (H.recorded none) parts.source parts.buffer w
    rw [after_of_error panicked] at touched
    exact .panicked touched
  · rename_i found resolved
    exact .noOutliner resolved _
  · rename_i outliner found resolved
    have touched := untouched_of_resolved resolved
    obtain ⟨outcome, s, filtering, e⟩ := exists_filtering H parts.filters parts.view found
    rw [e]
    rcases outcome with p | failure | _
    · exact .panicked (touched.noted _ _)
    · exact .refused resolved filtering
    · have subscribed := subscribe_cases H outliner { found with host := s }
      dsimp only [endsIn]
      split
      · rename_i panicked
        rw [panicked] at subscribed
        obtain ⟨host, rfl⟩ := subscribed
        exact .panicked (touched.noted _ _)
      · rename_i listener w₁ subscribes
        rw [subscribes] at subscribed
        obtain ⟨host, asked, rfl, rfl⟩ := subscribed
        exact .opened resolved (opened_of_subscribed resolved filtering asked _ _)

theorem ending_of_eq
    {result : EStateM.Result Panic (Workspace (Recorded η)) (Except OpenError Handle)}
    (ends : openWindow (H.recorded none) parts scope w = result) : Ending H parts scope w result :=
  ends ▸ ending H parts scope w

/-- An opening that comes to nothing leaves everything as it was. -/
theorem untouched_of_error {error : OpenError}
    (ends : openWindow (H.recorded none) parts scope w = .ok (.error error) w') :
    w.Untouched w' := by
  cases ending_of_eq ends with
  | noOutliner resolved trace => exact (untouched_of_resolved resolved).noted _ _
  | refused resolved filtering => exact (untouched_of_resolved resolved).noted _ _

/-- So does one that ends in a panic. -/
theorem untouched_of_panic {p : Panic}
    (ends : openWindow (H.recorded none) parts scope w = .error p w') : w.Untouched w' := by
  cases ending_of_eq ends with
  | panicked untouched => exact untouched

theorem opened_of_ok {h : Handle}
    (ends : openWindow (H.recorded none) parts scope w = .ok (.ok h) w') :
    ∃ outliner found,
      resolveOutliner (H.recorded none) parts.source parts.buffer w = .ok (.ok outliner) found ∧
        Opened parts scope outliner w found h w' := by
  cases ending_of_eq ends with
  | opened resolved made => exact ⟨_, _, resolved, made⟩

end

end Workspace

end OutlineBar
