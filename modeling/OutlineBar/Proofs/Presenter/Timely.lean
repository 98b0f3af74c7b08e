/-
A window never goes back in time.

What a presenter hands to its clients is of texts that the buffer had when it was handed
over, and never older than what it handed over before.  `Presenter.Timely` says so of the
log, together with what makes it last: an attached client shows the newest outline that
was handed to any client of the window.  `Desk.Timely` adds the service, whose queues must
not hold anything that the buffer did not have yet.

A detached presenter forgets what was shown, and completions that were queued before are
still in the queue when the next client is attached.  That client starts from the current
text, though, and nothing in the queue is newer than that.
-/
import OutlineBar.Proofs.Presenter.Upheld
import OutlineBar.Proofs.Service.Timely

namespace OutlineBar

open OutlineBar.Action

variable {η : Type} {H : Host η} {buffer : BufferId} {t : Timeline H buffer} {id : PresenterId}

/-- Whether what a presenter handed out is in order, and its client shows the last of it. -/
structure Presenter.Timely (t : Timeline H buffer) (id : PresenterId) (p : Presenter)
    (host : Recorded η) : Prop where
  sorted : ((handedBy id host.log).map Outline.version).Pairwise (· ≤ ·)
  known : ∀ outline ∈ handedBy id host.log, t.Knew (t.text host.host) outline
  punctual : ∀ r ∈ host.log, r.caller = some id → ∀ outline, r.call.handed? = some outline →
    outline.version ≤ (t.text r.before).version
  shows : ∀ client, p.client = some client → ∃ outline,
    (givenTo id client host.log).getLast? = some outline ∧ p.shown = some outline.version ∧
      t.Knew (t.text host.host) outline ∧
      ∀ other ∈ handedBy id host.log, other.version ≤ outline.version

namespace Presenter.Timely

variable {p p' : Presenter} {host host' : Recorded η}

/-- A presenter that never did anything. -/
theorem fresh (detached : p.client = none) (silent : host.log = []) : p.Timely t id host := by
  have none : handedBy id host.log = [] := by rw [silent]; rfl
  refine ⟨by rw [none]; exact .nil, ?_, ?_, ?_⟩
  · intro outline mem
    rw [none] at mem
    cases mem
  · intro r mem
    rw [silent] at mem
    cases mem
  · intro client attached
    rw [detached] at attached
    cases attached

/-- Time passes, and others make calls. -/
theorem extend (h : p.Timely t id host) {more : List (HostRecord η)}
    (log : host'.log = host.log ++ more) (silent : Silent id more)
    (follows : t.Follows (t.text host.host) (t.text host'.host)) : p.Timely t id host' := by
  have handed : handedBy id host'.log = handedBy id host.log := by
    rw [log, handedBy_append_silent silent]
  refine ⟨?_, ?_, ?_, ?_⟩
  · rw [handed]
    exact h.sorted
  · rw [handed]
    exact fun outline mem => (h.known outline mem).mono follows
  · intro r mem own outline hands
    rw [log] at mem
    rcases List.mem_append.mp mem with old | new
    · exact h.punctual r old own outline hands
    · rw [silent r new own] at hands
      cases hands
  · intro client attached
    obtain ⟨outline, last, shown, knew, newest⟩ := h.shows client attached
    refine ⟨outline, ?_, shown, knew.mono follows, ?_⟩
    · rw [log, givenTo_append_silent silent]
      exact last
    · rw [handed]
      exact newest

/-- The presenter hands an outline out that is not older than those before. -/
theorem hand (h : p.Timely t id host) {r : HostRecord η} {outline : Outline}
    (log : host'.log = host.log ++ [r]) (own : r.caller = some id) (before : r.before = host.host)
    (hands : r.call.handed? = some outline) (knew : t.Knew (t.text host.host) outline)
    (newest : ∀ other ∈ handedBy id host.log, other.version ≤ outline.version)
    (follows : t.Follows (t.text host.host) (t.text host'.host))
    (shows : ∀ client, p'.client = some client →
      r.given? client = some outline ∧ p'.shown = some outline.version) :
    p'.Timely t id host' := by
  have handed : handedBy id host'.log = handedBy id host.log ++ [outline] := by
    rw [log, handedBy_concat, if_pos own, hands]
    rfl
  refine ⟨?_, ?_, ?_, ?_⟩
  · rw [handed, List.map_append, List.pairwise_append]
    refine ⟨h.sorted, List.pairwise_singleton _ _, ?_⟩
    intro version mem version' mem'
    obtain ⟨other, old, rfl⟩ := List.mem_map.mp mem
    rw [List.mem_singleton.mp mem']
    exact newest other old
  · rw [handed]
    intro other mem
    rcases List.mem_append.mp mem with old | new
    · exact (h.known other old).mono follows
    · exact List.mem_singleton.mp new ▸ knew.mono follows
  · intro r' mem own' outline' hands'
    rw [log] at mem
    rcases List.mem_append.mp mem with old | new
    · exact h.punctual r' old own' outline' hands'
    · rw [List.mem_singleton.mp new] at hands' ⊢
      rw [hands] at hands'
      rw [before, ← Option.some.inj hands']
      exact knew.version_le
  · intro client attached
    obtain ⟨given, shown⟩ := shows client attached
    refine ⟨outline, ?_, shown, knew.mono follows, ?_⟩
    · rw [log, givenTo_concat, if_pos own, given]
      exact List.getLast?_concat
    · rw [handed]
      intro other mem
      rcases List.mem_append.mp mem with old | new
      · exact newest other old
      · exact Nat.le_of_eq (congrArg Outline.version (List.mem_singleton.mp new))

/-- The presenter lets its client go. -/
theorem forget (h : p.Timely t id host) (none : p'.client = none) : p'.Timely t id host where
  sorted := h.sorted
  known := h.known
  punctual := h.punctual
  shows client attached := by
    rw [none] at attached
    cases attached

end Presenter.Timely

/-- Whether a presenter and its service are in order, some time after the buffer had the
text `since`. -/
structure Desk.Timely (t : Timeline H buffer) (id : PresenterId) (since : Snapshot)
    (d : Desk (Recorded η)) : Prop where
  service : ∃ s, d.outliner = .background s ∧ s.Timely t (t.text d.host.host)
  buffer : d.presenter.buffer = buffer
  window : d.presenter.Timely t id d.host
  since : t.Follows since (t.text d.host.host)

namespace Desk.Timely

variable {since : Snapshot} {d : Desk (Recorded η)} {caller : Option PresenterId}

theorem follows_call (t : Timeline H buffer) {call : HostCall} {s s' : Recorded η}
    (after : ((H.recorded caller).answer call).after s = s') :
    t.Follows (t.text s.host) (t.text s'.host) := by
  rw [← after, Host.host_after_call]
  exact t.advances call s.host

theorem silent_call (id : PresenterId) {call : HostCall} {s s' : Recorded η}
    (silent : call.handed? = none)
    (after : ((H.recorded caller).answer call).after s = s') :
    ∃ more, s'.log = s.log ++ more ∧ Silent id more := by
  obtain ⟨outcome, log⟩ := Host.log_after_call H caller call s
  rw [after] at log
  exact ⟨_, log, fun r mem _ => List.mem_singleton.mp mem ▸ silent⟩

theorem call (h : d.Timely t id since) {call : HostCall} {host : Recorded η}
    (silent : call.handed? = none) (after : ((H.recorded caller).answer call).after d.host = host) :
    Desk.Timely t id since { d with host } := by
  obtain ⟨s, background, timely⟩ := h.service
  obtain ⟨more, log, quiet⟩ := silent_call id silent after
  have follows := follows_call t after
  exact ⟨⟨s, background, timely.mono follows⟩, h.buffer, h.window.extend log quiet follows,
    t.trans h.since follows⟩

/-- Time passes without calls. -/
theorem later (h : d.Timely t id since) {host : η}
    (follows : t.Follows (t.text d.host.host) (t.text host)) :
    Desk.Timely t id since { d with host := { d.host with host } } := by
  obtain ⟨s, background, timely⟩ := h.service
  exact ⟨⟨s, background, timely.mono follows⟩, h.buffer,
    h.window.extend (List.append_nil _).symm (fun _ mem => nomatch mem) follows,
    t.trans h.since follows⟩

/-- The presenter lets its client go. -/
theorem forget (h : d.Timely t id since) {p : Presenter} (none : p.client = none)
    (buffer : p.buffer = d.presenter.buffer) :
    Desk.Timely t id since { d with presenter := p } :=
  ⟨h.service, buffer.trans h.buffer, h.window.forget none, h.since⟩

/-- The present is as good a starting point as any. -/
theorem now (h : d.Timely t id since) : d.Timely t id (t.text d.host.host) :=
  ⟨h.service, h.buffer, h.window, t.refl _⟩

theorem parse (h : d.Timely t id since) {s : Service} (background : d.outliner = .background s)
    (snapshot : Snapshot) :
    Desk.Timely t id since { d with outliner := .background (s.parseNow snapshot).2 } := by
  obtain ⟨s', background', timely⟩ := h.service
  cases background.symm.trans background'
  refine ⟨⟨_, rfl, ?_⟩, h.buffer, h.window, h.since⟩
  exact ⟨timely.grammar, timely.latest, timely.parsing, timely.published, timely.queued⟩

/-- A call that makes a client, which is shown or not. -/
theorem make (h : d.Timely t id since) {outline : Outline}
    (knew : t.Knew (t.text d.host.host) outline)
    (newest : ∀ other ∈ handedBy id d.host.log, other.version ≤ outline.version)
    {factory : FactoryId} {window : WindowId} {outcome : Except Panic ClientId} {host : Recorded η}
    (log : host.log =
      d.host.log ++ [⟨some id, d.host.host, .createClient factory window outline, outcome⟩])
    (follows : t.Follows (t.text d.host.host) (t.text host.host))
    {p : Presenter} (buffer : p.buffer = d.presenter.buffer)
    (shows : ∀ client, p.client = some client →
      outcome = .ok client ∧ p.shown = some outline.version) :
    Desk.Timely t id since { d with presenter := p, host } := by
  obtain ⟨s, background, timely⟩ := h.service
  refine ⟨⟨s, background, timely.mono follows⟩, buffer.trans h.buffer, ?_, t.trans h.since follows⟩
  refine h.window.hand log rfl rfl rfl knew newest follows fun client attached => ?_
  obtain ⟨rfl, shown⟩ := shows client attached
  exact ⟨if_pos rfl, shown⟩

/-- The bag and the events do not matter. -/
theorem noted (h : d.Timely t id since) (bag : BufferBag) (trace : List Event) :
    Desk.Timely t id since { d with bag, trace } :=
  ⟨h.service, h.buffer, h.window, h.since⟩

variable (caller) in
/-- Offering a client makes no difference for outlines. -/
theorem offer {client : ClientId} {version : Nat} (unshown : d.Timely t id since)
    (shown : (d.showing client version).Timely t id since) :
    Desk.Timely t id since
      (after (fun d => Desk.offer (H.recorded caller) d client version) d) := by
  unfold after Desk.offer
  dsimp only
  cases added : (H.recorded caller).addBar d.presenter.bars d.presenter.priority client d.host with
  | error p host => exact unshown.call rfl (after_of_error added)
  | ok status host =>
    cases status with
    | ok _ => exact shown.call rfl (after_of_ok added)
    | error failure =>
      have refused := unshown.call rfl (after_of_ok added)
      dsimp only
      cases told : (H.recorded caller).unregisterClient client host with
      | error p host' => exact refused.call rfl (after_of_error told)
      | ok _ host' => exact (refused.call rfl (after_of_ok told)).noted d.bag _

theorem offerClient (h : d.Timely t id since) (none : d.presenter.client = none) :
    Desk.Timely t id since ((Desk.offerClient (H.recorded (some id))).after d) := by
  obtain ⟨s, background, timely⟩ := h.service
  have e := offerClient_background (H.recorded (some id)) d background
  cases taken : (H.recorded (some id)).snapshot d.presenter.buffer d.host with
  | error p host =>
    rw [taken] at e
    rw [after_of_error e]
    exact h.call rfl (after_of_error taken)
  | ok snapshot host =>
    rw [taken] at e
    dsimp only at e
    have current : snapshot = t.text d.host.host := t.reads (h.buffer ▸ (Host.recorded_ok taken).1)
    have parsed := (h.call rfl (after_of_ok taken)).parse background snapshot
    cases outlined : s.grammar.outline snapshot with
    | error p =>
      rw [outlined] at e
      rw [after_of_error e]
      exact parsed
    | ok outline =>
      rw [outlined] at e
      dsimp only at e
      have knew : t.Knew (t.text host.host) outline :=
        ⟨snapshot, timely.grammar snapshot outline outlined,
          current ▸ follows_call t (after_of_ok taken)⟩
      have newest : ∀ other ∈ handedBy id host.log, other.version ≤ outline.version := by
        obtain ⟨more, log, silent⟩ := silent_call id rfl (after_of_ok taken)
        rw [log, handedBy_append_silent silent, Grammar.outline_version outlined, current]
        exact fun other mem => (h.window.known other mem).version_le
      have making {p : Presenter} (same : p.buffer = d.presenter.buffer)
          {outcome : Except Panic ClientId} {host' : Recorded η}
          (log : host'.log = host.log ++ [⟨some id, host.host,
            .createClient d.presenter.factory d.presenter.window outline, outcome⟩])
          (follows : t.Follows (t.text host.host) (t.text host'.host)) :=
        parsed.make (p := p) knew newest log follows same
      cases made : (H.recorded (some id)).createClient d.presenter.factory d.presenter.window
          outline host with
      | error p host' =>
        rw [made] at e
        rw [after_of_error e]
        refine making rfl (Host.recorded_error made).2 (follows_call t (after_of_error made)) ?_
        exact fun client attached => nomatch none.symm.trans attached
      | ok client host' =>
        rw [made] at e
        have log := (Host.recorded_ok made).2
        have follows := follows_call t (after_of_ok made)
        have unshown := making rfl log follows fun _ attached => nomatch none.symm.trans attached
        have shown := making (p := { d.presenter with
          client := some client
          shown := some snapshot.version }) rfl log follows fun client' attached => by
            cases attached
            exact ⟨rfl, by rw [Grammar.outline_version outlined]⟩
        have offered := unshown.offer (some id) (shown.noted _ _)
        unfold after at offered ⊢
        rw [e]
        exact offered

/-- A completion that is not stale is at least as new as everything handed out. -/
theorem accept (h : d.Timely t id since) {completion : Completion}
    (knew : completion = .of completion.outline ∧ t.Knew (t.text d.host.host) completion.outline) :
    Desk.Timely t id since ((Desk.accept (H.recorded (some id)) completion).after d) := by
  have e := accept_eq (H.recorded (some id)) d completion
  cases attached : d.presenter.client with
  | none =>
    rw [attached] at e
    rw [after_of_ok e]
    exact h.noted _ _
  | some client =>
    rw [attached] at e
    dsimp only at e
    cases stale : d.staleAgainst completion with
    | some shown =>
      rw [stale] at e
      rw [after_of_ok e]
      exact h.noted _ _
    | none =>
      rw [stale] at e
      dsimp only at e
      obtain ⟨last, -, shown, -, newest⟩ := h.window.shows client attached
      have version : completion.version = completion.outline.version := by rw [knew.1]; rfl
      have fresh : last.version ≤ completion.outline.version := by
        unfold staleAgainst at stale
        rw [shown, Option.filter_eq_none_iff] at stale
        rw [← version]
        simpa using stale last.version rfl
      have updating {outcome : Except Panic Unit} {host : Recorded η}
          (log : host.log = d.host.log ++ [⟨some id, d.host.host,
            .updateClient client completion.outline, outcome⟩])
          (follows : t.Follows (t.text d.host.host) (t.text host.host)) :
          Desk.Timely t id since { d with
            presenter := { d.presenter with shown := some completion.version }, host } := by
        obtain ⟨s, background, timely⟩ := h.service
        refine ⟨⟨s, background, timely.mono follows⟩, h.buffer, ?_, t.trans h.since follows⟩
        refine h.window.hand log rfl rfl rfl knew.2
          (fun other mem => Nat.le_trans (newest other mem) fresh) follows
          fun client' attached' => ?_
        cases attached.symm.trans attached'
        exact ⟨if_pos rfl, by rw [version]⟩
      cases told : (H.recorded (some id)).updateClient client completion.outline d.host with
      | error p host =>
        rw [told] at e
        rw [after_of_error e]
        exact updating (Host.recorded_error told).2 (follows_call t (after_of_error told))
      | ok _ host =>
        rw [told] at e
        rw [after_of_ok e]
        exact updating (Host.recorded_ok told).2 (follows_call t (after_of_ok told))

/-- The completion at the front of a queue is of a text that the buffer had. -/
theorem take (h : d.Timely t id since) {completion : Completion} {outliner : Outliner}
    (taken : d.outliner.take? d.presenter.listener = some (completion, outliner)) :
    (completion = .of completion.outline ∧ t.Knew (t.text d.host.host) completion.outline) ∧
      Desk.Timely t id since { d with outliner } := by
  obtain ⟨s, background, timely⟩ := h.service
  rw [background] at taken
  obtain ⟨⟨completion', broadcast⟩, taken', e⟩ := Option.map_eq_some_iff.mp taken
  cases e
  have front : completion ∈ s.broadcast.queue d.presenter.listener := by
    rw [show s.broadcast.queue d.presenter.listener = _ from Broadcast.queue_take_self taken']
    exact List.mem_cons_self
  exact ⟨timely.queued d.presenter.listener completion front, ⟨_, rfl, timely.take taken'⟩,
    h.buffer, h.window, h.since⟩

theorem requestOutline (h : d.Timely t id since) :
    Desk.Timely t id since ((Desk.requestOutline (H.recorded (some id))).after d) := by
  obtain ⟨s, background, timely⟩ := h.service
  have e := requestOutline_eq (H.recorded (some id)) d
  cases taken : (H.recorded (some id)).snapshot d.presenter.buffer d.host with
  | error p host =>
    rw [taken] at e
    rw [after_of_error e]
    exact h.call rfl (after_of_error taken)
  | ok snapshot host =>
    rw [taken, background] at e
    rw [after_of_ok e]
    have follows := follows_call t (after_of_ok taken)
    have current : snapshot = t.text d.host.host := t.reads (h.buffer ▸ (Host.recorded_ok taken).1)
    obtain ⟨-, buffer, window, since⟩ := h.call rfl (after_of_ok taken)
    exact ⟨⟨_, rfl, (timely.mono follows).request (current ▸ follows)⟩, buffer, window, since⟩

end Desk.Timely

/-- Every operation of a presenter keeps it in order. -/
theorem Desk.upheld_timely (t : Timeline H buffer) (id : PresenterId) (since : Snapshot) :
    Desk.Upheld (H.recorded (some id)) (Desk.Timely t id since) where
  note d trace h := h.noted d.bag trace
  call _ _ _ after harmless h := h.call harmless.1 after
  detach := Desk.after_detach (fun _ _ _ after harmless h => h.call harmless.1 after)
    (fun _ h => h.forget rfl rfl) fun d h =>
      (h.forget (p := (d.released d.host).presenter) rfl rfl).noted (d.released d.host).bag _
  offer _ none h := h.offerClient none
  accept _ _ _ taken h := (h.take taken).2.accept (h.take taken).1

end OutlineBar
