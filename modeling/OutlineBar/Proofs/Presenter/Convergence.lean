/-
A window on the way to one outline.

Once the outline of a text was asked for, nothing that a presenter does loses it, as long as
the text stays the same.  The service heads for it; then it stands at the end of the
presenter's queue; then the attached client shows it.  A client that is attached in between
shows it from the start.  `Converging` says where the outline is, and every operation keeps
it.

That the outline is never refused as stale, and that a client that shows its version shows
this very outline, comes from `Timely`, for a timeline in which every edit gives a higher
version.
-/
import OutlineBar.Proofs.Presenter.Timely
import OutlineBar.Proofs.Service.Heading

namespace OutlineBar

open OutlineBar.Action

variable {η : Type} {H : Host η} {buffer : BufferId} {t : Timeline H buffer} {id : PresenterId}
  {grammar : Grammar} {target : Snapshot}

/-- Whether every edit gives a higher version, and outlines are those of one grammar. -/
structure Timeline.Strict (t : Timeline H buffer) (grammar : Grammar) : Prop where
  eq_of_version_le : ∀ {a b}, t.Follows a b → b.version ≤ a.version → a = b
  outlines : ∀ {a outline}, t.Outlines a outline → grammar.outline a = .ok outline

namespace Desk

variable {d d' : Desk (Recorded η)}

/-- Whether the client shows a version, or an outline of it is the last one in the queue. -/
def Delivered (target : Snapshot) (outline : Outline) (queue : List Completion) (p : Presenter) :
    Prop :=
  queue.getLast? = some (.of outline) ∨
    queue = [] ∧ ∀ client, p.client = some client → p.shown = some target.version

/-- Taking the front of the queue delivers its last completion to the client. -/
theorem Delivered.accept {outline : Outline} {completion : Completion} {rest : List Completion}
    {p p' : Presenter} (h : Delivered target outline (completion :: rest) p)
    (shows : completion = .of outline → ∀ client, p'.client = some client →
      p'.shown = some target.version) : Delivered target outline rest p' := by
  rcases h with last | ⟨empty, -⟩
  · cases rest with
    | nil => exact .inr ⟨rfl, shows (Option.some.inj last)⟩
    | cons next rest => exact .inl (by rwa [List.getLast?_cons_cons] at last)
  · cases empty

/-- Whether a presenter is on the way to the outline that it awaits, if it awaits one. -/
structure Converging (t : Timeline H buffer) (id : PresenterId) (grammar : Grammar)
    (target : Snapshot) (awaited : Option Outline) (d : Desk (Recorded η)) : Prop where
  timely : d.Timely t id target
  service : ∃ s, d.outliner = .background s ∧ s.Ready grammar d.presenter.listener ∧
    ∀ outline, awaited = some outline → t.text d.host.host = target →
      s.Heads target (Delivered target outline (s.broadcast.queue d.presenter.listener) d.presenter)

/-! ## Where operations leave the presenter -/

theorem offerClient_result (H : Host η) {d : Desk η} {s : Service} {version : Nat}
    (background : d.outliner = .background s) (none : d.presenter.client = none)
    (reads : ∀ snapshot host, H.snapshot d.presenter.buffer d.host = .ok snapshot host →
      snapshot.version = version) :
    (∃ started, ((offerClient H).after d).outliner = .background { s with started }) ∧
      ((offerClient H).after d).presenter.listener = d.presenter.listener ∧
      ∀ client, ((offerClient H).after d).presenter.client = some client →
        ((offerClient H).after d).presenter.shown = some version := by
  have e := offerClient_background H d background
  have unchanged (client : ClientId) (attached : d.presenter.client = some client) :
      d.presenter.shown = some version := nomatch none.symm.trans attached
  cases taken : H.snapshot d.presenter.buffer d.host with
  | error p host =>
    rw [taken] at e
    rw [after_of_error e]
    exact ⟨⟨s.started, background⟩, rfl, unchanged⟩
  | ok snapshot host =>
    rw [taken] at e
    dsimp only at e
    cases outlined : s.grammar.outline snapshot with
    | error p =>
      rw [outlined] at e
      rw [after_of_error e]
      exact ⟨⟨s.started + 1, rfl⟩, rfl, unchanged⟩
    | ok outline =>
      rw [outlined] at e
      dsimp only at e
      cases made : H.createClient d.presenter.factory d.presenter.window outline host with
      | error p host' =>
        rw [made] at e
        rw [after_of_error e]
        exact ⟨⟨s.started + 1, rfl⟩, rfl, unchanged⟩
      | ok client host' =>
        rw [made] at e
        dsimp only [offer] at e
        cases added : H.addBar d.presenter.bars d.presenter.priority client host' with
        | error p host'' =>
          rw [added] at e
          rw [after_of_error e]
          exact ⟨⟨s.started + 1, rfl⟩, rfl, unchanged⟩
        | ok status host'' =>
          rw [added] at e
          cases status with
          | ok _ =>
            rw [after_of_ok e]
            exact ⟨⟨s.started + 1, rfl⟩, rfl, fun _ _ => congrArg some (reads snapshot host taken)⟩
          | error failure =>
            dsimp only at e
            cases told : H.unregisterClient client host'' with
            | error p host =>
              rw [told] at e
              rw [after_of_error e]
              exact ⟨⟨s.started + 1, rfl⟩, rfl, unchanged⟩
            | ok _ host =>
              rw [told] at e
              rw [after_of_ok e]
              exact ⟨⟨s.started + 1, rfl⟩, rfl, unchanged⟩

/-! ## Draining -/

/-- A drain empties the queue and leaves the loop alone, if no client panics. -/
theorem drainUpTo_returns {H : Host η}
    (updates : ∀ client outline s, ∃ s', H.updateClient client outline s = .ok () s') (bound : Nat)
    {d : Desk η} {s : Service} (background : d.outliner = .background s)
    (length : (s.broadcast.queue d.presenter.listener).length = bound) :
    ∃ taken d' broadcast, drainUpTo H bound d = .ok taken d' ∧
      d'.outliner = .background { s with broadcast } ∧
      broadcast.queue d'.presenter.listener = [] ∧ d'.presenter.client = d.presenter.client := by
  induction bound generalizing d s with
  | zero => exact ⟨0, d, s.broadcast, rfl, background, List.length_eq_zero_iff.mp length, rfl⟩
  | succ bound ih =>
    obtain ⟨completion, rest, queued⟩ := List.exists_cons_of_length_eq_add_one length
    obtain ⟨broadcast, taken⟩ := Broadcast.exists_take queued
    have taken' : d.outliner.take? d.presenter.listener =
        some (completion, .background { s with broadcast }) := by
      rw [background]
      show (s.broadcast.take? _).map _ = _
      rw [taken]
      rfl
    obtain ⟨accepted, d₁, told⟩ := accept_returns updates completion
      { d with outliner := .background { s with broadcast } }
    obtain ⟨outliner, result⟩ := accept_result H
      { d with outliner := .background { s with broadcast } } completion
    rw [after_of_ok told] at outliner result
    have same : d₁.presenter.listener = d.presenter.listener ∧
        d₁.presenter.client = d.presenter.client := by
      rcases result with ⟨same, -⟩ | changed
      · rw [same]
        exact ⟨rfl, rfl⟩
      · rw [changed]
        exact ⟨rfl, rfl⟩
    obtain ⟨more, d₂, broadcast₂, drained, outliner₂, empty, client⟩ := ih outliner (by
      rw [same.1]
      have := Broadcast.queue_take_self taken
      rw [queued] at this length
      cases this
      exact Nat.succ.inj length)
    refine ⟨more + (if accepted then 1 else 0), d₂, broadcast₂, ?_, outliner₂, empty,
      client.trans same.2⟩
    rw [drainUpTo_succ, taken']
    dsimp only
    rw [bind_apply, told]
    dsimp only
    rw [bind_apply, drained]
    rfl

namespace Converging

variable {awaited : Option Outline}

/-- Texts between `target` and `target` are `target`. -/
theorem unedited (strict : t.Strict grammar) {a b : Snapshot} (since : t.Follows target a)
    (follows : t.Follows a b) (same : b = target) : a = target :=
  (strict.eq_of_version_le since (same ▸ t.version_le follows)).symm

/-- A change that leaves the service alone, and shows at least as much. -/
theorem change (strict : t.Strict grammar) (h : d.Converging t id grammar target awaited)
    {p : Presenter} {host : Recorded η}
    (timely : Desk.Timely t id target { d with presenter := p, host })
    (follows : t.Follows (t.text d.host.host) (t.text host.host))
    (listener : p.listener = d.presenter.listener)
    (shows : t.text host.host = target → ∀ client, p.client = some client →
      p.shown = some target.version ∨
        d.presenter.client = some client ∧ p.shown = d.presenter.shown) :
    Converging t id grammar target awaited { d with presenter := p, host } := by
  obtain ⟨s, background, ready, heads⟩ := h.service
  refine ⟨timely, s, background, listener ▸ ready, fun outline awaits same => ?_⟩
  have before := unedited strict h.timely.since follows same
  refine (heads outline awaits before).imp ?_
  show _ → Delivered target outline (s.broadcast.queue p.listener) p
  rw [listener]
  refine Or.imp_right fun ⟨empty, shown⟩ => ⟨empty, fun client attached => ?_⟩
  rcases shows same client attached with showing | ⟨attached', shown'⟩
  · exact showing
  · rw [shown']
    exact shown client attached'

/-- The presenter lets its client go. -/
theorem forget (strict : t.Strict grammar) (h : d.Converging t id grammar target awaited)
    {p : Presenter} (none : p.client = none) (buffer : p.buffer = d.presenter.buffer)
    (listener : p.listener = d.presenter.listener) :
    Converging t id grammar target awaited { d with presenter := p } :=
  h.change strict (h.timely.forget none buffer) (t.refl _) listener
    fun _ _ attached => nomatch none.symm.trans attached

/-- The bag and the events do not matter. -/
theorem noted (h : d.Converging t id grammar target awaited) (bag : BufferBag)
    (trace : List Event) :
    Converging t id grammar target awaited { d with bag, trace } :=
  ⟨h.timely.noted bag trace, h.service⟩

theorem call (strict : t.Strict grammar) (h : d.Converging t id grammar target awaited)
    {caller : Option PresenterId} {call : HostCall} {host : Recorded η}
    (silent : call.handed? = none) (after : ((H.recorded caller).answer call).after d.host = host) :
    Converging t id grammar target awaited { d with host } :=
  h.change strict (h.timely.call silent after) (Timely.follows_call t after) rfl
    fun _ _ attached => .inr ⟨attached, rfl⟩

/-- A new client shows the text that the buffer had when the offer began. -/
theorem offerClient (strict : t.Strict grammar) (h : d.Converging t id grammar target awaited)
    (none : d.presenter.client = none) :
    Converging t id grammar target awaited ((Desk.offerClient (H.recorded (some id))).after d) := by
  obtain ⟨s, background, ready, heads⟩ := h.service
  have follows := (h.timely.now.offerClient none).since
  have reads : ∀ snapshot host,
      (H.recorded (some id)).snapshot d.presenter.buffer d.host = .ok snapshot host →
        snapshot.version = (t.text d.host.host).version := fun snapshot host taken =>
    congrArg Snapshot.version (t.reads (h.timely.buffer ▸ (Host.recorded_ok taken).1))
  obtain ⟨⟨started, outliner⟩, listener, shows⟩ :=
    offerClient_result (H.recorded (some id)) background none reads
  refine ⟨h.timely.offerClient none, _, outliner, ?_, fun outline awaits same => ?_⟩
  · rw [listener]
    exact ⟨ready.grammar, ready.hears, ready.seen_le⟩
  · have before := unedited strict h.timely.since follows same
    rw [listener]
    refine Service.Heads.imp (heads outline awaits before) ?_
    exact Or.imp_right fun ⟨empty, _⟩ =>
      ⟨empty, fun client attached => before ▸ shows client attached⟩

/-- The outline that is awaited is not refused. -/
theorem accept (strict : t.Strict grammar)
    (parsed : ∀ outline, awaited = some outline → grammar.outline target = .ok outline)
    (h : d.Converging t id grammar target awaited) {completion : Completion} {outliner : Outliner}
    (taken : d.outliner.take? d.presenter.listener = some (completion, outliner)) :
    Converging t id grammar target awaited
      ((Desk.accept (H.recorded (some id)) completion).after { d with outliner }) := by
  have timely := (h.timely.take taken).2.accept (h.timely.take taken).1
  have follows := ((h.timely.now.take taken).2.accept (h.timely.take taken).1).since
  obtain ⟨s, background, ready, heads⟩ := h.service
  rw [background] at taken
  obtain ⟨⟨completion', broadcast⟩, taken', e⟩ := Option.map_eq_some_iff.mp taken
  cases e
  obtain ⟨outliner, result⟩ := accept_result (H.recorded (some id))
    { d with outliner := (Outliner.background s).withBroadcast broadcast } completion
  have listener : ((Desk.accept (H.recorded (some id)) completion).after
      { d with outliner := (Outliner.background s).withBroadcast broadcast }).presenter.listener =
      d.presenter.listener := by
    rcases result with ⟨same, -⟩ | changed
    · rw [same]
    · rw [changed]
  refine ⟨timely, { s with broadcast }, outliner, ?_, fun outline awaits same => ?_⟩
  · rw [listener]
    exact ⟨ready.grammar, (Broadcast.hears_take taken').mpr ready.hears, ready.seen_le⟩
  · have before := unedited strict h.timely.since follows same
    have version : outline.version = target.version :=
      Grammar.outline_version (parsed outline awaits)
    rw [listener]
    refine Service.Heads.imp (heads outline awaits before) fun delivered => ?_
    rw [show s.broadcast.queue _ = _ from Broadcast.queue_take_self taken'] at delivered
    refine delivered.accept fun last client attached => ?_
    subst last
    rcases result with ⟨same, none | ⟨shown, stale⟩⟩ | changed
    · rw [same] at attached
      cases none.symm.trans attached
    · -- What the client shows is of a text that the buffer had, so it is not newer.
      rw [same] at attached
      obtain ⟨last, -, shows, knew, -⟩ := h.timely.window.shows client attached
      obtain ⟨shows', older⟩ := Option.filter_eq_some_iff.mp stale
      cases shows.symm.trans shows'
      have := knew.version_le
      rw [before] at this
      have older : outline.version < last.version := of_decide_eq_true older
      omega
    · rw [changed]
      exact congrArg some version

theorem requestOutline (strict : t.Strict grammar) (h : d.Converging t id grammar target awaited) :
    Converging t id grammar target awaited
      ((Desk.requestOutline (H.recorded (some id))).after d) := by
  obtain ⟨s, background, ready, heads⟩ := h.service
  have e := requestOutline_eq (H.recorded (some id)) d
  have timely := h.timely.requestOutline
  cases taken : (H.recorded (some id)).snapshot d.presenter.buffer d.host with
  | error p host =>
    rw [taken] at e
    rw [after_of_error e]
    exact h.call strict rfl (after_of_error taken)
  | ok snapshot host =>
    rw [taken, background] at e
    rw [after_of_ok e] at timely ⊢
    refine ⟨timely, _, rfl, ready.request snapshot, fun outline awaits same => ?_⟩
    have current : snapshot = t.text d.host.host :=
      t.reads (h.timely.buffer ▸ (Host.recorded_ok taken).1)
    have follows := Timely.follows_call t (after_of_ok taken)
    rw [current, unedited strict h.timely.since follows same]
    exact ready.heads target _

/-- A move of the loop. -/
theorem moved (parsed : ∀ outline, awaited = some outline → grammar.outline target = .ok outline)
    (h : d.Converging t id grammar target awaited) {s s' : Service} {m : LoopMove}
    {events : List Event} (background : d.outliner = .background s) (moves : s.Moves m s' events)
    (trace : List Event) :
    Converging t id grammar target awaited { d with outliner := .background s', trace } := by
  obtain ⟨s₁, background₁, ready, heads⟩ := h.service
  cases background.symm.trans background₁
  obtain ⟨s₂, background₂, service⟩ := h.timely.service
  cases background.symm.trans background₂
  refine ⟨⟨⟨s', rfl, service.moved moves⟩, h.timely.buffer, h.timely.window, h.timely.since⟩,
    s', rfl, ready.moved moves, fun outline awaits same => ?_⟩
  refine (heads outline awaits same).moved moves (fun version last => ?_)
    (by rw [ready.grammar]; exact parsed outline awaits) (fun kept delivered => ?_)
    fun published => ?_
  · rw [← same]
    exact service.published version last
  · rw [kept]
    exact delivered
  · rw [published, Broadcast.queue_publish ready.hears]
    exact .inl List.getLast?_concat

theorem shutdown (h : d.Converging t id grammar target awaited) {s : Service}
    (background : d.outliner = .background s) (trace : List Event) :
    Converging t id grammar target awaited
      { d with outliner := .background s.shutdown, trace } := by
  obtain ⟨s₁, background₁, ready, heads⟩ := h.service
  cases background.symm.trans background₁
  obtain ⟨s₂, background₂, service⟩ := h.timely.service
  cases background.symm.trans background₂
  have timely : Desk.Timely t id target { d with outliner := .background s.shutdown, trace } :=
    ⟨⟨_, rfl, service.shutdown⟩, h.timely.buffer, h.timely.window, h.timely.since⟩
  exact ⟨timely, _, rfl, ⟨ready.grammar, ready.hears, ready.seen_le⟩, heads⟩

/-- A request for the text that the buffer has. -/
theorem requested (h : d.Converging t id grammar target none)
    (asks : Desk.requestOutline (H.recorded (some id)) d = .ok () d') (awaited : Option Outline) :
    d'.Converging t id grammar (t.text d.host.host) awaited := by
  obtain ⟨s, background, ready, -⟩ := h.service
  have timely := h.timely.now.requestOutline
  rw [after_of_ok asks] at timely
  rw [requestOutline_eq] at asks
  cases taken : (H.recorded (some id)).snapshot d.presenter.buffer d.host with
  | error p host =>
    rw [taken] at asks
    cases asks
  | ok snapshot host =>
    rw [taken, background] at asks
    cases asks
    have current : snapshot = t.text d.host.host :=
      t.reads (h.timely.buffer ▸ (Host.recorded_ok taken).1)
    exact ⟨timely, _, rfl, ready.request snapshot, fun _ _ _ => current ▸ ready.heads snapshot _⟩

/-- When the loop rests and the queue is empty, the client has got the outline. -/
theorem given (strict : t.Strict grammar) {outline : Outline}
    (h : d.Converging t id grammar target (some outline))
    (parsed : grammar.outline target = .ok outline) {s : Service}
    (background : d.outliner = .background s) (waits : s.phase = .waiting)
    (known : s.requests.hasUnseen = false) (empty : s.broadcast.queue d.presenter.listener = [])
    (unchanged : t.text d.host.host = target) {client : ClientId}
    (attached : d.presenter.client = some client) :
    (givenTo id client d.host.log).getLast? = some outline := by
  obtain ⟨s', background', -, heads⟩ := h.service
  cases background.symm.trans background'
  obtain ⟨-, stage⟩ := heads outline rfl unchanged
  rw [waits, known, empty] at stage
  obtain unseen | last | ⟨-, shown⟩ := stage
  · cases unseen
  · cases last
  · obtain ⟨given, last, shows, ⟨snapshot, outlines, follows⟩, -⟩ :=
      h.timely.window.shows client attached
    -- The client shows an outline of a text with the version of `target`, so of that text.
    have version : given.version = target.version :=
      Option.some.inj (shows.symm.trans (shown client attached))
    rw [t.version_eq outlines] at version
    rw [unchanged] at follows
    have same := strict.eq_of_version_le follows (Nat.le_of_eq version.symm)
    have outlined := strict.outlines outlines
    rw [same, parsed] at outlined
    rw [last, Except.ok.inj outlined]

end Converging

theorem upheld_converging (strict : t.Strict grammar) {awaited : Option Outline}
    (parsed : ∀ outline, awaited = some outline → grammar.outline target = .ok outline) :
    Upheld (H.recorded (some id)) (Converging t id grammar target awaited) where
  note d trace h := h.noted d.bag trace
  call _ _ _ after harmless h := h.call strict harmless.1 after
  detach := after_detach (fun _ _ _ after harmless h => h.call strict harmless.1 after)
    (fun _ h => h.forget strict rfl rfl rfl) fun d h =>
      (h.forget (p := (d.released d.host).presenter) strict rfl rfl rfl).noted
        (d.released d.host).bag _
  offer _ none h := h.offerClient strict none
  accept _ _ _ taken h := h.accept strict parsed taken

end Desk

end OutlineBar
