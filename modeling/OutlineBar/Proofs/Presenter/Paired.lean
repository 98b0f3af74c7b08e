/-
The operations of a presenter on two desks at a time.

Take a relation between desks that every single thing an operation does keeps: a call to an
object of the presenter, a change of the client, an event, a parse, a completion taken.
`Paired` says that, and that the things come to the same on both desks.  Then attaching,
detaching and draining return the same on related desks and leave related desks.
-/
import OutlineBar.Proofs.Action.Both
import OutlineBar.Proofs.Presenter.Attachment

namespace OutlineBar

/-- Whether a call goes to an object of the presenter, or to a client that counts as its
own. -/
def HostCall.IsOwn (own : ClientId → Prop) (p : Presenter) : HostCall → Prop
  | .barSlot bars | .removeBar bars | .addBar bars .. => bars = p.bars
  | .createClient factory .. => factory = p.factory
  | .updateClient client _ | .unregisterClient client => own client
  | .snapshot buffer => buffer = p.buffer
  | .parse outliner _ => outliner = p.outliner
  | _ => False

namespace Desk

open OutlineBar.Action

variable {η : Type} {H : Host η} {own : ClientId → Prop} {p : Presenter}
  {R : Desk η → Desk η → Prop}

/-- A relation between desks of a presenter that was opened as `p`, which is kept by all that
attaching, detaching and draining are made of. -/
structure Paired (H : Host η) (own : ClientId → Prop) (p : Presenter)
    (R : Desk η → Desk η → Prop) : Prop where
  fixed : ∀ {d e}, R d e → d.presenter.fixed = p.fixed
  presenter : ∀ {d e}, R d e → e.presenter = d.presenter
  owns : ∀ {d e client}, R d e → d.presenter.client = some client → own client
  made : ∀ {window outline s client s'},
    H.createClient p.factory window outline s = .ok client s' → own client
  call : ∀ {d e} {call : HostCall}, R d e → call.IsOwn own p →
    Both (H.answer call) (H.answer call) d.host e.host fun _ host host' =>
      R { d with host } { e with host := host' }
  note : ∀ {d e} event, R d e →
    R { d with trace := d.trace ++ [event] } { e with trace := e.trace ++ [event] }
  write : ∀ {d e} {q : Presenter} (change : BufferBag → BufferBag), R d e → q.fixed = p.fixed →
    (∀ client, q.client = some client → own client) →
    R { d with presenter := q, bag := change d.bag } { e with presenter := q, bag := change e.bag }
  hosted : ∀ {d e b}, R d e → d.outliner = .hosted b → ∃ b', e.outliner = .hosted b'
  parse : ∀ {d e service} snapshot, R d e → d.outliner = .background service →
    ∃ service' outline, e.outliner = .background service' ∧
      service.grammar.outline snapshot = .ok outline ∧
      service'.grammar.outline snapshot = .ok outline ∧
      R { d with outliner := .background (service.parseNow snapshot).2 }
        { e with outliner := .background (service'.parseNow snapshot).2 }
  queue : ∀ {d e}, R d e →
    e.outliner.broadcast.queue p.listener = d.outliner.broadcast.queue p.listener
  take : ∀ {d e completion outliner}, R d e →
    d.outliner.take? p.listener = some (completion, outliner) →
    ∃ outliner', e.outliner.take? p.listener = some (completion, outliner') ∧
      R { d with outliner } { e with outliner := outliner' }

namespace Paired

variable (h : Paired H own p R) {d e : Desk η}
include h

theorem onHost {call : HostCall} (r : R d e) (isOwn : call.IsOwn own p) :
    Both (onHost (H.answer call)) (onHost (H.answer call)) d e fun _ d' e' =>
      R d' e' ∧ d'.presenter = d.presenter :=
  Both.zoom ((h.call r isOwn).imp fun _ _ _ r => ⟨r, rfl⟩)

theorem emit (event : Event) (r : R d e) :
    Both (emit event) (emit event) d e fun _ d' e' => R d' e' ∧ d'.presenter = d.presenter :=
  Both.modify ⟨h.note event r, rfl⟩

/-- A change of the presenter that the other desk makes too. -/
theorem update (change : Presenter → Presenter) (r : R d e)
    (fixed : (change d.presenter).fixed = d.presenter.fixed)
    (owns : ∀ client, (change d.presenter).client = some client → own client) :
    Both (updatePresenter change) (updatePresenter change) d e fun _ d' e' =>
      R d' e' ∧ d'.presenter = change d.presenter := by
  have written := h.write id r (fixed.trans (h.fixed r)) owns
  refine Both.modify ⟨?_, rfl⟩
  rw [h.presenter r]
  exact written

theorem changeBag (change : BufferBag → BufferBag) (r : R d e) :
    Both (modify fun d => { d with bag := change d.bag } : Action (Desk η) PUnit)
      (modify fun d => { d with bag := change d.bag }) d e fun _ d' e' =>
        R d' e' ∧ d'.presenter = d.presenter := by
  have written := h.write change r (h.fixed r) fun client => h.owns r
  have same : { e with presenter := d.presenter, bag := change e.bag } =
      { e with bag := change e.bag } := by
    rw [← h.presenter r]
  exact Both.modify ⟨same ▸ written, rfl⟩

theorem both_detach (r : R d e) :
    Both (Desk.detach H) (Desk.detach H) d e fun _ d' e' =>
      R d' e' ∧ d'.presenter.client = none := by
  unfold Desk.detach
  refine Both.get_bind ?_
  have removes : (HostCall.removeBar d.presenter.bars).IsOwn own p := bars_of_fixed (h.fixed r)
  rw [h.presenter r]
  cases attached : d.presenter.client with
  | none =>
    dsimp only
    rw [attached]
    exact Both.pure ⟨r, attached⟩
  | some client =>
    dsimp only
    rw [attached]
    have isOwn := h.owns r attached
    refine Both.bind (h.update (fun q => { q with client := none }) r rfl nofun) ?_
    rintro - d₁ e₁ ⟨r, p₁⟩
    refine Both.bind (h.onHost r isOwn) ?_
    rintro - d₂ e₂ ⟨r, p₂⟩
    have none : d₂.presenter.client = none := by rw [p₂, p₁]
    refine Both.bind (h.update (fun q => { q with shown := .none }) r rfl ?_) ?_
    · intro _ some
      cases none.symm.trans some
    rintro - d₃ e₃ ⟨r, p₃⟩
    refine Both.bind (h.changeBag (fun bag => (bag.remove .attachedBar).2) r) ?_
    rintro - d₄ e₄ ⟨r, p₄⟩
    refine Both.bind (h.emit _ r) ?_
    rintro - d₅ e₅ ⟨r, p₅⟩
    refine (h.onHost r removes).imp ?_
    rintro - d₆ e₆ ⟨r, p₆⟩
    refine ⟨r, ?_⟩
    rw [p₆, p₅, p₄, p₃]
    exact none

theorem both_detachPrevious (r : R d e) :
    Both (detachPrevious H) (detachPrevious H) d e fun _ d' e' =>
      R d' e' ∧ d'.presenter.client = none := by
  unfold detachPrevious
  refine Both.get_bind ?_
  rw [h.presenter r]
  cases attached : d.presenter.client with
  | none =>
    have unattached : d.presenter.isAttached = false := by rw [Presenter.isAttached, attached]; rfl
    dsimp only
    rw [unattached]
    exact Both.pure ⟨r, attached⟩
  | some client =>
    have isAttached : d.presenter.isAttached = true := by rw [Presenter.isAttached, attached]; rfl
    dsimp only
    rw [isAttached]
    refine Both.bind (h.both_detach r) ?_
    rintro status d₁ e₁ ⟨r, none⟩
    cases status with
    | ok _ => exact Both.pure ⟨r, none⟩
    | error failure =>
      refine (h.emit _ r).imp ?_
      rintro - d₂ e₂ ⟨r, p₂⟩
      exact ⟨r, p₂ ▸ none⟩

theorem both_clearSlot (r : R d e) :
    Both (clearSlot H) (clearSlot H) d e fun _ d' e' => R d' e' ∧ d'.presenter = d.presenter := by
  unfold clearSlot
  refine Both.get_bind ?_
  have asks : (HostCall.barSlot d.presenter.bars).IsOwn own p := bars_of_fixed (h.fixed r)
  have removes : (HostCall.removeBar d.presenter.bars).IsOwn own p := bars_of_fixed (h.fixed r)
  rw [h.presenter r]
  refine Both.bind (h.onHost r asks) ?_
  rintro answer d₁ e₁ ⟨r, p₁⟩
  rcases answer with failure | _ | slot
  · exact Both.pure ⟨r, p₁⟩
  · exact Both.pure ⟨r, p₁⟩
  · refine Both.bind (h.onHost r removes) ?_
    rintro status d₂ e₂ ⟨r, p₂⟩
    cases status with
    | ok _ => exact Both.pure ⟨r, p₂.trans p₁⟩
    | error failure =>
      refine Both.bind (h.emit _ r) ?_
      rintro - d₃ e₃ ⟨r, p₃⟩
      exact Both.pure ⟨r, p₃.trans (p₂.trans p₁)⟩

theorem both_outlineOf (snapshot : Snapshot) (r : R d e) :
    Both (outlineOf H snapshot) (outlineOf H snapshot) d e fun _ d' e' =>
      R d' e' ∧ d'.presenter = d.presenter := by
  have first := outlineOf_eq H d snapshot
  have second := outlineOf_eq H e snapshot
  cases kind : d.outliner with
  | hosted b =>
    obtain ⟨b', kind'⟩ := h.hosted r kind
    have parses : (HostCall.parse d.presenter.outliner snapshot).IsOwn own p :=
      outliner_of_fixed (h.fixed r)
    obtain ⟨outline, host, host', parsed, parsed', r'⟩ := h.call r parses
    rw [kind] at first
    rw [kind', h.presenter r] at second
    dsimp only [Host.parse] at first second
    rw [parsed] at first
    rw [parsed'] at second
    rw [kind, kind', h.presenter r] at r'
    exact ⟨outline, _, _, first, second, r', rfl⟩
  | background service =>
    obtain ⟨service', outline, kind', parsed, parsed', r'⟩ := h.parse snapshot r kind
    rw [kind] at first
    rw [kind'] at second
    dsimp only at first second
    rw [parsed] at first
    rw [parsed'] at second
    exact ⟨outline, _, _, first, second, r', rfl⟩

theorem both_offerClient (r : R d e) :
    Both (offerClient H) (offerClient H) d e fun _ d' e' => R d' e' := by
  unfold offerClient
  refine Both.get_bind ?_
  have reads : (HostCall.snapshot d.presenter.buffer).IsOwn own p := buffer_of_fixed (h.fixed r)
  have factory : d.presenter.factory = p.factory := factory_of_fixed (h.fixed r)
  have bars : d.presenter.bars = p.bars := bars_of_fixed (h.fixed r)
  rw [h.presenter r]
  refine Both.bind (h.onHost r reads) ?_
  rintro snapshot d₁ e₁ ⟨r, p₁⟩
  refine Both.bind (h.both_outlineOf snapshot r) ?_
  rintro outline d₂ e₂ ⟨r, p₂⟩
  have makes : (HostCall.createClient d.presenter.factory d.presenter.window outline).IsOwn own p :=
    factory
  -- The client is the presenter's own, because the factory made it.
  have making : Both (Desk.onHost (H.createClient d.presenter.factory d.presenter.window outline))
      (Desk.onHost (H.createClient d.presenter.factory d.presenter.window outline)) d₂ e₂
      fun client d' e' => (R d' e' ∧ d'.presenter = d₂.presenter) ∧ own client := by
    obtain ⟨client, d₃, e₃, made, made', r'⟩ := h.onHost r makes
    obtain ⟨host, creates, -⟩ := zoom_eq_ok made
    exact ⟨client, d₃, e₃, made, made', r', h.made (factory ▸ creates)⟩
  refine Both.bind making ?_
  rintro client d₃ e₃ ⟨⟨r, p₃⟩, isOwn⟩
  have offers : (HostCall.addBar d.presenter.bars d.presenter.priority client).IsOwn own p := bars
  refine Both.bind (h.onHost r offers) ?_
  rintro status d₄ e₄ ⟨r, p₄⟩
  cases status with
  | ok _ =>
    refine Both.bind (h.changeBag (fun bag => (bag.insert .attachedBar client).2) r) ?_
    rintro - d₅ e₅ ⟨r, p₅⟩
    refine Both.bind (h.update
      (fun q => { q with client := some client, shown := some snapshot.version }) r rfl ?_) ?_
    · rintro _ ⟨⟩
      exact isOwn
    rintro - d₆ e₆ ⟨r, p₆⟩
    refine Both.bind (h.emit _ r) ?_
    rintro - d₇ e₇ ⟨r, p₇⟩
    exact Both.pure r
  | error failure =>
    have releases : (HostCall.unregisterClient client).IsOwn own p := isOwn
    refine Both.bind (h.onHost r releases) ?_
    rintro - d₅ e₅ ⟨r, p₅⟩
    refine Both.bind (h.emit _ r) ?_
    rintro - d₆ e₆ ⟨r, p₆⟩
    exact Both.pure r

theorem both_attach (r : R d e) :
    Both (Desk.attach H) (Desk.attach H) d e fun _ d' e' => R d' e' := by
  unfold Desk.attach
  refine Both.bind (h.both_detachPrevious r) ?_
  rintro - d₁ e₁ ⟨r, -⟩
  refine Both.bind (h.both_clearSlot r) ?_
  rintro status d₂ e₂ ⟨r, -⟩
  cases status with
  | error failure => exact Both.pure r
  | ok _ => exact h.both_offerClient r

/-! ### Completions -/

theorem both_accept (completion : Completion) (r : R d e) :
    Both (Desk.accept H completion) (Desk.accept H completion) d e fun _ d' e' => R d' e' := by
  unfold Desk.accept
  refine Both.get_bind ?_
  rw [h.presenter r]
  cases attached : d.presenter.client with
  | none =>
    dsimp only
    rw [attached]
    refine Both.bind (h.emit _ r) ?_
    rintro - d₁ e₁ ⟨r, -⟩
    exact Both.pure r
  | some client =>
    have isOwn := h.owns r attached
    dsimp only
    rw [attached]
    dsimp only
    split
    · refine Both.bind (h.emit _ r) ?_
      rintro - d₁ e₁ ⟨r, -⟩
      exact Both.pure r
    · have updates : (HostCall.updateClient client completion.outline).IsOwn own p := isOwn
      refine Both.bind (h.update (fun q => { q with shown := some completion.version }) r rfl
        fun _ => h.owns r) ?_
      rintro - d₁ e₁ ⟨r, -⟩
      refine Both.bind (h.onHost r updates) ?_
      rintro - d₂ e₂ ⟨r, -⟩
      exact Both.pure r

theorem both_drainUpTo (bound : Nat) (r : R d e) :
    Both (drainUpTo H bound) (drainUpTo H bound) d e fun _ d' e' => R d' e' := by
  induction bound generalizing d e with
  | zero => exact Both.pure r
  | succ bound ih =>
    have listener : d.presenter.listener = p.listener := listener_of_fixed (h.fixed r)
    have first := drainUpTo_succ H d bound
    have second := drainUpTo_succ H e bound
    rw [listener] at first
    rw [h.presenter r, listener] at second
    cases taken : d.outliner.take? p.listener with
    | none =>
      have taken' : e.outliner.take? p.listener = none := by
        have queue := h.queue r
        unfold Outliner.take? Broadcast.take? at taken ⊢
        rw [queue]
        cases queued : d.outliner.broadcast.queue p.listener with
        | nil => rfl
        | cons completion rest =>
          rw [queued] at taken
          cases taken
      rw [taken] at first
      rw [taken'] at second
      exact ⟨0, d, e, first, second, r⟩
    | some next =>
      obtain ⟨outliner', taken', r'⟩ := h.take r taken
      rw [taken] at first
      rw [taken'] at second
      rw [h.presenter r] at r'
      unfold Both
      rw [first, second]
      refine Both.bind (h.both_accept next.1 r') fun accepted d₁ e₁ r => ?_
      exact Both.bind (ih r) fun more d₂ e₂ r => Both.pure r

theorem both_drain (r : R d e) :
    Both (Desk.drain H) (Desk.drain H) d e fun _ d' e' => R d' e' := by
  unfold Desk.drain
  refine Both.get_bind ?_
  have listener : d.presenter.listener = p.listener := listener_of_fixed (h.fixed r)
  rw [h.presenter r, listener, h.queue r]
  exact h.both_drainUpTo _ r

end Paired

end Desk

end OutlineBar
