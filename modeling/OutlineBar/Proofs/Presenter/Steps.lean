/-
The operations of a presenter, call by call.

Each equation says where an operation ends when a call to the host answers in one way or
another, or panics.  Proofs about operations start from these equations and never open
the operations themselves.
-/
import OutlineBar.Presenter.Attach
import OutlineBar.Presenter.Completions
import OutlineBar.Proofs.Action.Keeps

namespace OutlineBar

namespace Action

variable {σ : Type}

theorem get_apply (s : σ) : (get : Action σ σ) s = .ok s s := rfl

theorem set_apply (s t : σ) : (set t : Action σ PUnit) s = .ok ⟨⟩ t := rfl

theorem modify_apply (change : σ → σ) (s : σ) :
    (modify change : Action σ PUnit) s = .ok ⟨⟩ (change s) := rfl

end Action

namespace Desk

open OutlineBar.Action

variable {η α : Type}

theorem onHost_apply (act : Action η α) (d : Desk η) :
    onHost act d =
      match act d.host with
      | .ok a host => .ok a { d with host }
      | .error p host => .error p { d with host } := rfl

theorem updatePresenter_apply (change : Presenter → Presenter) (d : Desk η) :
    updatePresenter change d = .ok ⟨⟩ { d with presenter := change d.presenter } := rfl

theorem emit_apply (event : Event) (d : Desk η) :
    emit event d = .ok ⟨⟩ { d with trace := d.trace ++ [event] } := rfl

variable (H : Host η) (d : Desk η)

/-! ## Detaching -/

/-- The desk after its client was released. -/
def released (host : η) : Desk η :=
  { d with
    presenter := { d.presenter with client := none, shown := none }
    bag := (d.bag.remove .attachedBar).2
    host
    trace := d.trace ++ [.detached d.presenter.window] }

theorem detach_eq :
    detach H d =
      match d.presenter.client with
      | none => .ok (.ok ()) d
      | some client =>
        match H.unregisterClient client d.host with
        | .error p host =>
          .error p { d with presenter := { d.presenter with client := none }, host }
        | .ok () host =>
          match H.removeBar d.presenter.bars host with
          | .error p host => .error p (d.released host)
          | .ok status host => .ok status (d.released host) := by
  unfold detach
  simp only [bind_apply, get_apply]
  cases d.presenter.client with
  | none => rfl
  | some client =>
    simp only [bind_apply, updatePresenter_apply, onHost_apply]
    cases H.unregisterClient client d.host with
    | error p host => rfl
    | ok a host =>
      simp only [modify_apply, emit_apply]
      cases H.removeBar d.presenter.bars host <;> rfl

/-! ## Attaching -/

theorem clearSlot_eq :
    clearSlot H d =
      match H.barSlot d.presenter.bars d.host with
      | .error p host => .error p { d with host }
      | .ok (.ok (some slot)) host =>
        match H.removeBar d.presenter.bars host with
        | .error p host => .error p { d with host }
        | .ok (.ok ()) host => .ok (.ok ()) { d with host }
        | .ok (.error failure) host => .ok (.error failure) { d with
            host
            trace := d.trace ++ [.occupantNotRemoved d.presenter.window slot failure] }
      | .ok _ host => .ok (.ok ()) { d with host } := by
  unfold clearSlot
  simp only [bind_apply, get_apply, onHost_apply]
  cases H.barSlot d.presenter.bars d.host with
  | error p host => rfl
  | ok answer host =>
    rcases answer with failure | _ | slot
    · rfl
    · rfl
    · simp only [bind_apply, onHost_apply]
      cases H.removeBar d.presenter.bars host with
      | error p host => rfl
      | ok status host => cases status <;> rfl

theorem outlineOf_eq (snapshot : Snapshot) :
    outlineOf H snapshot d =
      match d.outliner with
      | .hosted _ =>
        match H.parse d.presenter.outliner snapshot d.host with
        | .ok outline host => .ok outline { d with host }
        | .error p host => .error p { d with host }
      | .background service =>
        let outliner := .background (service.parseNow snapshot).2
        match service.grammar.outline snapshot with
        | .ok outline => .ok outline { d with outliner }
        | .error p => .error p { d with outliner } := by
  obtain ⟨presenter, outliner, bag, host, trace⟩ := d
  unfold outlineOf
  simp only [bind_apply, get_apply]
  cases outliner with
  | hosted broadcast =>
    simp only [onHost_apply]
    cases H.parse presenter.outliner snapshot host <;> rfl
  | background service =>
    simp only [bind_apply, set_apply, Service.parseNow]
    cases service.grammar.outline snapshot <;> rfl

/-- The desk after the host took a client. -/
def showing (client : ClientId) (version : Nat) : Desk η :=
  { d with
    presenter := { d.presenter with client := some client, shown := some version }
    bag := (d.bag.insert .attachedBar client).2
    trace := d.trace ++ [.attached d.presenter.window version] }

/-- What becomes of a client that is offered to the host. -/
def offer (client : ClientId) (version : Nat) : EStateM.Result Panic (Desk η) HostStatus :=
  match H.addBar d.presenter.bars d.presenter.priority client d.host with
  | .error p host => .error p { d with host }
  | .ok (.ok ()) host => .ok (.ok ()) (showing { d with host } client version)
  | .ok (.error failure) host =>
    match H.unregisterClient client host with
    | .error p host => .error p { d with host }
    | .ok () host =>
      .ok (.error failure)
        { d with host, trace := d.trace ++ [.attachFailed d.presenter.window failure] }

theorem outlineOf_presenter {snapshot : Snapshot} {outline : Outline} {d d' : Desk η}
    (h : outlineOf H snapshot d = .ok outline d') : d'.presenter = d.presenter := by
  rw [outlineOf_eq] at h
  split at h <;> split at h <;> cases h <;> rfl

theorem offerClient_eq :
    offerClient H d =
      match H.snapshot d.presenter.buffer d.host with
      | .error p host => .error p { d with host }
      | .ok snapshot host =>
        match outlineOf H snapshot { d with host } with
        | .error p d => .error p d
        | .ok outline d =>
          match H.createClient d.presenter.factory d.presenter.window outline d.host with
          | .error p host => .error p { d with host }
          | .ok client host => offer H { d with host } client snapshot.version := by
  unfold offerClient
  simp only [bind_apply, get_apply, onHost_apply]
  cases H.snapshot d.presenter.buffer d.host with
  | error p host => rfl
  | ok snapshot host =>
    simp only []
    cases outlined : outlineOf H snapshot { d with host } with
    | error p d => rfl
    | ok outline d' =>
      have same := outlineOf_presenter H outlined
      simp only [same]
      cases H.createClient d.presenter.factory d.presenter.window outline d'.host with
      | error p host => rfl
      | ok client host =>
        simp only [offer]
        cases H.addBar d.presenter.bars d.presenter.priority client host with
        | error p host => rfl
        | ok status host =>
          cases status with
          | ok _ =>
            simp only [bind_apply, modify_apply, updatePresenter_apply, emit_apply, pure_apply,
              showing]
          | error failure =>
            simp only [bind_apply, onHost_apply]
            cases H.unregisterClient client host <;> rfl

/-- A service parses beside its loop, and nobody else is asked. -/
theorem offerClient_background {s : Service} (background : d.outliner = .background s) :
    offerClient H d =
      match H.snapshot d.presenter.buffer d.host with
      | .error p host => .error p { d with host }
      | .ok snapshot host =>
        let outliner := .background (s.parseNow snapshot).2
        match s.grammar.outline snapshot with
        | .error p => .error p { d with outliner, host }
        | .ok outline =>
          match H.createClient d.presenter.factory d.presenter.window outline host with
          | .error p host => .error p { d with outliner, host }
          | .ok client host => offer H { d with outliner, host } client snapshot.version := by
  rw [offerClient_eq]
  cases H.snapshot d.presenter.buffer d.host with
  | error p host => rfl
  | ok snapshot host =>
    dsimp only
    rw [outlineOf_eq]
    dsimp only
    rw [background]
    dsimp only
    cases s.grammar.outline snapshot <;> rfl

/-! ## Completions and requests -/

/-- The shown version that makes a completion stale, if there is one. -/
def staleAgainst (completion : Completion) : Option Nat :=
  d.presenter.shown.filter fun shown => completion.version < shown

theorem accept_eq (completion : Completion) :
    accept H completion d =
      match d.presenter.client with
      | none => .ok false { d with
          trace := d.trace ++ [.completionWithoutBar d.presenter.window completion.version] }
      | some client =>
        match d.staleAgainst completion with
        | some shown => .ok false { d with
            trace := d.trace ++ [.staleCompletion d.presenter.window completion.version shown] }
        | none =>
          let presenter := { d.presenter with shown := some completion.version }
          match H.updateClient client completion.outline d.host with
          | .error p host => .error p { d with presenter, host }
          | .ok () host => .ok true { d with presenter, host } := by
  obtain ⟨⟨window, buffer, shell, bars, factory, filters, outliner, listener, client, shown, views,
    priority⟩, o, bag, host, trace⟩ := d
  unfold accept
  simp only [bind_apply, get_apply]
  cases client with
  | none => rfl
  | some client =>
    simp only [staleAgainst]
    cases shown.filter fun shown => completion.version < shown with
    | some shown => rfl
    | none =>
      simp only [bind_apply, updatePresenter_apply, onHost_apply]
      cases H.updateClient client completion.outline host <;> rfl

/-- A completion is passed on to a client unless it is stale. -/
theorem accept_result (completion : Completion) :
    ((accept H completion).after d).outliner = d.outliner ∧
      (((accept H completion).after d).presenter = d.presenter ∧
          (d.presenter.client = none ∨ ∃ shown, d.staleAgainst completion = some shown) ∨
        ((accept H completion).after d).presenter =
          { d.presenter with shown := some completion.version }) := by
  have e := accept_eq H d completion
  cases attached : d.presenter.client with
  | none =>
    rw [attached] at e
    rw [after_of_ok e]
    exact ⟨rfl, .inl ⟨rfl, .inl rfl⟩⟩
  | some client =>
    rw [attached] at e
    dsimp only at e
    cases stale : d.staleAgainst completion with
    | some shown =>
      rw [stale] at e
      rw [after_of_ok e]
      exact ⟨rfl, .inl ⟨rfl, .inr ⟨shown, rfl⟩⟩⟩
    | none =>
      rw [stale] at e
      dsimp only at e
      cases told : H.updateClient client completion.outline d.host with
      | error p host =>
        rw [told] at e
        rw [after_of_error e]
        exact ⟨rfl, .inr rfl⟩
      | ok _ host =>
        rw [told] at e
        rw [after_of_ok e]
        exact ⟨rfl, .inr rfl⟩

variable {H} in
theorem accept_returns
    (updates : ∀ client outline s, ∃ s', H.updateClient client outline s = .ok () s')
    (completion : Completion) (d : Desk η) : ∃ taken d', accept H completion d = .ok taken d' := by
  rw [accept_eq]
  cases d.presenter.client with
  | none => exact ⟨_, _, rfl⟩
  | some client =>
    cases d.staleAgainst completion with
    | some shown => exact ⟨_, _, rfl⟩
    | none =>
      obtain ⟨host, told⟩ := updates client completion.outline d.host
      dsimp only
      rw [told]
      exact ⟨_, _, rfl⟩

theorem takeCompletion_eq :
    takeCompletion d =
      match d.outliner.take? d.presenter.listener with
      | none => .ok none d
      | some (completion, outliner) => .ok (some completion) { d with outliner } := by
  unfold takeCompletion
  simp only [bind_apply, get_apply]
  cases d.outliner.take? d.presenter.listener <;> rfl

theorem drainUpTo_succ (bound : Nat) :
    drainUpTo H (bound + 1) d =
      match d.outliner.take? d.presenter.listener with
      | none => .ok 0 d
      | some (completion, outliner) =>
        (do
          let accepted ← accept H completion
          let more ← drainUpTo H bound
          return more + (if accepted then 1 else 0)) { d with outliner } := by
  rw [drainUpTo, bind_apply, takeCompletion_eq]
  cases d.outliner.take? d.presenter.listener <;> rfl

theorem requestOutline_eq :
    requestOutline H d =
      match H.snapshot d.presenter.buffer d.host with
      | .error p host => .error p { d with host }
      | .ok snapshot host =>
        match d.outliner with
        | .hosted _ =>
          match H.requestParse d.presenter.outliner snapshot host with
          | .error p host => .error p { d with host }
          | .ok () host => .ok () { d with host }
        | .background service => .ok () { d with
            host
            outliner := .background (service.request snapshot)
            trace := d.trace ++ [.parseRequested snapshot.version] } := by
  obtain ⟨presenter, outliner, bag, host, trace⟩ := d
  unfold requestOutline
  simp only [bind_apply, get_apply, onHost_apply]
  cases H.snapshot presenter.buffer host with
  | error p host => rfl
  | ok snapshot host =>
    cases outliner with
    | hosted broadcast =>
      simp only [onHost_apply]
      cases H.requestParse presenter.outliner snapshot host <;> rfl
    | background service => rfl

end Desk

end OutlineBar
