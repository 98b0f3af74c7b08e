/-
Attaching again after anything.

Failures and panics leave windows in all sorts of states: with a bar in the slot that nobody
attached, with a client in the bag of the buffer that the presenter has forgotten, with a
version shown but no client.  `attach_recovers` says that none of this matters to the next
bar.  From every state whatever, attaching ends with one new client in all places where a
client belongs, as long as this attaching itself meets nothing in the way; and the presenter
could as well have been made a moment ago.
-/
import OutlineBar.Proofs.Action.Interchange
import OutlineBar.Proofs.Host.Slotted
import OutlineBar.Proofs.Presenter.Outcome
import OutlineBar.Proofs.Service.Moves

namespace OutlineBar

open OutlineBar.Action

variable {η : Type} {H : Host η} {caller : Option PresenterId}

/-! ## Calls that go well -/

/-- Whether a call to a host with one slot neither panicked nor met a failure that what is in
the slot does not explain. -/
def HostRecord.Unhindered (slot : η → Option ClientId) : HostRecord η → Prop
  | ⟨_, _, .barSlot _, outcome⟩ => ∃ answer, outcome = .ok (.ok answer)
  | ⟨_, before, .removeBar _, outcome⟩ =>
    outcome = .ok (.ok ()) ∨ slot before = none ∧ ∃ failure, outcome = .ok (.error failure)
  | ⟨_, before, .addBar .., outcome⟩ =>
    outcome = .ok (.ok ()) ∨ slot before ≠ none ∧ ∃ failure, outcome = .ok (.error failure)
  | r => r.returned = true

theorem HostRecord.Unhindered.returned {slot : η → Option ClientId} {r : HostRecord η}
    (h : r.Unhindered slot) : r.returned = true := by
  obtain ⟨caller, before, call, outcome⟩ := r
  cases call with
  | barSlot =>
    obtain ⟨answer, rfl⟩ := h
    rfl
  | removeBar => rcases h with rfl | ⟨-, failure, rfl⟩ <;> rfl
  | addBar => rcases h with rfl | ⟨-, failure, rfl⟩ <;> rfl
  | _ => exact h

/-- Whether a log was extended by calls that satisfy `Q`. -/
def Adds (Q : HostRecord η → Prop) (old new : List (HostRecord η)) : Prop :=
  ∃ more, new = old ++ more ∧ ∀ r ∈ more, Q r

namespace Adds

variable {Q : HostRecord η → Prop} {old mid new : List (HostRecord η)}

theorem imp {Q' : HostRecord η → Prop} (h : Adds Q old new) (weaker : ∀ r, Q r → Q' r) :
    Adds Q' old new := by
  obtain ⟨more, rfl, each⟩ := h
  exact ⟨more, rfl, fun r mem => weaker r (each r mem)⟩

theorem split (h : Adds Q old new) (first : Extends caller old mid)
    (second : Extends caller mid new) : Adds Q old mid ∧ Adds Q mid new := by
  obtain ⟨more, rfl, each⟩ := h
  obtain ⟨begun, rfl, -⟩ := first
  obtain ⟨ended, e, -⟩ := second
  rw [List.append_assoc] at e
  cases List.append_cancel_left e
  exact ⟨⟨begun, rfl, fun r mem => each r (List.mem_append_left _ mem)⟩,
    ended, (List.append_assoc _ _ _).symm, fun r mem => each r (List.mem_append_right _ mem)⟩

/-- The last one of the calls that were added. -/
theorem last (h : Adds Q old new) {call : HostCall} {s s' : Recorded η}
    {outcome : Except Panic call.Answer} (grown : Extends caller old s.log)
    (called : H.Calls caller call s outcome s') (logged : s'.log = new) :
    Q ⟨caller, s.host, call, outcome⟩ := by
  subst logged
  obtain ⟨more, e, each⟩ := (h.split grown called.extends).2
  cases List.append_cancel_left (called.logged.symm.trans e)
  exact each _ List.mem_cons_self

end Adds

namespace Desk

variable {d : Desk (Recorded η)} {Q : HostRecord η → Prop} {slot : η → Option ClientId}

theorem exists_allows (caller : Option PresenterId) : ∃ id : PresenterId, id.Allows caller := by
  cases caller with
  | none => exact ⟨⟨0⟩, .inr rfl⟩
  | some id => exact ⟨id, .inl rfl⟩

theorem extends_detachPrevious (H : Host η) (caller : Option PresenterId) (d : Desk (Recorded η)) :
    Extends caller d.host.log ((detachPrevious (H.recorded caller)).after d).host.log :=
  have ⟨_, mine⟩ := exists_allows caller
  ((upheld_stays H mine).keeps_detachPrevious d (.refl d)).grows.grown

theorem extends_clearSlot (H : Host η) (caller : Option PresenterId) (d : Desk (Recorded η)) :
    Extends caller d.host.log ((clearSlot (H.recorded caller)).after d).host.log :=
  have ⟨_, mine⟩ := exists_allows caller
  have upheld := upheld_stays H mine
  (keeps_clearSlot upheld.note upheld.call d (.refl d)).grows.grown

theorem extends_offerClient (H : Host η) (caller : Option PresenterId) (d : Desk (Recorded η)) :
    Extends caller d.host.log ((offerClient (H.recorded caller)).after d).host.log :=
  have ⟨_, mine⟩ := exists_allows caller
  (Stays.offerClient H mine d).grows.grown

/-- The calls of a sequence are those of its parts. -/
theorem adds_bind {α β : Type} {act : Action (Desk (Recorded η)) α}
    {next : α → Action (Desk (Recorded η)) β}
    (adds : Adds Q d.host.log ((act >>= next).after d).host.log)
    (first : Extends caller d.host.log (act.after d).host.log)
    (rest : ∀ a d₁, Extends caller d₁.host.log ((next a).after d₁).host.log) :
    Adds Q d.host.log (act.after d).host.log ∧
      ∀ a d₁, act d = .ok a d₁ → Adds Q d₁.host.log ((next a).after d₁).host.log := by
  cases returned : act d with
  | error p d₁ =>
    rw [after_of_error (bind_of_error returned next)] at adds
    rw [after_of_error returned]
    exact ⟨adds, fun _ _ same => by cases same⟩
  | ok a d₁ =>
    have together : (act >>= next).after d = (next a).after d₁ := by
      unfold after
      rw [bind_of_ok returned]
    rw [after_of_ok returned] at first ⊢
    rw [together] at adds
    obtain ⟨before, later⟩ := adds.split first (rest a d₁)
    exact ⟨before, fun _ _ same => by cases same; exact later⟩

/-! ## The parts of attaching -/

theorem not_panicked {old new : List (HostRecord η)}
    (adds : Adds (HostRecord.Unhindered slot) old new)
    {call : HostCall} {s s' : Recorded η} {p : Panic} (grown : Extends caller old s.log)
    (panicked : (H.recorded caller).answer call s = .error p s') : s'.log ≠ new := by
  intro logged
  have returned := (adds.last grown (Host.calls_error panicked) logged).returned
  cases returned

theorem detachPrevious_eq (H : Host η) (d : Desk η) :
    detachPrevious H d =
      match d.presenter.client with
      | none => .ok () d
      | some _ =>
        match detach H d with
        | .error p d => .error p d
        | .ok (.ok ()) d => .ok () d
        | .ok (.error failure) d' => .ok ()
            { d' with trace := d'.trace ++ [.staleBarNotRemoved d.presenter.window failure] } := by
  unfold detachPrevious
  rw [bind_apply, get_apply]
  dsimp only
  unfold Presenter.isAttached
  cases d.presenter.client with
  | none => rfl
  | some client =>
    rw [if_pos (show (some client).isSome = true from rfl), bind_apply]
    cases detach H d with
    | error p d => rfl
    | ok status d => cases status <;> rfl

/-- Whatever client there is, it is gone afterwards. -/
theorem detachPrevious_of_unhindered
    (adds : Adds (HostRecord.Unhindered slot) d.host.log
      ((detachPrevious (H.recorded caller)).after d).host.log) :
    ∃ d₁ shown, detachPrevious (H.recorded caller) d = .ok () d₁ ∧
      d₁.presenter = { d.presenter with client := none, shown } ∧ d₁.outliner = d.outliner ∧
      Extends caller d.host.log d₁.host.log ∧ madeIn d₁.host.log = madeIn d.host.log := by
  have e := detachPrevious_eq (H.recorded caller) d
  cases attached : d.presenter.client with
  | none =>
    rw [attached] at e
    exact ⟨d, d.presenter.shown, e, by rw [← attached], rfl, .refl _, rfl⟩
  | some client =>
    rw [attached] at e
    dsimp only at e
    have detached := detach_eq (H.recorded caller) d
    rw [attached] at detached
    dsimp only at detached
    cases told : (H.recorded caller).unregisterClient client d.host with
    | error p host =>
      rw [told] at detached
      rw [detached] at e
      rw [after_of_error e] at adds
      exact absurd rfl (not_panicked adds (.refl _) told)
    | ok _ host =>
      rw [told] at detached
      dsimp only at detached
      have called := Host.calls_ok told
      cases removed : (H.recorded caller).removeBar d.presenter.bars host with
      | error p host' =>
        rw [removed] at detached
        rw [detached] at e
        rw [after_of_error e] at adds
        exact absurd rfl (not_panicked adds called.extends removed)
      | ok status host' =>
        rw [removed] at detached
        rw [detached] at e
        have called' := Host.calls_ok removed
        have grown := called.extends.trans called'.extends
        have made : madeIn host'.log = madeIn d.host.log :=
          (called'.filterMap_same rfl).trans (called.filterMap_same rfl)
        cases status <;> exact ⟨_, none, e, rfl, rfl, grown, made⟩

theorem clearSlot_of_unhindered (oneSlot : H.OneSlot d.presenter.bars slot)
    (adds : Adds (HostRecord.Unhindered slot) d.host.log
      ((clearSlot (H.recorded caller)).after d).host.log) :
    ∃ host, clearSlot (H.recorded caller) d = .ok (.ok ()) { d with host } ∧
      slot host.host = none ∧
      Extends caller d.host.log host.log ∧ madeIn host.log = madeIn d.host.log := by
  have e := clearSlot_eq (H.recorded caller) d
  cases asked : (H.recorded caller).barSlot d.presenter.bars d.host with
  | error p host =>
    rw [asked] at e
    rw [after_of_error e] at adds
    exact absurd rfl (not_panicked adds (.refl _) asked)
  | ok answer host =>
    have called := Host.calls_ok asked
    have shown := oneSlot.slot_asked called
    rw [asked] at e
    rcases answer with failure | _ | bar
    · rw [after_of_ok e] at adds
      obtain ⟨answer, fails⟩ := adds.last (.refl _) called rfl
      cases fails
    · refine ⟨host, e, ?_, called.extends, called.filterMap_same rfl⟩
      have empty := oneSlot.shows called.answered
      rw [shown]
      exact Option.not_isSome_iff_eq_none.mp (by rw [← empty]; nofun)
    · have occupied : slot host.host ≠ none := by
        have taken := oneSlot.shows called.answered
        rw [shown]
        exact Option.isSome_iff_ne_none.mp taken.symm
      dsimp only at e
      cases removed : (H.recorded caller).removeBar d.presenter.bars host with
      | error p host' =>
        rw [removed] at e
        rw [after_of_error e] at adds
        exact absurd rfl (not_panicked adds called.extends removed)
      | ok status host' =>
        have called' := Host.calls_ok removed
        rw [removed] at e
        cases status with
        | error failure =>
          rw [after_of_ok e] at adds
          rcases adds.last called.extends called' rfl with follows | ⟨empty, -⟩
          · cases follows
          · exact absurd empty occupied
        | ok _ =>
          exact ⟨host', e, oneSlot.removed called'.answered, called.extends.trans called'.extends,
            (called'.filterMap_same rfl).trans (called.filterMap_same rfl)⟩

variable (caller) in
/-- What becomes of a parse, and what it leaves alone. -/
theorem outlineOf_result (oneSlot : H.OneSlot d.presenter.bars slot)
    (stamps : ∀ {snapshot outline s s'},
      H.parse d.presenter.outliner snapshot s = .ok outline s' → outline.version = snapshot.version)
    (snapshot : Snapshot) :
    match outlineOf (H.recorded caller) snapshot d with
    | .ok outline d' => ∃ outliner host, d' = { d with outliner, host } ∧
        outline.version = snapshot.version ∧ Extends caller d.host.log host.log ∧
        madeIn host.log = madeIn d.host.log ∧ slot host.host = slot d.host.host
    | .error p d' =>
      (∃ s, d.outliner = .background s ∧ s.grammar.outline snapshot = .error p ∧ d'.host = d.host) ∨
        (H.recorded caller).parse d.presenter.outliner snapshot d.host = .error p d'.host := by
  rw [outlineOf_eq]
  cases kind : d.outliner with
  | hosted broadcast =>
    dsimp only
    cases parsed : (H.recorded caller).parse d.presenter.outliner snapshot d.host with
    | error p host => exact .inr rfl
    | ok outline host =>
      have called := Host.calls_ok parsed
      exact ⟨.hosted broadcast, host, rfl, stamps called.answered, called.extends,
        called.filterMap_same rfl, oneSlot.slot_elsewhere called nofun⟩
  | background s =>
    dsimp only
    cases parsed : s.grammar.outline snapshot with
    | error p => exact .inl ⟨s, rfl, parsed, rfl⟩
    | ok outline =>
      exact ⟨_, d.host, rfl, Grammar.outline_version parsed, .refl _, rfl, rfl⟩

/-- A host with a free slot has no reason to refuse a client. -/
theorem offer_of_unhindered (oneSlot : H.OneSlot d.presenter.bars slot)
    (free : slot d.host.host = none) {client : ClientId} {version : Nat}
    {old : List (HostRecord η)} (grown : Extends caller old d.host.log)
    (adds : Adds (HostRecord.Unhindered slot) old
      (after (fun d => offer (H.recorded caller) d client version) d).host.log) :
    ∃ host, offer (H.recorded caller) d client version =
        .ok (.ok ()) (showing { d with host } client version) ∧
      slot host.host = some client ∧
      H.Calls caller (.addBar d.presenter.bars d.presenter.priority client) d.host
        (.ok (.ok ())) host := by
  unfold after at adds
  unfold offer at adds ⊢
  dsimp only at adds
  cases added : (H.recorded caller).addBar d.presenter.bars d.presenter.priority client d.host with
  | error p host =>
    rw [added] at adds
    exact absurd rfl (not_panicked adds grown added)
  | ok status host =>
    have called := Host.calls_ok added
    rw [added] at adds
    cases status with
    | ok _ => exact ⟨host, rfl, (oneSlot.taken called.answered).2, called⟩
    | error failure =>
      have refused : ¬ Adds (HostRecord.Unhindered slot) old host.log := fun adds => by
        rcases adds.last grown called rfl with follows | ⟨occupied, -⟩
        · cases follows
        · exact occupied free
      have grown' := grown.trans called.extends
      dsimp only at adds
      cases told : (H.recorded caller).unregisterClient client host with
      | error p host' =>
        rw [told] at adds
        exact absurd (adds.split grown' (Host.calls_error told).extends).1 refused
      | ok _ host' =>
        rw [told] at adds
        exact absurd (adds.split grown' (Host.calls_ok told).extends).1 refused

theorem offerClient_of_unhindered {text : η → Snapshot} {now : Snapshot}
    (oneSlot : H.OneSlot d.presenter.bars slot) (free : slot d.host.host = none)
    (reads : ∀ {s snapshot s'},
      H.snapshot d.presenter.buffer s = .ok snapshot s' → snapshot = text s)
    (stamps : ∀ {snapshot outline s s'},
      H.parse d.presenter.outliner snapshot s = .ok outline s' → outline.version = snapshot.version)
    (parses : ∀ s, d.outliner = .background s → ∃ outline, s.grammar.outline now = .ok outline)
    (adds : Adds (fun r => r.Unhindered slot ∧ text r.before = now) d.host.log
      ((offerClient (H.recorded caller)).after d).host.log) :
    ∃ client outline outliner host before more,
      offerClient (H.recorded caller) d =
        .ok (.ok ()) (showing { d with outliner, host } client outline.version) ∧
      outline.version = now.version ∧ slot host.host = some client ∧
      host.log = d.host.log ++ more ∧ madeIn host.log = madeIn d.host.log ++ [client] ∧
      ⟨caller, before, .createClient d.presenter.factory d.presenter.window outline, .ok client⟩ ∈
        more := by
  have e := offerClient_eq (H.recorded caller) d
  have unhindered : Adds (HostRecord.Unhindered slot) d.host.log
      ((offerClient (H.recorded caller)).after d).host.log := adds.imp fun _ both => both.1
  cases taken : (H.recorded caller).snapshot d.presenter.buffer d.host with
  | error p host =>
    rw [taken] at e
    rw [after_of_error e] at unhindered
    exact absurd rfl (not_panicked unhindered (.refl _) taken)
  | ok snapshot host =>
    have called := Host.calls_ok taken
    have current := reads called.answered
    have result := outlineOf_result caller (d := { d with host }) oneSlot stamps snapshot
    rw [taken] at e
    dsimp only at e
    cases outlined : outlineOf (H.recorded caller) snapshot { d with host } with
    | error p d₁ =>
      rw [outlined] at e result
      rw [after_of_error e] at adds unhindered
      rcases result with ⟨s, background, panics, same⟩ | panicked
      · have still := (adds.last (.refl _) called (congrArg Recorded.log same).symm).2
        obtain ⟨outline, parsed⟩ := parses s background
        rw [current, still, parsed] at panics
        cases panics
      · exact absurd rfl (not_panicked unhindered called.extends panicked)
    | ok outline d₁ =>
      rw [outlined] at e result
      obtain ⟨outliner, host₁, rfl, version, parsing, made, slot₁⟩ := result
      have grown := called.extends.trans parsing
      dsimp only at e
      cases created : (H.recorded caller).createClient d.presenter.factory d.presenter.window
          outline host₁ with
      | error p host₂ =>
        rw [created] at e
        rw [after_of_error e] at unhindered
        exact absurd rfl (not_panicked unhindered grown created)
      | ok client host₂ =>
        have called₂ := Host.calls_ok created
        have grown₂ := grown.trans called₂.extends
        have free₂ : slot host₂.host = none := by
          rw [oneSlot.slot_elsewhere called₂ nofun, slot₁, oneSlot.slot_elsewhere called nofun]
          exact free
        rw [created] at e
        unfold after at adds unhindered
        rw [e] at adds unhindered
        obtain ⟨host₃, offered, shown, called₃⟩ :=
          offer_of_unhindered (d := { d with outliner, host := host₂ }) oneSlot free₂ grown₂
            unhindered
        dsimp only at adds
        rw [offered] at adds
        have later := parsing.trans (called₂.extends.trans called₃.extends)
        have still := ((adds.split called.extends later).1.last (.refl _) called rfl).2
        have same : outline.version = now.version := by rw [version, current, still]
        obtain ⟨before, logged, -⟩ := grown
        refine ⟨client, outline, outliner, host₃, host₁.host,
          before ++ [
            ⟨caller, host₁.host, .createClient d.presenter.factory d.presenter.window outline,
              .ok client⟩,
            ⟨caller, host₂.host, .addBar d.presenter.bars d.presenter.priority client,
              .ok (.ok ())⟩], ?_, same, shown, ?_, ?_,
          List.mem_append_right before List.mem_cons_self⟩
        · rw [e, version]
          exact offered
        · rw [called₃.logged, called₂.logged, logged, List.append_assoc, List.append_assoc]
          rfl
        · rw [show madeIn host₃.log = madeIn host₂.log from called₃.filterMap_same rfl,
            show madeIn host₂.log = madeIn host₁.log ++ [client] from called₂.filterMap_eq _,
            made, show madeIn host.log = madeIn d.host.log from called.filterMap_same rfl]

/-! ## Attaching -/

/-- What attaching does after the previous client is gone. -/
def replaceBar (H : Host η) : Action (Desk η) HostStatus := do
  match ← clearSlot H with
  | .error failure => return .error failure
  | .ok () => offerClient H

theorem attach_eq (H : Host η) :
    attach H = (do detachPrevious H; replaceBar H : Action (Desk η) HostStatus) := rfl

theorem extends_replaceBar (H : Host η) (caller : Option PresenterId) (d : Desk (Recorded η)) :
    Extends caller d.host.log ((replaceBar (H.recorded caller)).after d).host.log := by
  refine Keeps.after_bind (P := fun d' : Desk (Recorded η) => Extends caller d.host.log d'.host.log)
    (extends_clearSlot H caller d) fun status d₁ _ grown => ?_
  cases status with
  | error failure => exact grown
  | ok _ =>
    dsimp only
    exact grown.trans (extends_offerClient H caller d₁)

/-- Whatever is in the slot makes room for a new client. -/
theorem replaceBar_of_unhindered {text : η → Snapshot} {now : Snapshot}
    (oneSlot : H.OneSlot d.presenter.bars slot)
    (reads : ∀ {s snapshot s'},
      H.snapshot d.presenter.buffer s = .ok snapshot s' → snapshot = text s)
    (stamps : ∀ {snapshot outline s s'},
      H.parse d.presenter.outliner snapshot s = .ok outline s' → outline.version = snapshot.version)
    (parses : ∀ s, d.outliner = .background s → ∃ outline, s.grammar.outline now = .ok outline)
    (adds : Adds (fun r => r.Unhindered slot ∧ text r.before = now) d.host.log
      ((replaceBar (H.recorded caller)).after d).host.log) :
    ∃ client outline outliner host before more,
      replaceBar (H.recorded caller) d =
        .ok (.ok ()) (showing { d with outliner, host } client outline.version) ∧
      outline.version = now.version ∧ slot host.host = some client ∧
      host.log = d.host.log ++ more ∧ madeIn host.log = madeIn d.host.log ++ [client] ∧
      ⟨caller, before, .createClient d.presenter.factory d.presenter.window outline, .ok client⟩ ∈
        more := by
  obtain ⟨clearing, offering⟩ := adds_bind adds (extends_clearSlot H caller d) fun status d₁ => by
    cases status with
    | error failure => exact .refl _
    | ok _ => exact extends_offerClient H caller d₁
  obtain ⟨host, cleared, free, ⟨before, logged, -⟩, made⟩ :=
    clearSlot_of_unhindered oneSlot (clearing.imp fun _ both => both.1)
  obtain ⟨client, outline, outliner, host', state, more, offered, version, shown, logged', made',
    created⟩ := offerClient_of_unhindered (d := { d with host }) oneSlot free reads stamps parses
      (offering _ _ cleared)
  refine ⟨client, outline, outliner, host', state, before ++ more, ?_, version, shown, ?_, ?_,
    List.mem_append_right before created⟩
  · exact (bind_of_ok cleared _).trans offered
  · rw [logged', logged, List.append_assoc]
  · rw [made', made]

/-- The desk with another version in place of the one that is shown. -/
def marked (shown : Option Nat) (d : Desk η) : Desk η :=
  { d with presenter := { d.presenter with shown } }

theorem through_clearSlot (H : Host η) (shown : Option Nat) :
    Through (marked shown) (clearSlot H) := by
  intro d
  rw [clearSlot_eq, clearSlot_eq]
  dsimp only [marked]
  cases H.barSlot d.presenter.bars d.host with
  | error p host => rfl
  | ok answer host =>
    rcases answer with failure | _ | bar
    · rfl
    · rfl
    · dsimp only
      cases H.removeBar d.presenter.bars host with
      | error p host => rfl
      | ok status host => cases status <;> rfl

theorem through_outlineOf (H : Host η) (snapshot : Snapshot) (shown : Option Nat) :
    Through (marked shown) (outlineOf H snapshot) := by
  rintro ⟨presenter, outliner, bag, host, trace⟩
  rw [outlineOf_eq, outlineOf_eq]
  dsimp only [marked]
  cases outliner with
  | hosted broadcast =>
    dsimp only
    cases H.parse presenter.outliner snapshot host <;> rfl
  | background service =>
    dsimp only
    cases service.grammar.outline snapshot <;> rfl

/-- Which version was shown plays no part in offering another client. -/
theorem offerClient_marked (H : Host η) (shown : Option Nat) {d d' : Desk η}
    (offered : offerClient H d = .ok (.ok ()) d') :
    offerClient H (d.marked shown) = .ok (.ok ()) d' := by
  rw [offerClient_eq] at offered ⊢
  cases taken : H.snapshot d.presenter.buffer d.host with
  | error p host =>
    rw [taken] at offered
    cases offered
  | ok snapshot host =>
    rw [taken] at offered
    rw [show H.snapshot (d.marked shown).presenter.buffer (d.marked shown).host = _ from taken]
    dsimp only at offered ⊢
    cases outlined : outlineOf H snapshot { d with host } with
    | error p d₁ =>
      rw [outlined] at offered
      cases offered
    | ok outline d₁ =>
      rw [outlined] at offered
      rw [show outlineOf H snapshot { d.marked shown with host } = _ from
        (through_outlineOf H snapshot shown).ok outlined]
      dsimp only at offered ⊢
      cases created : H.createClient d₁.presenter.factory d₁.presenter.window outline d₁.host with
      | error p host₁ =>
        rw [created] at offered
        cases offered
      | ok client host₁ =>
        rw [created] at offered
        rw [show H.createClient (d₁.marked shown).presenter.factory
          (d₁.marked shown).presenter.window outline (d₁.marked shown).host = _ from created]
        unfold offer at offered ⊢
        dsimp only at offered ⊢
        cases added : H.addBar d₁.presenter.bars d₁.presenter.priority client host₁ with
        | error p host₂ =>
          rw [added] at offered
          cases offered
        | ok status host₂ =>
          rw [added] at offered
          rw [show H.addBar (d₁.marked shown).presenter.bars (d₁.marked shown).presenter.priority
            client host₁ = _ from added]
          cases status with
          | ok _ => exact offered
          | error failure =>
            dsimp only at offered
            cases told : H.unregisterClient client host₂ <;> rw [told] at offered <;> cases offered

theorem replaceBar_marked (H : Host η) (shown : Option Nat) {d d' : Desk η}
    (replaced : replaceBar H d = .ok (.ok ()) d') :
    replaceBar H (d.marked shown) = .ok (.ok ()) d' := by
  obtain ⟨status, d₁, cleared, replaced⟩ := bind_eq_ok replaced
  refine (bind_of_ok ((through_clearSlot H shown).ok cleared) _).trans ?_
  cases status with
  | error failure => cases replaced
  | ok _ => exact offerClient_marked H shown replaced

/-- Attaching makes good whatever happened before.  If none of its own calls panics or fails
without the slot being the reason, and nobody edits the buffer meanwhile, then it succeeds: it
makes one client, for the text that the buffer has, and this client is attached, in the slot
and in the bag.  A presenter made after the old client was let go gets to the same end. -/
theorem attach_recovers {slot : η → Option ClientId} {text : η → Snapshot}
    {d d' : Desk (Recorded η)} {new : List (HostRecord η)}
    (oneSlot : H.OneSlot d.presenter.bars slot)
    (reads : ∀ {s snapshot s'},
      H.snapshot d.presenter.buffer s = .ok snapshot s' → snapshot = text s)
    (stamps : ∀ {snapshot outline s s'},
      H.parse d.presenter.outliner snapshot s = .ok outline s' → outline.version = snapshot.version)
    (reached : (attach (H.recorded caller)).after d = d') (logged : d'.host.log = d.host.log ++ new)
    (unhindered : ∀ r ∈ new, r.Unhindered slot)
    (unedited : ∀ r ∈ new, text r.before = text d'.host.host)
    (parses : ∀ s, d.outliner = .background s →
      ∃ outline, s.grammar.outline (text d'.host.host) = .ok outline) :
    attach (H.recorded caller) d = .ok (.ok ()) d' ∧
      (∃ client outline before, madeIn new = [client] ∧
        ⟨caller, before, .createClient d.presenter.factory d.presenter.window outline, .ok client⟩ ∈
          new ∧
        outline.version = (text d'.host.host).version ∧
        d'.presenter =
          { d.presenter with client := some client, shown := some outline.version } ∧
        slot d'.host.host = some client ∧ d'.bag.get? .attachedBar = some client) ∧
      attach (H.recorded caller)
        { (detachPrevious (H.recorded caller)).after d with
          presenter := { d.presenter with client := none, shown := none } } = .ok (.ok ()) d' := by
  have adds : Adds (fun r => r.Unhindered slot ∧ text r.before = text d'.host.host) d.host.log
      ((attach (H.recorded caller)).after d).host.log := by
    rw [reached]
    exact ⟨new, logged, fun r mem => ⟨unhindered r mem, unedited r mem⟩⟩
  rw [attach_eq] at adds
  obtain ⟨detaching, replacing⟩ := adds_bind adds (extends_detachPrevious H caller d)
    fun _ d₁ => extends_replaceBar H caller d₁
  obtain ⟨d₁, shown, detached, presenter, outliner, ⟨before, begun, -⟩, made⟩ :=
    detachPrevious_of_unhindered (detaching.imp fun _ both => both.1)
  obtain ⟨client, outline, outliner', host, state, more, replaced, version, inSlot, ended, made',
    created⟩ := replaceBar_of_unhindered (d := d₁) (by rw [presenter]; exact oneSlot)
      (by rw [presenter]; exact reads) (by rw [presenter]; exact stamps)
      (by rw [outliner]; exact parses) (replacing _ _ detached)
  have attached := (bind_of_ok detached fun _ => replaceBar (H.recorded caller)).trans replaced
  rw [attach_eq, after_of_ok attached] at reached
  subst reached
  have same : new = before ++ more := by
    refine List.append_cancel_left (logged.symm.trans ?_)
    rw [← List.append_assoc, ← begun]
    exact ended
  refine ⟨attached,
    ⟨client, outline, state, ?_, ?_, version, ?_, inSlot, Bag.get?_insert_self _ _ _⟩, ?_⟩
  · have total : madeIn (d.host.log ++ new) = madeIn d.host.log ++ [client] := by
      rw [← logged, ← made]
      exact made'
    rw [madeIn, List.filterMap_append] at total
    exact List.append_cancel_left total
  · rw [same]
    rw [presenter] at created
    exact List.mem_append_right before created
  · show { d₁.presenter with client := some client, shown := some outline.version } = _
    rw [presenter]
  · -- The old client is gone, and the version shown does not matter.
    have fresh : { (detachPrevious (H.recorded caller)).after d with
        presenter := { d.presenter with client := none, shown := none } } = d₁.marked none := by
      rw [after_of_ok detached, marked, presenter]
    have nothing :
        detachPrevious (H.recorded caller) (d₁.marked none) = .ok () (d₁.marked none) := by
      rw [detachPrevious_eq,
        show (d₁.marked none).presenter.client = none by rw [marked, presenter]]
    rw [fresh]
    exact (bind_of_ok nothing _).trans (replaceBar_marked _ none replaced)

/-- A window that was detached by halves, because its client panicked: the presenter has forgotten
the client, but not the version, and its bar is still in the slot and in the bag. -/
def halved : Desk (Recorded Slotted) where
  presenter := {
    window := ⟨1⟩, buffer := ⟨0⟩, shell := ⟨0⟩, bars := ⟨0⟩, factory := ⟨0⟩, filters := ⟨0⟩
    outliner := ⟨0⟩, listener := ⟨0⟩, shown := some 9, priority := 0 }
  outliner := .hosted {}
  bag := (Bag.empty.insert .attachedBar (.foreign 5)).2
  host := { host := { slot := fun _ => some (.foreign 5) } }

theorem attach_recovers_halved :
    ∃ d', attach (Slotted.obliging.recorded none) halved = .ok (.ok ()) d' ∧
    d'.presenter.client = some (.made ⟨0⟩ 0) ∧ d'.presenter.shown = some 1 ∧
    d'.host.host.slot ⟨0⟩ = some (.made ⟨0⟩ 0) ∧ d'.bag.get? .attachedBar = some (.made ⟨0⟩ 0) := by
  let act := attach (Slotted.obliging.recorded none)
  let slot : Slotted → Option ClientId := (·.slot ⟨0⟩)
  let text : Slotted → Snapshot := fun _ => ⟨1, "a"⟩
  have calls : ∀ r ∈ (act.after halved).host.log, r.Unhindered slot :=
    List.forall_mem_cons.mpr ⟨⟨_, rfl⟩, List.forall_mem_cons.mpr ⟨.inl rfl,
      List.forall_mem_cons.mpr ⟨rfl, List.forall_mem_cons.mpr ⟨rfl,
      List.forall_mem_cons.mpr ⟨rfl, List.forall_mem_cons.mpr ⟨.inl rfl, nofun⟩⟩⟩⟩⟩⟩
  have reads {s snapshot s'} (taken : Slotted.obliging.snapshot ⟨0⟩ s = .ok snapshot s') :
      snapshot = text s := by
    cases taken
    rfl
  obtain ⟨attached, ⟨client, outline, -, made, -, version, presenter, inSlot, inBag⟩, -⟩ :=
    attach_recovers (H := Slotted.obliging) (d := halved) (Host.slotted_oneSlot _ _) reads
      (fun parsed => by cases parsed; rfl) (rfl : act.after halved = _) (List.nil_append _).symm
      calls (fun _ _ => rfl) (fun _ background => nomatch background)
  obtain rfl : .made ⟨0⟩ 0 = client := List.singleton_inj.mp made
  exact ⟨_, attached, congrArg Presenter.client presenter,
    (congrArg Presenter.shown presenter).trans (congrArg some version), inSlot, inBag⟩

end Desk

end OutlineBar
