/-
What draining a window's queue comes to.

A client gets a completion if neither the client shows nor the queue brought before it
anything newer; `forwarded` says so of each place in the queue by itself.  Draining hands over
these completions, in order and one call each, and the client then shows the newest of
everything.  This holds from any state of a window, so it also tells what the next drain does
after a client panicked on one completion, and that it makes no difference into how many
drains a queue is divided.
-/
import OutlineBar.Proofs.Action.Interchange
import OutlineBar.Proofs.Host.Plain
import OutlineBar.Proofs.Host.Recorded
import OutlineBar.Proofs.Outliner.Use
import OutlineBar.Proofs.Presenter.Steps

namespace OutlineBar

open OutlineBar.Action

namespace Completion

/-- Whether a client that shows version `shown` gets a completion that `earlier` ones arrived
before. -/
def isCurrent (shown : Option Nat) (earlier : List Completion) (completion : Completion) : Bool :=
  shown.all (· ≤ completion.version) && earlier.all (·.version ≤ completion.version)

/-- The completions of a queue that a client gets that shows version `shown`. -/
def forwarded (shown : Option Nat) (queue : List Completion) : List Completion :=
  (queue.zipIdx.filter fun place => place.1.isCurrent shown (queue.take place.2)).map Prod.fst

/-- The newest version of those that are shown and queued. -/
def newest (shown : Option Nat) (queue : List Completion) : Option Nat :=
  (shown.toList ++ queue.map version).max?

/-- The calls that hand completions to a client. -/
def updates (client : ClientId) (completions : List Completion) : List HostCall :=
  completions.map fun completion => .updateClient client completion.outline

variable {shown : Option Nat} {completion : Completion} {queue : List Completion}

/-! ## One completion after the other -/

/-- The version that a client shows after a completion arrived. -/
def shownAfter (shown : Option Nat) (completion : Completion) : Option Nat :=
  if shown.all (· ≤ completion.version) then some completion.version else shown

theorem shownAfter_of_all (fresh : shown.all (· ≤ completion.version) = true) :
    shownAfter shown completion = some completion.version := if_pos fresh

theorem shownAfter_of_not_all (old : ¬ shown.all (· ≤ completion.version) = true) :
    shownAfter shown completion = shown := if_neg old

/-- What arrived first decides on what comes later through the version shown after it. -/
theorem isCurrent_cons (earlier : List Completion) (later : Completion) :
    later.isCurrent shown (completion :: earlier) =
      later.isCurrent (shownAfter shown completion) earlier := by
  unfold isCurrent shownAfter
  rw [List.all_cons, ← Bool.and_assoc]
  congr 1
  cases shown with
  | none => simp
  | some s =>
    by_cases fresh : s ≤ completion.version
    · simp only [Option.all_some, fresh, decide_true, if_true, ← Bool.decide_and]
      exact decide_eq_decide.mpr (by omega)
    · simp only [Option.all_some, fresh, decide_false, Bool.false_eq_true, if_false,
        ← Bool.decide_and]
      exact decide_eq_decide.mpr (by omega)

theorem forwarded_cons (shown : Option Nat) (completion : Completion) (queue : List Completion) :
    forwarded shown (completion :: queue) =
      if shown.all (· ≤ completion.version) then
        completion :: forwarded (some completion.version) queue
      else forwarded shown queue := by
  have rest : ((queue.zipIdx 1).filter fun place =>
      place.1.isCurrent shown ((completion :: queue).take place.2)).map Prod.fst =
      forwarded (shownAfter shown completion) queue := by
    unfold forwarded
    rw [List.zipIdx_succ, List.filter_map, List.map_map]
    exact congrArg (List.map Prod.fst) (List.filter_congr fun place _ =>
      isCurrent_cons (queue.take place.2) place.1)
  have first : completion.isCurrent shown [] = shown.all (· ≤ completion.version) :=
    Bool.and_true _
  by_cases fresh : shown.all (· ≤ completion.version) = true
  · rw [if_pos fresh, ← shownAfter_of_all fresh, ← rest]
    exact congrArg (List.map Prod.fst) (List.filter_cons_of_pos (first.trans fresh))
  · rw [if_neg fresh, ← shownAfter_of_not_all fresh, ← rest, shownAfter_of_not_all fresh]
    exact congrArg (List.map Prod.fst)
      (List.filter_cons_of_neg fun current => fresh (first.symm.trans current))

theorem newest_cons (shown : Option Nat) (completion : Completion) (queue : List Completion) :
    newest shown (completion :: queue) = newest (shownAfter shown completion) queue := by
  cases shown with
  | none => rfl
  | some s =>
    by_cases fresh : s ≤ completion.version
    · have larger : max s completion.version = completion.version := by omega
      rw [shownAfter_of_all (by simpa using fresh)]
      show some (List.foldl max (max s completion.version) _) = _
      rw [larger]
      rfl
    · have larger : max s completion.version = s := by omega
      rw [shownAfter_of_not_all (by simpa using fresh)]
      show some (List.foldl max (max s completion.version) _) = _
      rw [larger]
      rfl

theorem newest_eq_some_iff {m : Nat} :
    newest shown queue = some m ↔
      (m ∈ shown.toList ∨ ∃ c ∈ queue, c.version = m) ∧
        (∀ s ∈ shown.toList, s ≤ m) ∧ ∀ c ∈ queue, c.version ≤ m := by
  unfold newest
  rw [List.max?_eq_some_iff, List.mem_append, List.mem_map, List.forall_mem_append,
    List.forall_mem_map]

/-- The last completion that a client gets is the last one of the newest version. -/
theorem getLast?_forwarded (shown : Option Nat) (queue : List Completion) :
    (forwarded shown queue).getLast? =
      (queue.filter fun completion => some completion.version = newest shown queue).getLast? := by
  induction queue generalizing shown with
  | nil => rfl
  | cons completion rest ih =>
    rw [forwarded_cons, newest_cons]
    by_cases fresh : shown.all (· ≤ completion.version) = true
    · rw [if_pos fresh, shownAfter_of_all fresh, List.getLast?_cons, ih]
      obtain ⟨m, top⟩ : ∃ m, newest (some completion.version) rest = some m := ⟨_, rfl⟩
      rw [top, List.filter_cons]
      by_cases same : some completion.version = some m
      · rw [if_pos (decide_eq_true same), List.getLast?_cons]
      · rw [if_neg (by simpa using same)]
        -- The newest version is that of a later completion, which the client gets.
        obtain ⟨c, mem, version⟩ := (newest_eq_some_iff.mp top).1.resolve_left fun first =>
          same (congrArg some (List.mem_singleton.mp first).symm)
        have kept : c ∈ rest.filter fun completion => some completion.version = some m :=
          List.mem_filter.mpr ⟨mem, decide_eq_true (congrArg some version)⟩
        rw [List.getLast?_eq_some_getLast (List.ne_nil_of_mem kept)]
        rfl
    · rw [if_neg fresh, shownAfter_of_not_all fresh, ih, List.filter_cons, if_neg]
      intro current
      have top := (newest_eq_some_iff.mp (of_decide_eq_true current).symm).2.1
      cases shown with
      | none => exact fresh rfl
      | some s => exact fresh (decide_eq_true (top s List.mem_cons_self))

end Completion

namespace Broadcast

theorem queue_of_not_hears {id : ListenerId} {b : Broadcast} (gone : ¬ b.Hears id) :
    b.queue id = [] := by
  rw [← isSome_find?, Option.not_isSome_iff_eq_none] at gone
  rw [queue_eq, gone]
  rfl

/-- What is taken next does not depend on what is published meanwhile. -/
theorem take?_publish {id : ListenerId} {b b' : Broadcast} {completion : Completion}
    (taken : b.take? id = some (completion, b')) (published : Completion) :
    (b.publish published).2.take? id = some (completion, (b'.publish published).2) := by
  obtain ⟨rest, queued, -⟩ := find?_take taken id
  have hears : b.Hears id := by
    by_contra gone
    rw [queue_of_not_hears gone] at queued
    cases queued
  have e : b' = b.update id fun l => { l with queue := rest } := by
    unfold take? at taken
    rw [queued] at taken
    cases taken
    rfl
  have queued' : (b.publish published).2.queue id = completion :: (rest ++ [published]) := by
    rw [queue_publish hears, queued, List.cons_append]
  unfold take?
  rw [queued', e]
  -- Dropped listeners are forgotten either way, and the others end with the same queues.
  have kept (l : Listener) :
      (if l.id = id then { l with queue := rest } else l : Listener).isOpen = l.isOpen := by
    by_cases same : l.id = id <;> simp [same]
  have filtered : (b.update id fun l => { l with queue := rest }).prune =
      b.prune.update id fun l => { l with queue := rest } := by
    unfold prune update
    rw [List.filter_map]
    congr 3
    funext l
    exact kept l
  simp only [publish, filtered]
  simp only [update, List.map_map]
  refine congrArg (fun listeners => some (completion, Broadcast.mk listeners b.prune.nextIndex))
    (List.map_congr_left fun l _ => ?_)
  by_cases same : l.id = id <;> simp [same]

end Broadcast

namespace Outliner

theorem exists_take {o : Outliner} {id : ListenerId} {completion : Completion}
    {rest : List Completion} (queued : o.broadcast.queue id = completion :: rest) :
    ∃ o', o.take? id = some (completion, o') ∧ o'.broadcast.queue id = rest ∧
      (o'.broadcast.Hears id ↔ o.broadcast.Hears id) := by
  obtain ⟨b, taken⟩ := Broadcast.exists_take queued
  have left := Broadcast.queue_take_self taken
  rw [queued] at left
  refine ⟨o.withBroadcast b, ?_, ?_, ?_⟩
  · unfold take?
    rw [taken]
    rfl
  · rw [broadcast_withBroadcast]
    exact (List.cons.inj left).2.symm
  · rw [broadcast_withBroadcast]
    exact Broadcast.hears_take taken

theorem take?_of_empty {o : Outliner} {id : ListenerId} (empty : o.broadcast.queue id = []) :
    o.take? id = none := by
  unfold take? Broadcast.take?
  rw [empty]
  rfl

/-- The outliner after completions were put into every queue. -/
def announced (completions : List Completion) (o : Outliner) : Outliner :=
  completions.foldl (fun o completion => o.withBroadcast (o.broadcast.publish completion).2) o

theorem take?_announced (completions : List Completion) {o o' : Outliner} {id : ListenerId}
    {completion : Completion} (taken : o.take? id = some (completion, o')) :
    (o.announced completions).take? id = some (completion, o'.announced completions) := by
  induction completions generalizing o o' with
  | nil => exact taken
  | cons published rest ih =>
    obtain ⟨⟨first, b⟩, next, e⟩ := Option.map_eq_some_iff.mp taken
    cases e
    refine ih ?_
    show Option.map _ ((o.withBroadcast _).broadcast.take? id) =
      some (completion, withBroadcast _ ((o.withBroadcast b).broadcast.publish published).2)
    rw [broadcast_withBroadcast, broadcast_withBroadcast, Broadcast.take?_publish next published]
    cases o <;> rfl

theorem hears_announced (completions : List Completion) {id : ListenerId} (o : Outliner) :
    (o.announced completions).broadcast.Hears id ↔ o.broadcast.Hears id := by
  induction completions generalizing o with
  | nil => exact Iff.rfl
  | cons published rest ih =>
    refine (ih _).trans ?_
    rw [broadcast_withBroadcast]
    exact Broadcast.hears_publish published

theorem queue_announced (completions : List Completion) {id : ListenerId} {o : Outliner}
    (hears : o.broadcast.Hears id) :
    (o.announced completions).broadcast.queue id = o.broadcast.queue id ++ completions := by
  induction completions generalizing o with
  | nil => exact (List.append_nil _).symm
  | cons published rest ih =>
    refine (ih ?_).trans ?_
    · rw [broadcast_withBroadcast]
      exact (Broadcast.hears_publish published).mpr hears
    · rw [broadcast_withBroadcast, Broadcast.queue_publish hears, List.append_assoc]
      rfl

end Outliner

/-! ## Draining -/

namespace Desk

section
variable {η : Type}

/-- The completions that wait for a presenter. -/
def pending (d : Desk η) : List Completion := d.outliner.broadcast.queue d.presenter.listener

/-- Those of the waiting completions that the presenter's client gets. -/
def forwarded (d : Desk η) : List Completion := Completion.forwarded d.presenter.shown d.pending

/-- The newest version of those that the presenter shows and that wait for it. -/
def newest (d : Desk η) : Option Nat := Completion.newest d.presenter.shown d.pending

/-- The desk after completions came from its outliner. -/
def announced (completions : List Completion) (d : Desk η) : Desk η :=
  { d with outliner := d.outliner.announced completions }

variable (H : Host η) {d d' : Desk η}

theorem drainUpTo_of_empty (empty : d.pending = []) (bound : Nat) :
    drainUpTo H bound d = .ok 0 d := by
  cases bound with
  | zero => rfl
  | succ bound =>
    rw [drainUpTo_succ, Outliner.take?_of_empty empty]

/-- Accepting a completion leaves the queue alone. -/
theorem queue_of_accept {completion : Completion} {taken : Bool}
    (accepted : accept H completion d = .ok taken d') :
    d'.outliner = d.outliner ∧ d'.presenter.listener = d.presenter.listener := by
  obtain ⟨outliner, result⟩ := accept_result H d completion
  rw [after_of_ok accepted] at outliner result
  refine ⟨outliner, ?_⟩
  rcases result with ⟨same, -⟩ | changed
  · rw [same]
  · rw [changed]

/-- What a drain leaves in the queue. -/
theorem pending_of_drainUpTo {bound taken : Nat} (drained : drainUpTo H bound d = .ok taken d') :
    d'.pending = d.pending.drop bound ∧
      (d'.outliner.broadcast.Hears d'.presenter.listener ↔
        d.outliner.broadcast.Hears d.presenter.listener) := by
  induction bound generalizing d taken with
  | zero =>
    cases drained
    exact ⟨rfl, Iff.rfl⟩
  | succ bound ih =>
    cases queued : d.pending with
    | nil =>
      rw [drainUpTo_of_empty H queued] at drained
      cases drained
      exact ⟨queued, Iff.rfl⟩
    | cons completion rest =>
      obtain ⟨outliner, next, left, hears⟩ := Outliner.exists_take queued
      rw [drainUpTo_succ, next] at drained
      obtain ⟨accepted, d₁, told, drained⟩ := bind_eq_ok drained
      obtain ⟨more, d₂, drained, last⟩ := bind_eq_ok drained
      cases last
      obtain ⟨same, listener⟩ := queue_of_accept H told
      obtain ⟨emptied, hears'⟩ := ih drained
      have pending : d₁.pending = rest := by
        unfold pending
        rw [same, listener]
        exact left
      rw [same, listener] at hears'
      exact ⟨pending ▸ emptied, hears'.trans hears⟩

/-! ### In batches -/

theorem through_accept (completions : List Completion) (completion : Completion) :
    Through (announced completions) (accept H completion) := by
  intro d
  rw [accept_eq, accept_eq]
  dsimp only [announced, staleAgainst]
  cases d.presenter.client with
  | none => rfl
  | some client =>
    dsimp only
    cases d.presenter.shown.filter fun shown => completion.version < shown with
    | some shown => rfl
    | none =>
      dsimp only
      cases H.updateClient client completion.outline d.host <;> rfl

/-- As long as enough is queued already, a drain does not notice what comes in. -/
theorem drainUpTo_announced (completions : List Completion) {bound : Nat}
    (enough : bound ≤ d.pending.length) :
    drainUpTo H bound (d.announced completions) =
      match drainUpTo H bound d with
      | .ok taken d' => .ok taken (d'.announced completions)
      | .error p d' => .error p (d'.announced completions) := by
  induction bound generalizing d with
  | zero => rfl
  | succ bound ih =>
    obtain ⟨completion, rest, queued⟩ :=
      List.exists_cons_of_length_pos (by omega : 0 < d.pending.length)
    obtain ⟨outliner, next, left, -⟩ := Outliner.exists_take queued
    rw [drainUpTo_succ, drainUpTo_succ, next,
      show (d.announced completions).outliner.take? (d.announced completions).presenter.listener =
        _ from Outliner.take?_announced completions next]
    dsimp only
    rw [bind_apply, bind_apply]
    have told := through_accept H completions completion { d with outliner }
    rw [show { d.announced completions with outliner := outliner.announced completions } =
      announced completions { d with outliner } from rfl, told]
    cases accepted : accept H completion { d with outliner } with
    | error p d₁ => rfl
    | ok taken d₁ =>
      dsimp only
      obtain ⟨same, listener⟩ := queue_of_accept H accepted
      have pending : d₁.pending = rest := by
        unfold pending
        rw [same, listener]
        exact left
      rw [queued, List.length_cons] at enough
      rw [bind_apply, bind_apply, ih (by rw [pending]; omega)]
      cases drainUpTo H bound d₁ <;> rfl

theorem drainUpTo_add (first second : Nat) (d : Desk η) :
    drainUpTo H (first + second) d =
      (do
        let taken ← drainUpTo H first
        let more ← drainUpTo H second
        return taken + more) d := by
  induction first generalizing d with
  | zero =>
    rw [Nat.zero_add, drainUpTo, bind_apply, pure_apply]
    dsimp only
    rw [bind_apply]
    cases drainUpTo H second d with
    | ok more d' => exact congrArg (EStateM.Result.ok · d') (Nat.zero_add more).symm
    | error p d' => rfl
  | succ first ih =>
    rw [Nat.add_right_comm, drainUpTo_succ, bind_apply, drainUpTo_succ]
    cases queued : d.pending with
    | nil =>
      rw [Outliner.take?_of_empty queued]
      dsimp only
      rw [bind_apply, drainUpTo_of_empty H queued]
      rfl
    | cons completion rest =>
      obtain ⟨outliner, next, -⟩ := Outliner.exists_take queued
      rw [next]
      dsimp only
      rw [bind_apply, bind_apply]
      cases accept H completion { d with outliner } with
      | error p d₁ => rfl
      | ok accepted d₁ =>
        dsimp only
        rw [bind_apply, ih, bind_apply, bind_apply]
        cases drainUpTo H first d₁ with
        | error p d₂ => rfl
        | ok taken d₂ =>
          dsimp only [pure_apply]
          rw [bind_apply, bind_apply]
          cases drainUpTo H second d₂ with
          | error p d₃ => rfl
          | ok more d₃ => exact congrArg (EStateM.Result.ok · d₃) (Nat.add_right_comm _ _ _)

/-- Completions that come in make the queue longer, unless the listener was dropped. -/
theorem exists_pending_announced (completions : List Completion) (d : Desk η) :
    ∃ grown, ∀ d' : Desk η, (d'.outliner.broadcast.Hears d'.presenter.listener ↔
        d.outliner.broadcast.Hears d.presenter.listener) →
      (d'.announced completions).pending.length = d'.pending.length + grown := by
  by_cases hears : d.outliner.broadcast.Hears d.presenter.listener
  · refine ⟨completions.length, fun d' same => ?_⟩
    rw [← List.length_append]
    exact congrArg List.length (Outliner.queue_announced completions (same.mpr hears))
  · refine ⟨0, fun d' same => ?_⟩
    have gone := fun hears' => hears (same.mp hears')
    have empty : d'.pending = [] := Broadcast.queue_of_not_hears gone
    have empty' : (d'.announced completions).pending = [] :=
      Broadcast.queue_of_not_hears fun hears' =>
        gone ((Outliner.hears_announced completions d'.outliner).mp hears')
    rw [empty, empty']
    rfl

theorem drain_eq (d : Desk η) : drain H d = drainUpTo H d.pending.length d := rfl

theorem pending_of_drain {taken : Nat} (drained : drain H d = .ok taken d') : d'.pending = [] := by
  rw [(pending_of_drainUpTo H drained).1]
  exact List.drop_length

/-- Draining once what was queued and what came in is draining twice. -/
theorem drain_announced (completions : List Completion) (d : Desk η) :
    drain H (d.announced completions) =
      match drain H d with
      | .ok taken d' => (do let more ← drain H; return taken + more) (d'.announced completions)
      | .error p d' => .error p (d'.announced completions) := by
  obtain ⟨grown, length⟩ := exists_pending_announced completions d
  rw [drain_eq, length d Iff.rfl, drainUpTo_add, bind_apply,
    drainUpTo_announced H completions (Nat.le_refl _), drain_eq]
  cases drained : drainUpTo H d.pending.length d with
  | error p d' => rfl
  | ok taken d' =>
    have empty := pending_of_drain H drained
    have length' := length d' (pending_of_drainUpTo H drained).2
    rw [empty, List.length_nil, Nat.zero_add] at length'
    dsimp only
    rw [bind_apply, bind_apply, drain_eq, length']

/-- Drains a queue that is filled up in between. -/
def drainBatches : List (List Completion) → Action (Desk η) Nat
  | [] => drain H
  | batch :: rest => do
    let taken ← drain H
    modify (announced batch)
    let more ← drainBatches rest
    return taken + more

/-- It makes no difference in how many batches a queue is drained. -/
theorem drainBatches_eq_ok (batches : List (List Completion)) (d : Desk η) (total : Nat)
    (d' : Desk η) :
    drainBatches H batches d = .ok total d' ↔
      drain H (d.announced batches.flatten) = .ok total d' := by
  induction batches generalizing d total with
  | nil => exact Iff.rfl
  | cons batch rest ih =>
    rw [drain_announced, drainBatches, bind_apply]
    cases drain H d with
    | error p d₁ => exact ⟨nofun, nofun⟩
    | ok taken d₁ =>
      have together : d₁.announced (batch :: rest).flatten =
          (d₁.announced batch).announced rest.flatten := by
        unfold announced Outliner.announced
        rw [List.flatten_cons, List.foldl_append]
      have next := ih (d₁.announced batch)
      dsimp only
      rw [together, bind_apply, modify_apply]
      constructor
      · intro drained
        obtain ⟨more, d₂, drained, last⟩ := bind_eq_ok drained
        cases last
        exact (bind_of_ok ((next more).mp drained) _).trans rfl
      · intro drained
        obtain ⟨more, d₂, drained, last⟩ := bind_eq_ok drained
        cases last
        exact (bind_of_ok ((next more).mpr drained) _).trans rfl

end

/-! ### What reaches the client -/

section
variable {η : Type} {H : Host η} {caller : Option PresenterId} {client : ClientId}
  {d d₁ d₂ : Desk (Recorded η)} {given more : List Completion}

/-- Whether a presenter on its way through the queue handed `given` to its client and nothing
else changed about what there is to hand over. -/
structure Advances (client : ClientId) (given : List Completion) (d d₁ : Desk (Recorded η)) :
    Prop where
  forwarded : d.forwarded = given ++ d₁.forwarded
  newest : d₁.newest = d.newest
  calls : callsIn d₁.host.log = callsIn d.host.log ++ Completion.updates client given
  presenter : ∃ shown, d₁.presenter = { d.presenter with shown }

theorem Advances.refl (d : Desk (Recorded η)) : Advances client [] d d :=
  ⟨rfl, rfl, (List.append_nil _).symm, d.presenter.shown, rfl⟩

theorem Advances.trans (h : Advances client given d d₁) (h' : Advances client more d₁ d₂) :
    Advances client (given ++ more) d d₂ := by
  obtain ⟨shown, presenter⟩ := h.presenter
  obtain ⟨shown', presenter'⟩ := h'.presenter
  refine ⟨?_, h'.newest.trans h.newest, ?_, shown', presenter'.trans (by rw [presenter])⟩
  · rw [h.forwarded, h'.forwarded, List.append_assoc]
  · rw [h'.calls, h.calls, List.append_assoc, Completion.updates, Completion.updates,
      ← List.map_append]
    rfl

/-- A completion that is old is only taken from the queue. -/
theorem Advances.skip {completion : Completion} (queued : d.pending = completion :: d₁.pending)
    (old : ¬ d.presenter.shown.all (· ≤ completion.version) = true)
    (presenter : d₁.presenter = d.presenter) (host : d₁.host = d.host) :
    Advances client [] d d₁ where
  forwarded := by
    rw [Desk.forwarded, queued, Completion.forwarded_cons, if_neg old, ← presenter]
    rfl
  newest := by
    rw [Desk.newest, Desk.newest, queued, Completion.newest_cons,
      Completion.shownAfter_of_not_all old, presenter]
  calls := by
    rw [host]
    exact (List.append_nil _).symm
  presenter := ⟨d.presenter.shown, presenter⟩

/-- A completion that is not old is handed over. -/
theorem Advances.pass {completion : Completion} (queued : d.pending = completion :: d₁.pending)
    (fresh : d.presenter.shown.all (· ≤ completion.version) = true)
    (presenter : d₁.presenter = { d.presenter with shown := some completion.version })
    (calls : callsIn d₁.host.log =
      callsIn d.host.log ++ [.updateClient client completion.outline]) :
    Advances client [completion] d d₁ where
  forwarded := by
    rw [Desk.forwarded, queued, Completion.forwarded_cons, if_pos fresh, Desk.forwarded, presenter]
    rfl
  newest := by
    rw [Desk.newest, Desk.newest, queued, Completion.newest_cons,
      Completion.shownAfter_of_all fresh, presenter]
  calls := calls
  presenter := ⟨some completion.version, presenter⟩

theorem staleAgainst_eq_none_iff {d : Desk η} {completion : Completion} :
    d.staleAgainst completion = none ↔
      d.presenter.shown.all (· ≤ completion.version) = true := by
  unfold staleAgainst
  cases d.presenter.shown <;> simp

theorem accept_of_attached (H : Host η) {d : Desk η} (attached : d.presenter.client = some client)
    (completion : Completion) :
    accept H completion d =
      match d.staleAgainst completion with
      | some shown => .ok false { d with
          trace := d.trace ++ [.staleCompletion d.presenter.window completion.version shown] }
      | none =>
        let presenter := { d.presenter with shown := some completion.version }
        match H.updateClient client completion.outline d.host with
        | .error p host => .error p { d with presenter, host }
        | .ok () host => .ok true { d with presenter, host } := by
  have e := accept_eq H d completion
  rw [attached] at e
  exact e

/-- What a presenter that goes through its queue has done when it returns or panics.  It panics
only when its client does on a completion that was due. -/
def Hands (H : Host η) (caller : Option PresenterId) (client : ClientId) (d : Desk (Recorded η)) :
    EStateM.Result Panic (Desk (Recorded η)) Nat → Prop
  | .ok taken d' => ∃ given, Advances client given d d' ∧ taken = given.length
  | .error p d' => ∃ made completion before, Advances client (made ++ [completion]) d d' ∧
      H.updateClient client completion.outline before = .error p d'.host.host ∧
      d'.host.log.getLast? =
        some ⟨caller, before, .updateClient client completion.outline, .error p⟩

theorem Hands.after (h : Advances client given d d₁) {act : Action (Desk (Recorded η)) Nat}
    (rest : Hands H caller client d₁ (act d₁)) :
    Hands H caller client d ((do let more ← act; return more + given.length) d₁) := by
  rw [bind_apply]
  cases result : act d₁ with
  | ok taken d' =>
    rw [result] at rest
    obtain ⟨more, advances, rfl⟩ := rest
    refine ⟨given ++ more, h.trans advances, ?_⟩
    rw [List.length_append, Nat.add_comm]
  | error p d' =>
    rw [result] at rest
    obtain ⟨made, completion, before, advances, panicked⟩ := rest
    refine ⟨given ++ made, completion, before, ?_, panicked⟩
    rw [List.append_assoc]
    exact h.trans advances

theorem hands_drainUpTo (H : Host η) (caller : Option PresenterId)
    (attached : d.presenter.client = some client) (bound : Nat) :
    Hands H caller client d (drainUpTo (H.recorded caller) bound d) := by
  induction bound generalizing d with
  | zero => exact ⟨[], .refl d, rfl⟩
  | succ bound ih =>
    cases queued : d.pending with
    | nil =>
      rw [drainUpTo_of_empty _ queued]
      exact ⟨[], .refl d, rfl⟩
    | cons completion rest =>
      obtain ⟨outliner, next, left, -⟩ := Outliner.exists_take queued
      rw [drainUpTo_succ, next]
      dsimp only
      have accepted := accept_of_attached (H.recorded caller) (d := { d with outliner }) attached
        completion
      rw [bind_apply, accepted]
      cases stale : staleAgainst { d with outliner } completion with
      | some shown =>
        have old : ¬ d.presenter.shown.all (· ≤ completion.version) = true := fun fresh => by
          cases stale.symm.trans (staleAgainst_eq_none_iff.mpr fresh)
        have skipped : Advances client [] d { d with
            outliner
            trace := d.trace ++ [.staleCompletion d.presenter.window completion.version shown] } :=
          .skip (queued.trans (left ▸ rfl)) old rfl rfl
        exact .after skipped (ih attached)
      | none =>
        have fresh := staleAgainst_eq_none_iff.mp stale
        cases told : (H.recorded caller).updateClient client completion.outline d.host with
        | error p host =>
          have called := Host.calls_error told
          have passed : Advances client [completion] d { d with
              outliner
              presenter := { d.presenter with shown := some completion.version }
              host } :=
            .pass (queued.trans (left ▸ rfl)) fresh rfl called.callsIn
          exact ⟨[], completion, d.host.host, passed, called.answered, called.getLast?⟩
        | ok _ host =>
          have passed : Advances client [completion] d { d with
              outliner
              presenter := { d.presenter with shown := some completion.version }
              host } :=
            .pass (queued.trans (left ▸ rfl)) fresh rfl (Host.calls_ok told).callsIn
          exact .after passed (ih attached)

theorem hands_drain (H : Host η) (caller : Option PresenterId)
    (attached : d.presenter.client = some client) :
    Hands H caller client d (drain (H.recorded caller) d) :=
  hands_drainUpTo H caller attached d.pending.length

/-- What is done when everything that waited for a client was handed to it. -/
structure HandedOver (client : ClientId) (d d' : Desk (Recorded η)) : Prop where
  empty : d'.pending = []
  calls : callsIn d'.host.log = callsIn d.host.log ++ Completion.updates client d.forwarded
  presenter : d'.presenter = { d.presenter with shown := d.newest }
  /-- The client got the last one of those with the version that it shows. -/
  last : d.forwarded.getLast? =
    (d.pending.filter fun completion => some completion.version = d'.presenter.shown).getLast?

theorem Advances.eq_forwarded (h : Advances client given d d₁) (empty : d₁.pending = []) :
    given = d.forwarded := by
  have nothing : d₁.forwarded = [] := by
    rw [Desk.forwarded, empty]
    rfl
  rw [h.forwarded, nothing, List.append_nil]

theorem Advances.handedOver (h : Advances client given d d₁) (empty : d₁.pending = []) :
    HandedOver client d d₁ := by
  have shown : d₁.presenter.shown = d.newest := by
    rw [← h.newest, Desk.newest, empty]
    cases d₁.presenter.shown <;> rfl
  refine ⟨empty, h.eq_forwarded empty ▸ h.calls, ?_, ?_⟩
  · obtain ⟨shown', presenter⟩ := h.presenter
    rw [← shown, presenter]
  · rw [shown]
    exact Completion.getLast?_forwarded d.presenter.shown d.pending

/-- Whether draining a window, again after every panic of a client, led to a drain that returned.
In between the host may have done anything. -/
inductive DrainedAtLast (H : Host η) (caller : Option PresenterId) :
    Desk (Recorded η) → Desk (Recorded η) → Prop where
  | returned {d d' : Desk (Recorded η)} {taken : Nat}
      (drained : drain (H.recorded caller) d = .ok taken d') : DrainedAtLast H caller d d'
  | resumed {d d₁ d' : Desk (Recorded η)} {p : Panic} (host : η)
      (panicked : drain (H.recorded caller) d = .error p d₁)
      (rest : DrainedAtLast H caller { d₁ with host := { d₁.host with host } } d') :
      DrainedAtLast H caller d d'

theorem DrainedAtLast.exists_advances {d' : Desk (Recorded η)} (h : DrainedAtLast H caller d d')
    (attached : d.presenter.client = some client) :
    ∃ given, Advances client given d d' ∧ d'.pending = [] := by
  induction h with
  | returned drained =>
    obtain ⟨given, advances, -⟩ := drained ▸ hands_drain H caller attached
    exact ⟨given, advances, pending_of_drain _ drained⟩
  | resumed host panicked rest ih =>
    obtain ⟨made, completion, -, advances, -⟩ := panicked ▸ hands_drain H caller attached
    obtain ⟨shown, presenter⟩ := advances.presenter
    obtain ⟨given, more, empty⟩ := ih (presenter ▸ attached)
    exact ⟨_, advances.trans ⟨more.forwarded, more.newest, more.calls, more.presenter⟩, empty⟩

/-- Without a client a drain only empties the queue. -/
theorem drainUpTo_of_detached (H : Host η) {d : Desk η} (detached : d.presenter.client = none)
    (bound : Nat) :
    ∃ d', drainUpTo H bound d = .ok 0 d' ∧ d'.host = d.host ∧ d'.presenter = d.presenter := by
  induction bound generalizing d with
  | zero => exact ⟨d, rfl, rfl, rfl⟩
  | succ bound ih =>
    cases queued : d.pending with
    | nil => exact ⟨d, drainUpTo_of_empty H queued _, rfl, rfl⟩
    | cons completion rest =>
      obtain ⟨outliner, next, -⟩ := Outliner.exists_take queued
      rw [drainUpTo_succ, next]
      dsimp only
      rw [bind_apply, accept_eq]
      dsimp only
      rw [detached]
      dsimp only
      obtain ⟨d', drained, host, presenter⟩ := ih (d := { d with
        outliner
        trace := d.trace ++ [.completionWithoutBar d.presenter.window completion.version] })
        detached
      rw [bind_of_ok drained]
      exact ⟨d', rfl, host, presenter⟩

/-- Draining a window is complete.  Without a client it empties the queue, and nobody is called.
With a client the completions that are forwarded are handed over one by one, and only the
client can stop this: then draining again goes on where it stopped.  Into how many batches the
queue is divided makes no difference. -/
theorem drain_complete (H : Host η) (caller : Option PresenterId) (d : Desk (Recorded η)) :
    (d.presenter.client = none → ∃ d', drain (H.recorded caller) d = .ok 0 d' ∧
      d'.pending = [] ∧ d'.host = d.host ∧ d'.presenter = d.presenter) ∧
    (∀ client, d.presenter.client = some client →
      ((∃ d', drain (H.recorded caller) d = .ok d.forwarded.length d' ∧ HandedOver client d d') ∨
        ∃ p d₁ made completion before, drain (H.recorded caller) d = .error p d₁ ∧
          H.updateClient client completion.outline before = .error p d₁.host.host ∧
          d.forwarded = made ++ completion :: d₁.forwarded ∧
          callsIn d₁.host.log =
            callsIn d.host.log ++ Completion.updates client (made ++ [completion])) ∧
      ∀ d', DrainedAtLast H caller d d' → HandedOver client d d') ∧
    ∀ batches total d', drainBatches (H.recorded caller) batches d = .ok total d' ↔
      drain (H.recorded caller) (d.announced batches.flatten) = .ok total d' := by
  refine ⟨fun detached => ?_, fun client attached => ⟨?_, fun d' drained => ?_⟩,
    fun batches => drainBatches_eq_ok _ batches d⟩
  · obtain ⟨d', drained, host, presenter⟩ := drainUpTo_of_detached (H.recorded caller) detached _
    exact ⟨d', drained, pending_of_drain _ drained, host, presenter⟩
  · have hands := hands_drain H caller attached
    cases drained : drain (H.recorded caller) d with
    | ok taken d' =>
      rw [drained] at hands
      obtain ⟨given, advances, rfl⟩ := hands
      have empty := pending_of_drain _ drained
      rw [advances.eq_forwarded empty]
      exact .inl ⟨d', rfl, advances.handedOver empty⟩
    | error p d₁ =>
      rw [drained] at hands
      obtain ⟨made, completion, before, advances, panicked, -⟩ := hands
      refine .inr ⟨p, d₁, made, completion, before, rfl, panicked, ?_, advances.calls⟩
      rw [advances.forwarded, List.append_assoc]
      rfl
  · obtain ⟨given, advances, empty⟩ := drained.exists_advances attached
    exact advances.handedOver empty

/-- A host that counts the outlines its client gets.  The client panics on the second one. -/
def sore : Host Snapshot :=
  .plain fun s =>
    if s.version = 1 then .error .payload { s with version := 2 }
    else .ok () { s with version := s.version + 1 }

def soreDesk : Desk (Recorded Snapshot) where
  presenter := {
    window := ⟨1⟩, buffer := ⟨0⟩, shell := ⟨0⟩, bars := ⟨0⟩, factory := ⟨0⟩, filters := ⟨0⟩
    outliner := ⟨0⟩, listener := ⟨0⟩, client := some (.foreign 0), shown := some 2, priority := 0 }
  outliner := .hosted
    ⟨[{ id := ⟨0⟩, queue := [(3, 0), (1, 0), (4, 1), (2, 0), (4, 2)].map fun (version, length) =>
      .of (.empty version length) }], 1⟩
  bag := {}
  host := { host := ⟨0, ""⟩ }

/-- The drain stops at the first outline of version 4, and the next one brings the second. -/
theorem drain_complete_sore : ∃ d', DrainedAtLast sore none soreDesk d' ∧
    callsIn d'.host.log = Completion.updates (.foreign 0)
      [.of (.empty 3 0), .of (.empty 4 1), .of (.empty 4 2)] ∧
    d'.presenter.shown = some 4 := by
  let act := drain (sore.recorded none)
  have first : act soreDesk = .error .payload (act.after soreDesk) := rfl
  have second : act (act.after soreDesk) = .ok 1 (act.after (act.after soreDesk)) := rfl
  have drained : DrainedAtLast sore none soreDesk (act.after (act.after soreDesk)) :=
    .resumed (act.after soreDesk).host.host first (.returned second)
  have handed := ((drain_complete sore none soreDesk).2.1 (.foreign 0) rfl).2 _ drained
  exact ⟨_, drained, handed.calls, congrArg Presenter.shown handed.presenter⟩

end

end Desk

end OutlineBar
