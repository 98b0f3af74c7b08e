/-
Which requests the completions in a queue answer.

A listener that was there from the start of a service is told outlines of requests, each request
at most once and in the order of the requests.  `Tells` says this of a listener and of all that
it was given so far, as long as the grammar stays the same.  The loop reads the last request
only, so between two publications requests may be passed over, but none is read again.
-/
import Mathlib.Data.List.Forall2
import OutlineBar.Proofs.Service.Heading

namespace OutlineBar

/-- Whether a completion is the outline of a snapshot. -/
def Grammar.Completes (grammar : Grammar) (snapshot : Snapshot) (completion : Completion) : Prop :=
  ∃ outline, grammar.outline snapshot = .ok outline ∧ completion = .of outline

/-- Whether completions are outlines of some of the requests, in their order. -/
def Grammar.Answers (grammar : Grammar) (asked : List Snapshot) (told : List Completion) : Prop :=
  ∃ shown : List Snapshot, shown.Sublist asked ∧ List.Forall₂ grammar.Completes shown told

/-- Whether a loop is past the first `n` requests, so that the next outline that it publishes
answers a later one. -/
def LoopPhase.IsPast (asked : List Snapshot) (n : Nat) (requests : RequestSlot) :
    LoopPhase → Prop
  | waiting => n ≤ requests.seen
  | woken => n < requests.sent
  | parsing snapshot =>
    ∃ place, asked[place]? = some snapshot ∧ n ≤ place ∧ place < requests.seen
  | ended => True

/-- A new request is a later one. -/
theorem LoopPhase.IsPast.request {asked : List Snapshot} {n : Nat} {requests : RequestSlot}
    {phase : LoopPhase} (past : phase.IsPast asked n requests) (snapshot : Snapshot) :
    phase.IsPast (asked ++ [snapshot]) n (requests.put snapshot) := by
  cases phase with
  | waiting => exact past
  | woken => exact Nat.lt_succ_of_lt past
  | parsing _ =>
    obtain ⟨place, there, after, known⟩ := past
    have within := (List.getElem?_eq_some_iff.mp there).1
    exact ⟨place, (List.getElem?_append_left within).trans there, after, known⟩
  | ended => trivial

namespace Service

/-- What holds of a service that was asked for these outlines and no others.  A listener was
given these completions, and others are in its queue. -/
structure Tells (grammar : Grammar) (listener : ListenerId) (asked : List Snapshot)
    (given : List Completion) (s : Service) : Prop where
  ready : s.Ready grammar listener
  sent : s.requests.sent = asked.length
  latest : s.requests.latest = asked.getLast?
  told : ∃ n, grammar.Answers (asked.take n) (given ++ s.broadcast.queue listener) ∧
    s.phase.IsPast asked n s.requests

namespace Tells

variable {grammar : Grammar} {listener : ListenerId} {asked : List Snapshot}
  {given : List Completion} {s s' : Service}

theorem start (grammar : Grammar) :
    Tells grammar (Service.start grammar).subscribe.1 [] []
      (Service.start grammar).subscribe.2 where
  ready := ⟨rfl, Broadcast.hears_subscribe_self _, Nat.le_refl 0⟩
  sent := rfl
  latest := rfl
  told := ⟨0, ⟨[], .slnil, .nil⟩, Nat.le_refl 0⟩

theorem answers (h : s.Tells grammar listener asked given) :
    grammar.Answers asked (given ++ s.broadcast.queue listener) := by
  obtain ⟨n, ⟨shown, part, all⟩, -⟩ := h.told
  exact ⟨shown, part.trans (List.take_sublist n asked), all⟩

/-- A change of what the invariant does not look at. -/
theorem quiet (h : s.Tells grammar listener asked given) (sameGrammar : s'.grammar = s.grammar)
    (broadcast : s'.broadcast = s.broadcast) (requests : s'.requests = s.requests)
    (phase : s'.phase = s.phase) : s'.Tells grammar listener asked given where
  ready := by
    refine ⟨sameGrammar.trans h.ready.grammar, ?_, ?_⟩
    · rw [broadcast]; exact h.ready.hears
    · rw [requests]; exact h.ready.seen_le
  sent := by rw [requests]; exact h.sent
  latest := by rw [requests]; exact h.latest
  told := by
    rw [broadcast, requests, phase]
    exact h.told

theorem request (h : s.Tells grammar listener asked given) (snapshot : Snapshot) :
    (s.request snapshot).Tells grammar listener (asked ++ [snapshot]) given where
  ready := h.ready.request snapshot
  sent := by
    rw [List.length_append, ← h.sent]
    rfl
  latest := List.getLast?_concat.symm
  told := by
    obtain ⟨n, ⟨shown, part, all⟩, past⟩ := h.told
    refine ⟨n, ⟨shown, part.trans ?_, all⟩, past.request snapshot⟩
    rw [List.take_append]
    exact List.sublist_append_left _ _

/-- The listener takes the front of its queue. -/
theorem take (h : s.Tells grammar listener asked given) {completion : Completion}
    {broadcast : Broadcast} (taken : s.broadcast.take? listener = some (completion, broadcast)) :
    Tells grammar listener asked (given ++ [completion]) { s with broadcast } where
  ready := ⟨h.ready.grammar, (Broadcast.hears_take taken).mpr h.ready.hears, h.ready.seen_le⟩
  sent := h.sent
  latest := h.latest
  told := by
    obtain ⟨n, told, past⟩ := h.told
    rw [Broadcast.queue_take_self taken] at told
    exact ⟨n, by rwa [List.append_assoc], past⟩

/-! ## Moves of the loop -/

/-- A move that publishes nothing and leaves the requests, or looks at them. -/
theorem silent (h : s.Tells grammar listener asked given) (ready : s'.Ready grammar listener)
    (broadcast : s'.broadcast = s.broadcast) (sent : s'.requests.sent = s.requests.sent)
    (latest : s'.requests.latest = s.requests.latest)
    (past : ∀ n, s.phase.IsPast asked n s.requests → s'.phase.IsPast asked n s'.requests) :
    s'.Tells grammar listener asked given where
  ready := ready
  sent := sent.trans h.sent
  latest := latest.trans h.latest
  told := by
    obtain ⟨n, told, before⟩ := h.told
    rw [broadcast]
    exact ⟨n, told, past n before⟩

/-- A publication tells the request that was being parsed, which comes after all that
were told. -/
theorem publish (h : s.Tells grammar listener asked given) (ready : s'.Ready grammar listener)
    {snapshot : Snapshot} {outline : Outline} (parses : s.phase = .parsing snapshot)
    (outlined : s.grammar.outline snapshot = .ok outline) (waits : s'.phase = .waiting)
    (broadcast : s'.broadcast = (s.broadcast.publish (.of outline)).2)
    (requests : s'.requests = s.requests) : s'.Tells grammar listener asked given where
  ready := ready
  sent := by rw [requests]; exact h.sent
  latest := by rw [requests]; exact h.latest
  told := by
    obtain ⟨n, ⟨shown, part, all⟩, past⟩ := h.told
    rw [parses] at past
    obtain ⟨place, there, after, known⟩ := past
    have last : grammar.Completes snapshot (.of outline) :=
      ⟨outline, h.ready.grammar ▸ outlined, rfl⟩
    -- Requests between the first `n` and this one were passed over.
    refine ⟨place + 1, ⟨shown ++ [snapshot], ?_, ?_⟩, ?_⟩
    · rw [List.take_add_one, there]
      exact (part.trans (List.take_sublist_take_left after)).append (.refl _)
    · rw [broadcast, Broadcast.queue_publish h.ready.hears, ← List.append_assoc]
      exact List.rel_append all (.cons last .nil)
    · rw [waits, requests]
      exact known

theorem moved (h : s.Tells grammar listener asked given) {m : LoopMove} {events : List Event}
    (moves : s.Moves m s' events) : s'.Tells grammar listener asked given := by
  have ready := h.ready.moved moves
  have looked (n : Nat) (past : LoopPhase.woken.IsPast asked n s.requests) :
      LoopPhase.waiting.IsPast asked n s.requests.look := Nat.le_of_lt past
  cases moves with
  | wake waits news =>
    refine h.silent ready rfl rfl rfl fun n past => ?_
    have seen_ne : s.requests.seen ≠ s.requests.sent := bne_iff_ne.mp news
    have seen_le := h.ready.seen_le
    rw [waits] at past
    have before : n ≤ s.requests.seen := past
    show n < s.requests.sent
    omega
  | nothing wakes none =>
    exact h.silent ready rfl rfl rfl fun n past => looked n (wakes ▸ past)
  | skip wakes latest known older =>
    exact h.silent ready rfl rfl rfl fun n past => looked n (wakes ▸ past)
  | @parse snapshot wakes latest fresh =>
    refine h.silent ready rfl rfl rfl fun n past => ?_
    rw [wakes] at past
    have before : n < s.requests.sent := past
    have sent := h.sent
    -- What is read is the last request.
    refine ⟨s.requests.sent - 1, ?_, Nat.le_sub_one_of_lt before, ?_⟩
    · rw [sent, ← List.getLast?_eq_getElem?, ← h.latest, latest]
    · show s.requests.sent - 1 < s.requests.sent
      omega
  | publish parses outlined runs => exact h.publish ready parses outlined rfl rfl rfl
  | withhold parses outlined ends => exact h.silent ready rfl rfl rfl fun n _ => trivial
  | panic parses panics =>
    refine h.silent ready rfl rfl rfl fun n past => ?_
    rw [parses] at past
    obtain ⟨place, -, after, known⟩ := past
    exact Nat.le_of_lt (Nat.lt_of_le_of_lt after known)
  | leave waits ends => exact h.silent ready rfl rfl rfl fun n _ => trivial

theorem move (h : s.Tells grammar listener asked given) (m : LoopMove) :
    ((s.move? m).getD (s, [])).1.Tells grammar listener asked given := by
  cases moved : s.move? m with
  | none => exact h
  | some next => exact h.moved (moves_of_move? moved)

end Tells

end Service

end OutlineBar
