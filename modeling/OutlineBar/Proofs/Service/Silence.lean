/-
What a service does after it was told to end, by a shutdown or by being dropped.

The main statement is `silent_after_end`.  Nothing is published any more, whatever is
requested.  Once no request comes any more the loop begins one more parse at most and ends
after five more moves at most, whichever of the possible moves it makes: a request that
waits may be picked up before the loop leaves, and a parse may panic on the way.  A
receiver that asks is given all that is queued for it, and finds itself closed only after
that, when the service is gone and its loop has ended.

Two measures go down as the loop moves, and no other turn raises them but a request.
`Service.patience` bounds the moves that are left and `Service.parsesLeft` the parses that
are left to begin.
-/
import Mathlib.Data.List.Induction
import OutlineBar.Proofs.Service.Delivery
import OutlineBar.Proofs.Service.Publications

namespace OutlineBar

/-- The loop knows of every request once it looked. -/
@[simp] theorem RequestSlot.hasUnseen_look (r : RequestSlot) : r.look.hasUnseen = false := by
  simp [look, hasUnseen]

namespace Service

variable {s s' : Service} {m : LoopMove} {events : List Event}

/-- How many moves the loop makes at most after it was told to end.  A request that it does
not know of costs it three: waking up, picking the request up, and a parse. -/
def patience (s : Service) : Nat :=
  match s.phase with
  | .waiting => 3 * s.requests.hasUnseen.toNat + 1
  | .woken => 3
  | .parsing _ => 3 * s.requests.hasUnseen.toNat + 2
  | .ended => 0

/-- How many parses the loop begins at most after it was told to end. -/
def parsesLeft (s : Service) : Nat :=
  match s.phase with
  | .woken => 1
  | .ended => 0
  | _ => s.requests.hasUnseen.toNat

theorem patience_le (s : Service) : s.patience ≤ 5 := by
  have := s.requests.hasUnseen.toNat_le
  unfold patience
  split <;> omega

theorem parsesLeft_le (s : Service) : s.parsesLeft ≤ 1 := by
  have := s.requests.hasUnseen.toNat_le
  unfold parsesLeft
  split <;> omega

/-- Every move of a loop that was told to end uses up patience. -/
theorem patience_lt_of_moves (told : s.cancelled = true) (moves : s.Moves m s' events) :
    s'.patience < s.patience := by
  cases moves with
  | wake waits news => simp [patience, wakeUp, waits, news]
  | nothing wakes none => simp [patience, wakes]
  | skip wakes latest known older => simp [patience, wakes]
  | parse wakes latest fresh => simp [patience, wakes]
  | publish parses outlined runs => cases told.symm.trans runs
  | withhold parses outlined ends => simp [patience, parses]
  | panic parses panics => simp [patience, parses]
  | leave waits ends => simp [patience, waits]

/-- A loop that was told to end begins no more parses than are left to it. -/
theorem parsesLeft_of_moves (told : s.cancelled = true) (moves : s.Moves m s' events) :
    (s.begins m).toList.length + s'.parsesLeft ≤ s.parsesLeft := by
  rw [begins_of_moves moves]
  cases moves with
  | wake waits news => simp [parsesLeft, wakeUp, waits, news, LoopPhase.snapshot?]
  | nothing wakes none => simp [parsesLeft, wakes, LoopPhase.snapshot?]
  | skip wakes latest known older => simp [parsesLeft, wakes, LoopPhase.snapshot?]
  | parse wakes latest fresh => simp [parsesLeft, wakes, LoopPhase.snapshot?]
  | publish parses outlined runs => cases told.symm.trans runs
  | withhold parses outlined ends => simp [parsesLeft, LoopPhase.snapshot?]
  | panic parses panics => simp [parsesLeft, parses, LoopPhase.snapshot?]
  | leave waits ends => simp [parsesLeft, LoopPhase.snapshot?]

/-- A loop that was told to end and has not ended can move. -/
theorem exists_move (told : s.cancelled = true) (runs : s.phase ≠ .ended) :
    ∃ m, (s.move? m).isSome := by
  cases phase : s.phase with
  | waiting => exact ⟨.leave, by simp [move?, phase, told]⟩
  | woken => exact ⟨.pick, by simp [move?, phase]⟩
  | parsing snapshot => exact ⟨.finish, by simp [move?, phase]⟩
  | ended => exact absurd phase runs

/-- What no move of the loop changes, and what only a publication does. -/
theorem kept_of_moves (moves : s.Moves m s' events) :
    s'.cancelled = s.cancelled ∧ s'.dropped = s.dropped ∧
      (s.cancelled = true → s'.completed = s.completed) := by
  cases moves with
  | publish parses outlined runs =>
    exact ⟨rfl, rfl, fun told => absurd (told.symm.trans runs) nofun⟩
  | _ => exact ⟨rfl, rfl, fun _ => rfl⟩

/-! ## Asking -/

/-- What a listener is answered that asks so many times in a row. -/
def answers (id : ListenerId) : Nat → Service → List Next
  | 0, _ => []
  | n + 1, s => (s.next id).1 :: answers id n (s.next id).2

/-- What a listener is answered for which nothing is queued. -/
def emptyAnswer (s : Service) : Next := if s.dropped && s.phase == .ended then .closed else .pending

theorem emptyAnswer_eq_closed : s.emptyAnswer = .closed ↔ s.dropped = true ∧ s.phase = .ended := by
  unfold emptyAnswer
  split
  · rename_i isOver
    simpa using isOver
  · rename_i goesOn
    simpa using goesOn

theorem next_of_nil {id : ListenerId} (empty : s.broadcast.queue id = []) :
    s.next id = (s.emptyAnswer, s) := by
  unfold next Broadcast.take?
  rw [empty]
  rfl

theorem next_of_cons {id : ListenerId} {completion : Completion} {rest : List Completion}
    (queued : s.broadcast.queue id = completion :: rest) :
    (s.next id).1 = .completion completion ∧ (s.next id).2.broadcast.queue id = rest ∧
      (s.next id).2.emptyAnswer = s.emptyAnswer := by
  obtain ⟨b, taken⟩ := Broadcast.exists_take queued
  have left := Broadcast.queue_take_self taken
  rw [queued, List.cons.injEq] at left
  unfold next
  rw [taken]
  exact ⟨rfl, left.2.symm, rfl⟩

theorem next_eq_closed {id : ListenerId} :
    (s.next id).1 = .closed ↔ s.broadcast.queue id = [] ∧ s.emptyAnswer = .closed := by
  cases queued : s.broadcast.queue id with
  | nil => simp [next_of_nil queued]
  | cons completion rest => simp [(next_of_cons queued).1]

theorem answers_of_nil {id : ListenerId} (empty : s.broadcast.queue id = []) (n : Nat) :
    s.answers id n = List.replicate n s.emptyAnswer := by
  induction n with
  | zero => rfl
  | succ n ih => rw [answers, next_of_nil empty, ih, List.replicate_succ]

/-- A listener is given its queue in order, and the same answer ever after. -/
theorem answers_eq (id : ListenerId) (n : Nat) {queue : List Completion}
    (queued : s.broadcast.queue id = queue) :
    s.answers id (queue.length + n) =
      queue.map Next.completion ++ List.replicate n s.emptyAnswer := by
  induction queue generalizing s with
  | nil => simpa using answers_of_nil queued n
  | cons completion rest ih =>
    obtain ⟨given, left, same⟩ := next_of_cons queued
    have steps : (completion :: rest).length + n = (rest.length + n) + 1 := by
      rw [List.length_cons]
      omega
    rw [steps, answers, given, ih left, same]
    rfl

end Service

namespace Ledger

variable {l : Ledger} {t : Turn}

/-- What the loop begins to parse along turns. -/
def begun (l : Ledger) (turns : List Turn) : List Snapshot :=
  (l.moved turns).filterMap fun (s, m) => s.begins m

/-! ## Silence -/

/-- After it was told to end, a service publishes nothing in a turn and stays told. -/
theorem turn_silent (exact : l.Exact) (told : l.service.cancelled = true) (t : Turn) :
    (l.turn t).published = l.published ∧
      (l.turn t).service.completed = l.service.completed ∧
      (l.turn t).service.cancelled = true := by
  rcases l.aside_or_moves t with ⟨aside, -⟩ | ⟨m, s, events, rfl, -, moves, service⟩
  · exact ⟨aside.published, aside.completed, aside.cancelled.mpr (.inl told)⟩
  · obtain ⟨cancelled, -, counted⟩ := Service.kept_of_moves moves
    refine ⟨?_, by rw [service, counted told], by rw [service, cancelled, told]⟩
    have e := Chronicle.move_of_moves moves
    show (l.toChronicle.move m).published = _
    rw [e, Service.heard_of_silent exact.ordered moves (counted told)]
    exact List.append_nil _

theorem run_silent (exact : l.Exact) (told : l.service.cancelled = true) (turns : List Turn) :
    (turns.foldl turn l).published = l.published ∧
      (turns.foldl turn l).service.completed = l.service.completed ∧
      (turns.foldl turn l).service.cancelled = true := by
  induction turns generalizing l with
  | nil => exact ⟨rfl, rfl, told⟩
  | cons t rest ih =>
    obtain ⟨published, completed, still⟩ := turn_silent exact told t
    obtain ⟨published', completed', stays⟩ := ih (exact.turn t) still
    exact ⟨published'.trans published, completed'.trans completed, stays⟩

/-! ## Coming to an end -/

/-- What is left to a loop that was told to end pays for what it does in a turn, unless the
turn is a request. -/
theorem turn_spends (told : l.service.cancelled = true) (t : Turn)
    (asks : ∀ snapshot, t ≠ .act (.request snapshot)) :
    (l.made t).toList.length + (l.turn t).service.patience ≤ l.service.patience ∧
      ((l.made t).toList.filterMap fun (s, m) => s.begins m).length +
        (l.turn t).service.parsesLeft ≤ l.service.parsesLeft := by
  rcases l.aside_or_moves t with ⟨aside, still⟩ | ⟨m, s, events, rfl, moved, moves, service⟩
  · simp [still, Service.patience, Service.parsesLeft, aside.phase, aside.requests asks]
  · have parses := Service.parsesLeft_of_moves told moves
    rw [moved, service]
    refine ⟨?_, ?_⟩
    · rw [Option.toList_some, List.length_singleton, Nat.add_comm]
      exact Service.patience_lt_of_moves told moves
    · cases begins : l.service.begins m <;> simpa [begins] using parses

theorem run_spends (exact : l.Exact) (told : l.service.cancelled = true) (turns : List Turn)
    (asks : ∀ snapshot, .act (.request snapshot) ∉ turns) :
    (l.moved turns).length ≤ l.service.patience ∧
      (l.begun turns).length ≤ l.service.parsesLeft := by
  induction turns generalizing l with
  | nil => exact ⟨Nat.zero_le _, Nat.zero_le _⟩
  | cons t rest ih =>
    have here := turn_spends told t fun snapshot e => asks snapshot (e ▸ List.mem_cons_self)
    have later := ih (exact.turn t) (turn_silent exact told t).2.2
      fun snapshot mem => asks snapshot (List.mem_cons_of_mem t mem)
    have begun : (l.begun (t :: rest)).length =
        ((l.made t).toList.filterMap fun (s, m) => s.begins m).length +
          ((l.turn t).begun rest).length := by
      rw [begun, moved, List.filterMap_append, List.length_append]
      rfl
    rw [begun, moved, List.length_append]
    omega

/-! ## What a service was told -/

/-- A service is gone when it was dropped, and told to end when it was shut down or
dropped. -/
theorem told_course (grammar : Grammar) (turns : List Turn) :
    ((course grammar turns).service.dropped = true ↔ .act .drop ∈ turns) ∧
      ((course grammar turns).service.cancelled = true ↔
        .act .shutdown ∈ turns ∨ .act .drop ∈ turns) := by
  induction turns using List.reverseRecOn with
  | nil =>
    have untold (t : Turn) : t ∉ ([] : List Turn) := List.not_mem_nil
    exact ⟨iff_of_false Bool.false_ne_true (untold _),
      iff_of_false Bool.false_ne_true fun told => told.elim (untold _) (untold _)⟩
  | append_singleton turns t ih =>
    rw [course_append, List.foldl_cons, List.foldl_nil]
    obtain ⟨gone, told⟩ := ih
    rcases (course grammar turns).aside_or_moves t with
      ⟨aside, -⟩ | ⟨m, s, events, rfl, -, moves, service⟩
    · rw [aside.dropped, aside.cancelled, ← Bool.not_eq_true, gone, told]
      simp only [List.mem_append, List.mem_singleton]
      constructor <;> tauto
    · obtain ⟨cancelled, dropped, -⟩ := Service.kept_of_moves moves
      rw [service, cancelled, dropped, gone, told]
      simp

/-- What is queued for a receiver was published since it came and not given to it yet. -/
theorem Exact.queue_eq (h : l.Exact) {r : Receiver} (mem : r ∈ l.receivers)
    (remains : r.dropped = false) :
    l.service.broadcast.queue r.id =
      (l.published.drop (r.since + r.got.length)).map Publication.completion := by
  rw [← List.drop_drop, List.map_drop, ← h.exact r mem remains, List.drop_left]

/-- Whatever happens to a service that was shut down or dropped, it publishes nothing any
more and counts no further publication.  From the last request on the loop begins one parse
at most and makes five moves at most, in whatever order its moves come; and until it has
ended it can move, so that it ends.

At any time, a receiver that asks again and again is given what was published since it came
and was not given to it yet, in that order, and after that the same answer each time.  It is
told that it is closed when nothing is left for it, the service was dropped and the loop has
ended, and not before: a service that was shut down closes nobody. -/
theorem silent_after_end (grammar : Grammar) (turns : List Turn) :
    let l := course grammar turns
    (∀ before after, turns = before ++ after →
      .act .shutdown ∈ before ∨ .act .drop ∈ before →
      let told := course grammar before
      l.published = told.published ∧
      l.service.completed = told.service.completed ∧
      ((∀ snapshot, .act (.request snapshot) ∉ after) →
        (told.begun after).length ≤ 1 ∧
        (told.moved after).length ≤ 5 ∧
        (l.service.phase ≠ .ended → ∃ m, (l.service.move? m).isSome))) ∧
    (∀ r ∈ l.remaining,
      let waiting := (l.published.drop (r.since + r.got.length)).map Publication.completion
      ((l.service.next r.id).1 = .closed ↔
        waiting = [] ∧ .act .drop ∈ turns ∧ l.service.phase = .ended) ∧
      ∃ last : Service.Next, (last = .pending ∨ last = .closed) ∧
        (last = .closed ↔ .act .drop ∈ turns ∧ l.service.phase = .ended) ∧
        ∀ n, l.service.answers r.id (waiting.length + n) =
          waiting.map .completion ++ List.replicate n last) := by
  intro l
  have exact : l.Exact := exact_course grammar turns
  refine ⟨?_, ?_⟩
  · intro before after split ended
    have told := (told_course grammar before).2.mpr ended
    have exact := exact_course grammar before
    have run : l = after.foldl turn (course grammar before) := by
      rw [← course_append, ← split]
    obtain ⟨published, completed, still⟩ := run_silent exact told after
    rw [← run] at published completed still
    refine ⟨published, completed, fun asks => ?_⟩
    obtain ⟨moves, parses⟩ := run_spends exact told after asks
    exact ⟨Nat.le_trans parses (Service.parsesLeft_le _),
      Nat.le_trans moves (Service.patience_le _), Service.exists_move still⟩
  · intro r mem waiting
    obtain ⟨listed, remains⟩ := mem_remaining.mp mem
    have queued : l.service.broadcast.queue r.id = waiting := exact.queue_eq listed remains
    have isOver : l.service.emptyAnswer = .closed ↔
        .act .drop ∈ turns ∧ l.service.phase = .ended := by
      rw [Service.emptyAnswer_eq_closed, (told_course grammar turns).1]
    refine ⟨?_, l.service.emptyAnswer, ?_, isOver, fun n => Service.answers_eq r.id n queued⟩
    · rw [Service.next_eq_closed, queued, isOver]
    · unfold Service.emptyAnswer
      split
      · exact .inr rfl
      · exact .inl rfl

/-- A service is shut down and dropped while it parses and a further request waits.  The
parse panics, the request is picked up before the loop leaves, its parse panics as well, and
only then does the loop end.  The outline published before is still received. -/
theorem silent_after_end_behind_panic :
    let before : List Turn := [.act .subscribe, .act (.request ⟨1, "a"⟩), .act (.loop .wake),
      .act (.loop .pick), .act (.loop .finish), .act (.request ⟨2, "b"⟩), .act (.loop .wake),
      .act (.loop .pick), .act (.request ⟨3, "c"⟩), .act .shutdown, .act .drop,
      .act (.turnGrammar fun _ => .error (.text "boom"))]
    let after : List Turn := [.act (.loop .finish), .act (.loop .wake), .act (.loop .pick),
      .act (.loop .finish), .act (.loop .leave)]
    let told := course (fun snapshot => .ok (.empty 0 snapshot.byteLength)) before
    let l := course (fun snapshot => .ok (.empty 0 snapshot.byteLength)) (before ++ after)
    (l.published = told.published ∧ l.service.completed = 1 ∧
      told.begun after = [⟨3, "c"⟩] ∧ (told.begun after).length ≤ 1 ∧
      (told.moved after).length = 5 ∧ l.service.phase = .ended) ∧
    ∃ completion, l.published.map Publication.completion = [completion] ∧
      l.service.answers ⟨0⟩ 3 = [.completion completion, .closed, .closed] := by
  intro before after told l
  obtain ⟨silent, asked⟩ :=
    silent_after_end (fun snapshot => .ok (.empty 0 snapshot.byteLength)) (before ++ after)
  obtain ⟨published, completed, ends⟩ :=
    silent before after rfl (.inl (by simp [before]))
  obtain ⟨parses, -, -⟩ := ends (by simp [after])
  obtain ⟨-, last, -, isOver, answers⟩ :=
    asked { id := ⟨0⟩, since := 0 } (List.mem_singleton.mpr rfl)
  have closed : last = .closed := isOver.mpr ⟨by simp [before], rfl⟩
  refine ⟨⟨published, completed, rfl, parses, rfl, rfl⟩, _, rfl, ?_⟩
  have three := answers 2
  rw [closed] at three
  exact three

end Ledger

end OutlineBar
