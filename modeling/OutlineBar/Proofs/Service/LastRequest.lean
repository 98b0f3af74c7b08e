/-
The last request is never lost.

Requests overwrite each other in their slot, also while the loop is between waking up
and reading, or while it parses.  The main statement is `last_request_settled`: whenever
the loop waits and knows of every request, the last one was published last, or was older
than what had been published, or made the grammar panic; and at no time was a request
picked up twice.

The argument is the invariant `Sound`.  What the loop knows of, `seen`, is the number of
the request that it picked up last, except between waking up and reading, when it is
larger than all numbers picked up so far.
-/
import OutlineBar.Proofs.Service.Chronicle

namespace OutlineBar.Chronicle

/-! ## The invariant -/

/-- What became of a request that the loop is done with. -/
def Settled (c : Chronicle) (p : PickUp) : Prop :=
  (∃ q, c.published.getLast? = some q ∧ q.number = p.number ∧
    q.completion.version = p.snapshot.version) ∨
  (∃ q, c.published.getLast? = some q ∧ p.snapshot.version < q.completion.version) ∨
  p.number ∈ c.panicked

/-- Where the loop stands with the requests that it knows of. -/
def Stage (c : Chronicle) : Prop :=
  match c.service.phase with
  | .waiting => c.service.requests.seen = 0 ∨
      ∃ p, c.picked.getLast? = some p ∧ p.number = c.service.requests.seen ∧ c.Settled p
  | .woken => 0 < c.service.requests.seen ∧ ∀ p ∈ c.picked, p.number < c.service.requests.seen
  | .parsing snapshot => c.picked.getLast? = some ⟨c.service.requests.seen, snapshot⟩
  | .ended => True

/-- What holds after every course. -/
structure Sound (c : Chronicle) : Prop where
  ordered : c.service.broadcast.Ordered
  sent : c.service.requests.sent = c.requested.length
  latest : c.service.requests.latest = c.requested.getLast?
  seen_le : c.service.requests.seen ≤ c.requested.length
  ascending : (c.picked.map PickUp.number).Pairwise (· < ·)
  bounded : ∀ p ∈ c.picked, p.number ≤ c.service.requests.seen
  genuine : ∀ p ∈ c.picked, 0 < p.number ∧ c.requested[p.number - 1]? = some p.snapshot
  last : c.service.lastVersion = c.published.getLast?.map fun q => q.completion.version
  stage : c.Stage

theorem sound_start (grammar : Grammar) : (start grammar).Sound where
  ordered := Broadcast.ordered_empty
  sent := rfl
  latest := rfl
  seen_le := Nat.le_refl 0
  ascending := .nil
  bounded := fun _ h => nomatch h
  genuine := fun _ h => nomatch h
  last := rfl
  stage := .inl rfl

/-! ## Calls -/

/-- An act that leaves the requests and the loop alone keeps the invariant. -/
theorem Sound.quiet {c : Chronicle} (h : c.Sound) {s : Service} (ordered : s.broadcast.Ordered)
    (requests : s.requests = c.service.requests) (phase : s.phase = c.service.phase)
    (lastVersion : s.lastVersion = c.service.lastVersion) : Sound { c with service := s } where
  ordered := ordered
  sent := by rw [requests]; exact h.sent
  latest := by rw [requests]; exact h.latest
  seen_le := by rw [requests]; exact h.seen_le
  ascending := h.ascending
  bounded := by rw [requests]; exact h.bounded
  genuine := h.genuine
  last := by rw [lastVersion]; exact h.last
  stage := by
    have stage := h.stage
    unfold Stage at stage ⊢
    rw [phase, requests]
    exact stage

/-- A call that leaves the requests and the loop alone keeps the invariant. -/
theorem Sound.call {c : Chronicle} (h : c.Sound) (change : Service → Service)
    (ordered : (change c.service).broadcast.Ordered)
    (requests : (change c.service).requests = c.service.requests)
    (phase : (change c.service).phase = c.service.phase)
    (lastVersion : (change c.service).lastVersion = c.service.lastVersion) :
    (c.call change).Sound := by
  unfold Chronicle.call
  split
  · exact h
  · exact h.quiet ordered requests phase lastVersion

theorem Sound.request {c : Chronicle} (h : c.Sound) (snapshot : Snapshot) :
    (c.request snapshot).Sound := by
  unfold Chronicle.request
  split
  · exact h
  · exact {
      ordered := h.ordered
      sent := by simp [Service.request, RequestSlot.put, h.sent]
      latest := by simp [Service.request, RequestSlot.put]
      seen_le := by
        have := h.seen_le
        simp only [Service.request, RequestSlot.put, List.length_append, List.length_singleton]
        omega
      ascending := h.ascending
      bounded := h.bounded
      genuine := by
        intro p hp
        obtain ⟨pos, at_p⟩ := h.genuine p hp
        refine ⟨pos, ?_⟩
        have lt : p.number - 1 < c.requested.length := (List.getElem?_eq_some_iff.mp at_p).1
        show (c.requested ++ [snapshot])[p.number - 1]? = some p.snapshot
        rw [List.getElem?_append_left lt, at_p]
      last := h.last
      stage := h.stage }

theorem Sound.takeOldest {c : Chronicle} (h : c.Sound) (id : ListenerId) :
    Sound { c with service := takeOldest id c.service } := by
  unfold Chronicle.takeOldest
  split
  · rename_i completion broadcast taken
    exact h.quiet (h.ordered.take taken) rfl rfl rfl
  · exact h

/-! ## Moves of the loop -/

/-- Waking up makes known a request whose number is larger than all picked up so far. -/
theorem Sound.wakeUp {c : Chronicle} (h : c.Sound) (news : c.service.requests.hasUnseen = true) :
    Sound { c with service := c.service.wakeUp } := by
  have seen_lt : c.service.requests.seen < c.requested.length := by
    have ne : c.service.requests.seen ≠ c.service.requests.sent := by
      simpa [RequestSlot.hasUnseen] using news
    have := h.seen_le
    have := h.sent
    omega
  have less : ∀ p ∈ c.picked, p.number < c.requested.length := fun p hp =>
    Nat.lt_of_le_of_lt (h.bounded p hp) seen_lt
  exact {
    ordered := h.ordered
    sent := h.sent
    latest := h.latest
    seen_le := Nat.le_of_eq h.sent
    ascending := h.ascending
    bounded := fun p hp => by
      show p.number ≤ c.service.requests.sent
      rw [h.sent]
      exact Nat.le_of_lt (less p hp)
    genuine := h.genuine
    last := h.last
    stage := by
      show 0 < c.service.requests.sent ∧ ∀ p ∈ c.picked, p.number < c.service.requests.sent
      rw [h.sent]
      exact ⟨Nat.lt_of_le_of_lt (Nat.zero_le _) seen_lt, less⟩ }

/-- The last request exists when the loop has woken up, and its number is larger than
all picked up so far. -/
theorem Sound.woken {c : Chronicle} (h : c.Sound) (wakes : c.service.phase = .woken) :
    0 < c.requested.length ∧ ∀ p ∈ c.picked, p.number < c.requested.length := by
  have stage := h.stage
  unfold Stage at stage
  rw [wakes] at stage
  obtain ⟨pos, less⟩ := stage
  exact ⟨Nat.lt_of_lt_of_le pos h.seen_le, fun p hp => Nat.lt_of_lt_of_le (less p hp) h.seen_le⟩

/-- Reading picks up the last request, which leaves the stage to be shown. -/
theorem Sound.pick {c : Chronicle} (h : c.Sound) (wakes : c.service.phase = .woken)
    {snapshot : Snapshot} (latest : c.service.requests.latest = some snapshot) {s : Service}
    (ordered : s.broadcast.Ordered) (requests : s.requests = c.service.requests.look)
    (lastVersion : s.lastVersion = c.service.lastVersion)
    (stage :
      Stage { c with service := s, picked := c.picked ++ [⟨c.requested.length, snapshot⟩] }) :
    Sound { c with service := s, picked := c.picked ++ [⟨c.requested.length, snapshot⟩] } := by
  obtain ⟨pos, less⟩ := h.woken wakes
  have sent : s.requests.sent = c.requested.length := by rw [requests]; exact h.sent
  have seen : s.requests.seen = c.requested.length := by rw [requests]; exact h.sent
  exact {
    ordered := ordered
    sent := sent
    latest := by rw [requests]; exact h.latest
    seen_le := Nat.le_of_eq seen
    ascending := by
      rw [List.map_append, List.pairwise_append]
      refine ⟨h.ascending, List.pairwise_singleton _ _, ?_⟩
      intro n hn m hm
      obtain ⟨p, hp, rfl⟩ := List.mem_map.mp hn
      rw [List.mem_singleton.mp hm]
      exact less p hp
    bounded := by
      intro p hp
      show p.number ≤ s.requests.seen
      rw [seen]
      rcases List.mem_append.mp hp with old | new
      · exact Nat.le_of_lt (less p old)
      · obtain rfl := List.mem_singleton.mp new
        exact Nat.le_refl c.requested.length
    genuine := by
      intro p hp
      rcases List.mem_append.mp hp with old | new
      · exact h.genuine p old
      · rw [List.mem_singleton.mp new]
        refine ⟨pos, ?_⟩
        rw [← List.getLast?_eq_getElem?, ← h.latest, latest]
    last := by rw [lastVersion]; exact h.last
    stage := stage }

/-- Ending a parse keeps the invariant if the request is settled afterwards. -/
theorem Sound.finish {c : Chronicle} (h : c.Sound) {snapshot : Snapshot}
    (parses : c.service.phase = .parsing snapshot) {s : Service} {published : List Publication}
    {panicked : List Nat} (ordered : s.broadcast.Ordered)
    (requests : s.requests = c.service.requests) (waits : s.phase = .waiting)
    (last : s.lastVersion = published.getLast?.map fun q => q.completion.version)
    (settled : Settled { c with service := s, published, panicked }
      ⟨c.service.requests.seen, snapshot⟩) :
    Sound { c with service := s, published, panicked } where
  ordered := ordered
  sent := by rw [requests]; exact h.sent
  latest := by rw [requests]; exact h.latest
  seen_le := by rw [requests]; exact h.seen_le
  ascending := h.ascending
  bounded := by rw [requests]; exact h.bounded
  genuine := h.genuine
  last := last
  stage := by
    have stage := h.stage
    unfold Stage at stage ⊢
    rw [parses] at stage
    rw [waits]
    exact .inr ⟨_, stage, by rw [requests], settled⟩

/-- The number of the parse under way is what the loop knows of. -/
theorem Sound.current_eq {c : Chronicle} (h : c.Sound) {snapshot : Snapshot}
    (parses : c.service.phase = .parsing snapshot) : c.current = c.service.requests.seen := by
  have stage := h.stage
  unfold Stage at stage
  rw [parses] at stage
  unfold current
  rw [stage]
  rfl

theorem Sound.ended {c : Chronicle} (h : c.Sound) :
    Sound { c with service := { c.service with phase := .ended } } where
  ordered := h.ordered
  sent := h.sent
  latest := h.latest
  seen_le := h.seen_le
  ascending := h.ascending
  bounded := h.bounded
  genuine := h.genuine
  last := h.last
  stage := trivial

theorem Sound.moved {c : Chronicle} (h : c.Sound) {m : LoopMove} {s : Service} {events : List Event}
    (moves : c.service.Moves m s events) : (c.move m).Sound := by
  rw [move_of_moves moves]
  -- Every case but a publication has nothing heard, and every case but a panic nothing noted.
  have moved := moves
  cases moves with
  | wake waits news =>
    rw [Service.heard_of_silent h.ordered moved rfl, panics_of_idle (by rw [waits]; rfl) _]
    simpa using h.wakeUp news
  | nothing wakes none =>
    obtain ⟨pos, -⟩ := h.woken wakes
    rw [h.latest, List.getLast?_eq_none_iff] at none
    rw [none] at pos
    exact absurd pos (Nat.lt_irrefl 0)
  | @skip snapshot last wakes latest known older =>
    rw [Service.heard_of_silent h.ordered moved rfl, panics_of_idle (by rw [wakes]; rfl) _]
    have picked : c.nextPickUp = [⟨c.requested.length, snapshot⟩] := by
      unfold nextPickUp; rw [latest]; rfl
    simp only [List.map_nil, List.append_nil, if_true, picked]
    refine h.pick wakes latest h.ordered rfl rfl (.inr ⟨_, List.getLast?_concat, h.sent.symm, ?_⟩)
    rw [h.last] at known
    obtain ⟨q, hq, rfl⟩ := Option.map_eq_some_iff.mp known
    exact .inr (.inl ⟨q, hq, older⟩)
  | @parse snapshot wakes latest fresh =>
    rw [Service.heard_of_silent h.ordered moved rfl, panics_of_idle (by rw [wakes]; rfl) _]
    have picked : c.nextPickUp = [⟨c.requested.length, snapshot⟩] := by
      unfold nextPickUp; rw [latest]; rfl
    simp only [List.map_nil, List.append_nil, if_true, picked]
    refine h.pick wakes latest h.ordered rfl rfl ?_
    show (c.picked ++ [_]).getLast? = some ⟨c.service.requests.sent, snapshot⟩
    rw [List.getLast?_concat, h.sent]
  | @publish snapshot outline parses outlined runs =>
    rw [Service.heard_of_publish h.ordered parses outlined runs,
      panics_of_outline moved parses outlined, h.current_eq parses]
    simp only [List.map_cons, List.map_nil, reduceCtorEq, if_false, List.append_nil]
    have version := Grammar.outline_version outlined
    refine h.finish parses (h.ordered.publish _) rfl rfl ?_
      (.inl ⟨_, List.getLast?_concat, rfl, version⟩)
    rw [List.getLast?_concat]
    rfl
  | withhold parses outlined ends =>
    rw [Service.heard_of_silent h.ordered moved rfl, panics_of_outline moved parses outlined]
    simpa using h.ended
  | panic parses panics =>
    rw [Service.heard_of_silent h.ordered moved rfl, panics_of_panic moved parses panics,
      h.current_eq parses]
    simp only [List.map_nil, reduceCtorEq, if_false, List.append_nil]
    exact h.finish parses h.ordered rfl rfl h.last
      (.inr (.inr (List.mem_append_right _ List.mem_cons_self)))
  | leave waits ends =>
    rw [Service.heard_of_silent h.ordered moved rfl, panics_of_idle (by rw [waits]; rfl) _]
    simpa using h.ended

theorem Sound.move {c : Chronicle} (h : c.Sound) (m : LoopMove) : (c.move m).Sound := by
  cases possible : c.service.move? m with
  | none =>
    unfold Chronicle.move
    rw [possible]
    exact h
  | some next => exact h.moved (Service.moves_of_move? possible)

/-! ## Courses -/

theorem Sound.act {c : Chronicle} (h : c.Sound) (a : ServiceAct) : (c.act a).Sound := by
  cases a with
  | request snapshot => exact h.request snapshot
  | parseNow snapshot => exact h.call (fun s => (s.parseNow snapshot).2) h.ordered rfl rfl rfl
  | subscribe => exact h.call (fun s => s.subscribe.2) h.ordered.subscribe rfl rfl rfl
  | dropListener id => exact h.quiet (h.ordered.update id fun _ => rfl) rfl rfl rfl
  | take id => exact h.takeOldest id
  | countListeners => exact h.call (fun s => s.listenerCount.2) h.ordered.prune rfl rfl rfl
  | shutdown => exact h.call Service.shutdown h.ordered rfl rfl rfl
  | drop => exact h.call Service.drop h.ordered rfl rfl rfl
  | loop m => exact h.move m
  | turnGrammar grammar => exact h.quiet h.ordered rfl rfl rfl

theorem sound_course (grammar : Grammar) (acts : List ServiceAct) : (course grammar acts).Sound :=
  course_invariant (sound_start grammar) (fun _ a h => h.act a) acts

/-- At any time every request was picked up at most once, and what was picked up under a
number is the request of that number.  Whenever the loop waits and knows of every
request, the last request made is the last one published, or its version is below the
last one published, or its parse panicked. -/
theorem last_request_settled (grammar : Grammar) (acts : List ServiceAct) {c : Chronicle}
    (reached : c = course grammar acts) :
    (c.picked.map PickUp.number).Nodup ∧
    (∀ p ∈ c.picked, 0 < p.number ∧ c.requested[p.number - 1]? = some p.snapshot) ∧
    (c.service.phase = .waiting → c.service.requests.hasUnseen = false →
      ∀ snapshot, c.requested.getLast? = some snapshot →
        (∃ q, c.published.getLast? = some q ∧ q.number = c.requested.length ∧
          q.completion.version = snapshot.version) ∨
        (∃ q, c.published.getLast? = some q ∧ snapshot.version < q.completion.version) ∨
        c.requested.length ∈ c.panicked) := by
  subst reached
  have sound := sound_course grammar acts
  refine ⟨sound.ascending.imp Nat.ne_of_lt, sound.genuine, ?_⟩
  intro waits quiet snapshot last
  generalize course grammar acts = c at sound waits quiet last ⊢
  have seen : c.service.requests.seen = c.requested.length := by
    rw [← sound.sent]
    simpa [RequestSlot.hasUnseen] using quiet
  have asked : c.requested.length ≠ 0 := fun e => by
    rw [List.length_eq_zero_iff.mp e] at last
    cases last
  have stage := sound.stage
  unfold Stage at stage
  rw [waits] at stage
  obtain none | ⟨p, hp, number, settled⟩ := stage
  · exact absurd (seen ▸ none) asked
  -- The request picked up last has the number of the last request, so it is that one.
  have same : p.snapshot = snapshot := by
    obtain ⟨-, at_p⟩ := sound.genuine p (List.mem_of_getLast? hp)
    rw [number, seen, ← List.getLast?_eq_getElem?, last] at at_p
    exact (Option.some.inj at_p).symm
  unfold Settled at settled
  rw [number, seen, same] at settled
  exact settled

/-- A request that comes after the loop woke up for an earlier one and before it reads
takes its place, and is published although the loop never wakes up for it. -/
theorem last_request_settled_between_wake_and_read :
    let acts : List ServiceAct := [.request ⟨5, "a"⟩, .loop .wake, .request ⟨3, "b"⟩, .loop .pick,
      .loop .finish]
    let c := course (fun snapshot => .ok (.empty 0 snapshot.byteLength)) acts
    c.picked = [⟨2, ⟨3, "b"⟩⟩] ∧ c.service.phase = .waiting ∧
      c.service.requests.hasUnseen = false ∧ c.requested.getLast? = some ⟨3, "b"⟩ ∧
      ((∃ q, c.published.getLast? = some q ∧ q.number = 2 ∧ q.completion.version = 3) ∨
        (∃ q, c.published.getLast? = some q ∧ 3 < q.completion.version) ∨ 2 ∈ c.panicked) :=
  ⟨rfl, rfl, rfl, rfl, (last_request_settled _ _ rfl).2.2 rfl rfl ⟨3, "b"⟩ rfl⟩

end OutlineBar.Chronicle
