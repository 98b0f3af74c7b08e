/-
What one move of a service's loop can do.

`Moves` lists the cases, and `moves_of_move?` says that there are no others.  Proofs
about runs go by these cases and never open `Service.move?`.
-/
import OutlineBar.Outliner.Service

namespace OutlineBar

theorem Grammar.outline_version {grammar : Grammar} {snapshot : Snapshot} {outline : Outline}
    (h : grammar.outline snapshot = .ok outline) : outline.version = snapshot.version := by
  unfold Grammar.outline at h
  split at h <;> cases h
  rfl

theorem Grammar.outline_of_toOption {grammar : Grammar} {snapshot : Snapshot} {outline : Outline}
    (h : (grammar.outline snapshot).toOption = some outline) :
    grammar.outline snapshot = .ok outline := by
  cases outlined : grammar.outline snapshot with
  | ok outline' =>
    rw [outlined] at h
    exact congrArg Except.ok (Option.some.inj h)
  | error p =>
    rw [outlined] at h
    cases h

/-- An outline is what the grammar made, under another version. -/
theorem Grammar.outline_eq_ok {grammar : Grammar} {snapshot : Snapshot} {outline : Outline}
    (h : grammar.outline snapshot = .ok outline) :
    ∃ made, grammar snapshot = .ok made ∧ outline = made.stamped snapshot.version := by
  unfold Grammar.outline at h
  split at h <;> cases h
  exact ⟨_, ‹_›, rfl⟩

theorem Grammar.outline_eq_error {grammar : Grammar} {snapshot : Snapshot} {p : Panic}
    (h : grammar.outline snapshot = .error p) : grammar snapshot = .error p := by
  unfold Grammar.outline at h
  split at h <;> cases h
  assumption

namespace Service

/-- The service after its outline of a snapshot was published. -/
def published (s : Service) (outline : Outline) : Service :=
  { s with
    broadcast := (s.broadcast.publish (.of outline)).2
    phase := .waiting
    lastVersion := some outline.version
    completed := s.completed + 1 }

/-- `Moves s m s' events` says that the move `m` leads from `s` to `s'` and records `events`. -/
inductive Moves (s : Service) : LoopMove → Service → List Event → Prop where
  | wake (waits : s.phase = .waiting) (news : s.requests.hasUnseen = true) :
      Moves s .wake s.wakeUp []
  | nothing (wakes : s.phase = .woken) (none : s.requests.latest = none) :
      Moves s .pick { s with requests := s.requests.look, phase := .waiting } []
  | skip {snapshot : Snapshot} {last : Nat} (wakes : s.phase = .woken)
      (latest : s.requests.latest = some snapshot) (known : s.lastVersion = some last)
      (older : snapshot.version < last) :
      Moves s .pick { s with requests := s.requests.look, phase := .waiting }
        [.olderSkipped snapshot.version last]
  | parse {snapshot : Snapshot} (wakes : s.phase = .woken)
      (latest : s.requests.latest = some snapshot)
      (fresh : ∀ last, s.lastVersion = some last → last ≤ snapshot.version) :
      Moves s .pick { s with
        requests := s.requests.look
        phase := .parsing snapshot
        started := s.started + 1 } []
  | publish {snapshot : Snapshot} {outline : Outline} (parses : s.phase = .parsing snapshot)
      (outlined : s.grammar.outline snapshot = .ok outline) (runs : s.cancelled = false) :
      Moves s .finish (s.published outline)
        [.parseCompleted outline.version (s.broadcast.publish (.of outline)).1]
  | withhold {snapshot : Snapshot} {outline : Outline} (parses : s.phase = .parsing snapshot)
      (outlined : s.grammar.outline snapshot = .ok outline) (ends : s.cancelled = true) :
      Moves s .finish { s with phase := .ended } [.loopEnded]
  | panic {snapshot : Snapshot} {p : Panic} (parses : s.phase = .parsing snapshot)
      (panics : s.grammar.outline snapshot = .error p) :
      Moves s .finish { s with phase := .waiting } [.parsePanicked snapshot.version p]
  | leave (waits : s.phase = .waiting) (ends : s.cancelled = true) :
      Moves s .leave { s with phase := .ended } [.loopEnded]

theorem isOlder_eq_some {s : Service} {snapshot : Snapshot} {last : Nat}
    (h : s.isOlder snapshot = some last) :
    s.lastVersion = some last ∧ snapshot.version < last := by
  unfold isOlder at h
  obtain ⟨known, older⟩ := Option.filter_eq_some_iff.mp h
  exact ⟨known, by simpa using older⟩

theorem isOlder_eq_none {s : Service} {snapshot : Snapshot} (h : s.isOlder snapshot = none)
    (last : Nat) (known : s.lastVersion = some last) : last ≤ snapshot.version := by
  unfold isOlder at h
  rw [known] at h
  simpa [Option.filter] using h

/-- A move that is possible is one of the cases. -/
theorem moves_of_move? {s s' : Service} {m : LoopMove} {events : List Event}
    (h : s.move? m = some (s', events)) : s.Moves m s' events := by
  cases m with
  | wake =>
    simp only [move?] at h
    split at h
    · rename_i waits news
      cases h
      exact .wake waits news
    · cases h
  | pick =>
    simp only [move?] at h
    split at h
    · rename_i wakes
      simp only [pickUp, RequestSlot.look, startParse] at h
      split at h
      · rename_i snapshot latest
        split at h
        · rename_i last older
          obtain ⟨known, lt⟩ := isOlder_eq_some older
          cases h
          exact .skip wakes latest known lt
        · rename_i fresh
          cases h
          exact .parse wakes latest (isOlder_eq_none fresh)
      · rename_i none
        cases h
        exact .nothing wakes none
    · cases h
  | finish =>
    simp only [move?] at h
    split at h
    · rename_i snapshot parses
      simp only [finishParse] at h
      split at h
      · rename_i outline outlined
        split at h
        · rename_i ends
          cases h
          exact .withhold parses outlined ends
        · rename_i runs
          cases h
          exact .publish parses outlined (by simpa using runs)
      · rename_i p panics
        cases h
        exact .panic parses panics
    · cases h
  | leave =>
    simp only [move?] at h
    split at h
    · rename_i waits ends
      cases h
      exact .leave waits ends
    · cases h

/-- Every case is a possible move. -/
theorem Moves.move? {s s' : Service} {m : LoopMove} {events : List Event}
    (h : s.Moves m s' events) : s.move? m = some (s', events) := by
  cases h with
  | wake waits news => simp [Service.move?, waits, news]
  | nothing wakes none => simp [Service.move?, pickUp, RequestSlot.look, wakes, none]
  | skip wakes latest known older =>
    simp [Service.move?, pickUp, startParse, isOlder, RequestSlot.look, Option.filter, *]
  | parse wakes latest fresh =>
    have older : ∀ snapshot : Snapshot, s.requests.latest = some snapshot →
        s.isOlder snapshot = none := by
      intro snapshot h
      unfold isOlder
      rw [Option.filter_eq_none_iff]
      intro last known
      have := fresh last known
      rw [latest] at h
      cases h
      simpa using this
    have := older _ latest
    unfold isOlder at this
    simp [Service.move?, pickUp, startParse, isOlder, RequestSlot.look, *]
  | publish parses outlined runs =>
    simp [Service.move?, finishParse, Service.publish, published, *]
  | withhold parses outlined ends => simp [Service.move?, finishParse, endLoop, *]
  | panic parses panics => simp [Service.move?, finishParse, *]
  | leave waits ends => simp [Service.move?, endLoop, *]

end Service

end OutlineBar
