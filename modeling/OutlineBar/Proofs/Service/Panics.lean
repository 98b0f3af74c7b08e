/-
A panic of the grammar leaves nothing behind in a service.

The main statement is `panics_unnoticed`.  The move that ends a panicked parse changes the
phase of the loop and nothing else.  Hence requests whose parse panics might as well not
have been made: where each request comes to a loop at rest, every receiver is given the same
completions along the same turns without them.

Two runs are compared, one of which lacks some requests.  Their facades are the same all the
time.  `Stands` says how far apart their loops can be: they are level, or the longer run
is busy with a request that the other one lacks.  Such a request is known to panic, since
whatever else could become of it would keep its number out of the panics for good, which
is `not_mem_panicked_of_rests`.
-/
import OutlineBar.Proofs.Service.Level

namespace OutlineBar

/-- The loop is on its way with the last request. -/
def Service.Pursues (s : Service) : Prop :=
  match s.phase with
  | .waiting => s.requests.hasUnseen = true
  | .ended => False
  | _ => s.requests.hasUnseen = false

namespace Ledger

variable {l l' : Ledger} {t : Turn}

/-- The loop moves in a turn, or cannot make the move that the turn is, or it is not asked to. -/
theorem turn_cases (l : Ledger) (t : Turn) : t.move? = none ∨
    (∃ m, t = .act (.loop m) ∧ l.turn t = l) ∨
      ∃ m s events, t = .act (.loop m) ∧ l.service.Moves m s events := by
  cases is : t.move? with
  | none => exact .inl rfl
  | some m =>
    obtain rfl := Turn.eq_of_move? is
    cases possible : l.service.move? m with
    | none => exact .inr (.inl ⟨m, rfl, turn_of_stuck possible⟩)
    | some next => exact .inr (.inr ⟨m, _, _, rfl, Service.moves_of_move? possible⟩)

/-- A panic of the parse under way changes the phase of the loop, and is noted. -/
theorem turn_of_panic (exact : l.Exact) {snapshot : Snapshot} {p : Panic}
    (parses : l.service.phase = .parsing snapshot)
    (panics : l.service.grammar.outline snapshot = .error p) :
    l.turn (.act (.loop .finish)) = { l with
      service := { l.service with phase := .waiting }
      panicked := l.panicked ++ [l.current] } := by
  have moves : l.service.Moves .finish _ _ := .panic parses panics
  have silent := Service.heard_of_silent exact.ordered moves rfl
  have noted := Chronicle.panics_of_panic moves parses panics
  simp [turn, Chronicle.act, Chronicle.move_of_moves moves, silent, noted]

/-- A move notes a panic of the parse under way, or none. -/
theorem panicked_of_moves {m : LoopMove} {s : Service} {events : List Event}
    (moves : l.service.Moves m s events) :
    (l.turn (.act (.loop m))).panicked = l.panicked ∨
      (∃ snapshot p, l.service.phase = .parsing snapshot ∧
        l.service.grammar.outline snapshot = .error p) ∧
        (l.turn (.act (.loop m))).panicked = l.panicked ++ [l.current] := by
  show (l.toChronicle.move m).panicked = _ ∨ _ ∧ (l.toChronicle.move m).panicked = _
  rw [Chronicle.move_of_moves moves]
  have idle (idle : l.service.phase.snapshot? = none) :
      l.panicked ++ l.toChronicle.panics m = l.panicked := by
    rw [Chronicle.panics_of_idle idle, List.append_nil]
  cases phase : l.service.phase with
  | waiting => exact .inl (idle (by rw [phase]; rfl))
  | woken => exact .inl (idle (by rw [phase]; rfl))
  | ended => exact .inl (idle (by rw [phase]; rfl))
  | parsing snapshot =>
    cases outlined : l.service.grammar.outline snapshot with
    | ok outline =>
      rw [Chronicle.panics_of_outline moves phase outlined]
      exact .inl (List.append_nil _)
    | error p =>
      rw [Chronicle.panics_of_panic moves phase outlined]
      exact .inr ⟨⟨snapshot, p, rfl, outlined⟩, rfl⟩

/-! ## Numbers of panics

A panic is noted under the number of the request that was picked up last.  Once the loop
rests, a later panic has a larger number. -/

/-- What a turn that is no move of the loop leaves of the requests and the panics. -/
theorem noted_of_aside (aside : t.move? = none) :
    (l.turn t).panicked = l.panicked ∧
      (l.turn t).service.requests.seen = l.service.requests.seen ∧
      l.requested.length ≤ (l.turn t).requested.length ∧
      ((∀ snapshot, t ≠ .act (.request snapshot)) → (l.turn t).requested = l.requested) := by
  have took (id : ListenerId) : (Chronicle.takeOldest id l.service).requests =
      l.service.requests := by
    unfold Chronicle.takeOldest
    split <;> rfl
  cases t with
  | next id => simp [turn, snd_next, took]
  | act a =>
    cases a with
    | loop m => cases aside
    | take id => simp [turn, Chronicle.act, took]
    | dropListener id => simp [turn, Chronicle.act, Service.dropListener]
    | turnGrammar grammar => simp [turn, Chronicle.act]
    | request snapshot =>
      cases gone : l.service.dropped <;>
        simp [turn, Chronicle.act, Chronicle.request, Service.request, RequestSlot.put, gone]
    | parseNow snapshot =>
      cases gone : l.service.dropped <;>
        simp [turn, Chronicle.act, Chronicle.call, Service.parseNow, gone]
    | subscribe =>
      cases gone : l.service.dropped <;>
        simp [turn, Chronicle.act, Chronicle.call, Service.subscribe, gone]
    | countListeners =>
      cases gone : l.service.dropped <;>
        simp [turn, Chronicle.act, Chronicle.call, Service.listenerCount, gone]
    | shutdown =>
      cases gone : l.service.dropped <;>
        simp [turn, Chronicle.act, Chronicle.call, Service.shutdown, gone]
    | drop =>
      cases gone : l.service.dropped <;>
        simp [turn, Chronicle.act, Chronicle.call, Service.drop, gone]

/-- What holds along every course. -/
structure Regular (l : Ledger) : Prop where
  sound : l.toChronicle.Sound
  exact : l.Exact
  panicked_le : ∀ n ∈ l.panicked, n ≤ l.requested.length
  told : l.service.dropped = true → l.service.cancelled = true

theorem regular_start (grammar : Grammar) : (start grammar).Regular where
  sound := Chronicle.sound_start grammar
  exact := exact_start grammar
  panicked_le := nofun
  told := nofun

namespace Regular

/-- When the loop knows of every request it knows of as many as were made. -/
theorem seen_eq (h : l.Regular) (known : l.service.requests.hasUnseen = false) :
    l.service.requests.seen = l.requested.length := by
  rw [← h.sound.sent]
  simpa [RequestSlot.hasUnseen] using known

theorem turn (h : l.Regular) (t : Turn) : (l.turn t).Regular where
  sound := by
    cases t with
    | next id =>
      show Chronicle.Sound { l.toChronicle with service := (l.service.next id).2 }
      rw [snd_next]
      exact h.sound.takeOldest id
    | act a =>
      have same : (l.turn (.act a)).toChronicle = l.toChronicle.act a := by cases a <;> rfl
      rw [same]
      exact h.sound.act a
  exact := h.exact.turn t
  panicked_le := by
    rcases l.turn_cases t with aside | ⟨m, rfl, same⟩ | ⟨m, s, events, rfl, moves⟩
    · obtain ⟨panicked, -, more, -⟩ := noted_of_aside (l := l) aside
      rw [panicked]
      exact fun n mem => Nat.le_trans (h.panicked_le n mem) more
    · rw [same]
      exact h.panicked_le
    · rw [(service_of_moves moves).2]
      rcases panicked_of_moves moves with panicked | ⟨⟨snapshot, p, parses, -⟩, panicked⟩
      · rw [panicked]
        exact h.panicked_le
      · rw [panicked]
        intro n mem
        rcases List.mem_append.mp mem with old | new
        · exact h.panicked_le n old
        · rw [List.mem_singleton.mp new, h.sound.current_eq parses]
          exact h.sound.seen_le
  told := by
    rcases l.aside_or_moves t with ⟨aside, -⟩ | ⟨m, s, events, rfl, -, moves, service⟩
    · rw [aside.dropped, aside.cancelled]
      rintro (gone | rfl)
      · exact .inl (h.told gone)
      · cases gone : l.service.dropped with
        | true => exact .inl (h.told gone)
        | false => exact .inr ⟨rfl, .inr rfl⟩
    · obtain ⟨cancelled, dropped, -⟩ := Service.kept_of_moves moves
      rw [service, cancelled, dropped]
      exact h.told

end Regular

/-- After the loop knew of so many requests and rested, with these panics. -/
structure Beyond (n : Nat) (old : List Nat) (l : Ledger) : Prop where
  le : n ≤ l.service.requests.seen
  lt : l.service.phase ≠ .waiting → l.service.phase ≠ .ended → n < l.service.requests.seen
  later : ∀ k ∈ l.panicked, k ∈ old ∨ n < k

theorem Beyond.turn {n : Nat} {old : List Nat} (h : Beyond n old l) (regular : l.Regular)
    (t : Turn) : Beyond n old (l.turn t) := by
  rcases l.turn_cases t with aside | ⟨m, rfl, same⟩ | ⟨m, s, events, rfl, moves⟩
  · obtain ⟨panicked, seen, -, -⟩ := noted_of_aside (l := l) aside
    have phase := (l.turn_aside aside).phase
    refine ⟨?_, ?_, ?_⟩
    · rw [seen]
      exact h.le
    · rw [seen, phase]
      exact h.lt
    · rw [panicked]
      exact h.later
  · rw [same]
    exact h
  · have known : n ≤ s.requests.seen ∧
        (s.phase ≠ .waiting → s.phase ≠ .ended → n < s.requests.seen) := by
      have le := h.le
      have lt := h.lt
      have sent := regular.sound.sent
      have seen_le := regular.sound.seen_le
      cases moves with
      | wake waits news =>
        have ne : l.service.requests.seen ≠ l.service.requests.sent := by
          simpa [RequestSlot.hasUnseen] using news
        simp only [Service.wakeUp, RequestSlot.look]
        exact ⟨by omega, fun _ _ => by omega⟩
      | parse wakes latest fresh =>
        have lt := lt (by simp [wakes]) (by simp [wakes])
        simp only [RequestSlot.look]
        exact ⟨by omega, fun _ _ => by omega⟩
      | nothing | skip =>
        simp only [RequestSlot.look]
        exact ⟨by omega, fun waits => absurd rfl waits⟩
      | publish | panic => exact ⟨le, fun waits => absurd rfl waits⟩
      | withhold | leave => exact ⟨le, fun _ ended => absurd rfl ended⟩
    have later : ∀ k ∈ (l.turn (.act (.loop m))).panicked, k ∈ old ∨ n < k := by
      rcases panicked_of_moves moves with panicked | ⟨⟨snapshot, p, parses, -⟩, panicked⟩
      · rw [panicked]
        exact h.later
      · rw [panicked]
        intro k mem
        rcases List.mem_append.mp mem with before | new
        · exact h.later k before
        · rw [List.mem_singleton.mp new, regular.sound.current_eq parses]
          exact .inr (h.lt (by simp [parses]) (by simp [parses]))
    rw [← (service_of_moves moves).1] at known
    exact ⟨known.1, known.2, later⟩

/-- A request that the loop was done with, and whose parse did not panic, is not noted later. -/
theorem not_mem_panicked_of_rests (regular : l.Regular) (rests : l.service.AtRest)
    (calm : l.requested.length ∉ l.panicked) (turns : List Turn) :
    l.requested.length ∉ (turns.foldl turn l).panicked := by
  have run : ∀ l', l'.Regular → Beyond l.requested.length l.panicked l' →
      Beyond l.requested.length l.panicked (turns.foldl turn l') := by
    induction turns with
    | nil => exact fun _ _ h => h
    | cons t rest ih => exact fun l' regular h => ih (l'.turn t) (regular.turn t) (h.turn regular t)
  have here : Beyond l.requested.length l.panicked l :=
    ⟨Nat.le_of_eq (regular.seen_eq rests.2).symm, fun waits => absurd rests.1 waits,
      fun _ => .inl⟩
  intro mem
  rcases (run l regular here).later _ mem with old | later
  · exact calm old
  · exact Nat.lt_irrefl _ later

/-! ## Leaving requests out -/

/-- The turns without the requests of these numbers, the first request being the one of the
given number. -/
def omitting (numbers : List Nat) : Nat → List Turn → List Turn
  | _, [] => []
  | number, .act (.request snapshot) :: rest =>
    if number ∈ numbers then omitting numbers (number + 1) rest
    else .act (.request snapshot) :: omitting numbers (number + 1) rest
  | number, t :: rest => t :: omitting numbers number rest

theorem omitting_of_not_request {numbers : List Nat} (number : Nat) (rest : List Turn)
    (asks : ∀ snapshot, t ≠ .act (.request snapshot)) :
    omitting numbers number (t :: rest) = t :: omitting numbers number rest := by
  rw [omitting]
  exact asks

/-- Every request comes to a loop at rest, until the service is told to end. -/
def Unhurried : Ledger → List Turn → Prop
  | _, [] => True
  | l, .act (.request snapshot) :: rest =>
    (l.service.cancelled = false → l.service.AtRest) ∧
      (l.turn (.act (.request snapshot))).Unhurried rest
  | l, t :: rest => (l.turn t).Unhurried rest

theorem unhurried_of_not_request {rest : List Turn}
    (asks : ∀ snapshot, t ≠ .act (.request snapshot)) :
    l.Unhurried (t :: rest) ↔ (l.turn t).Unhurried rest := by
  rw [Unhurried]
  exact asks

/-- How a loop stands to the loop of a run that lacks the requests of these numbers. -/
inductive Stands (numbers : List Nat) (l l' : Ledger) : Prop where
  | level (level : l.service.Level l'.service)
  /-- The last request was left out, and the loop is not done with it yet. -/
  | behind (omitted : l.requested.length ∈ numbers) (fresh : l.requested.length ∉ l.panicked)
      (busy : l.service.Pursues) (rests : l'.service.AtRest)

/-- What two runs share when one of them lacks the requests of these numbers.  The next
request has the given number. -/
structure Omits (numbers : List Nat) (number : Nat) (l l' : Ledger) : Prop where
  regular : l.Regular
  regular' : l'.Regular
  same : l'.facade = l.facade
  stands : l.service.cancelled = false →
    number = l.requested.length + 1 ∧ Stands numbers l l'

namespace Omits

variable {numbers : List Nat} {number : Nat}

/-- Where the longer run rests, so does the other. -/
theorem rests' (h : Omits numbers number l l') (runs : l.service.cancelled = false)
    (rests : l.service.AtRest) : l'.service.AtRest := by
  cases (h.stands runs).2 with
  | level level => exact ⟨level.phase.trans rests.1, level.hasUnseen.trans rests.2⟩
  | behind _ _ _ rests' => exact rests'

theorem request (h : Omits numbers number l l') (snapshot : Snapshot)
    (rests : l.service.cancelled = false → l.service.AtRest) :
    Omits numbers (number + 1) (l.turn (.act (.request snapshot)))
      (if number ∈ numbers then l' else l'.turn (.act (.request snapshot))) where
  regular := h.regular.turn _
  regular' := by
    split
    · exact h.regular'
    · exact h.regular'.turn _
  same := by
    split
    · rw [facade_request, h.same]
    · rw [facade_request, facade_request, h.same]
  stands := by
    have asked (l : Ledger) (remains : l.service.dropped = false) :
        l.turn (.act (.request snapshot)) = { l with
          service := l.service.request snapshot
          requested := l.requested ++ [snapshot] } := by
      simp [Ledger.turn, Chronicle.act, Chronicle.request, remains]
    obtain ⟨shown, -, -⟩ := facade_inj.mp h.same
    obtain ⟨-, -, -, -, -, dropped⟩ := Service.shown_inj.mp shown
    cases gone : l.service.dropped with
    | true =>
      have same : l.turn (.act (.request snapshot)) = l := by
        simp [Ledger.turn, Chronicle.act, Chronicle.request, gone]
      rw [same, h.regular.told gone]
      intro runs
      cases runs
    | false =>
      rw [asked l gone]
      intro runs
      have rests := rests runs
      have count := (h.stands runs).1
      have length : (l.requested ++ [snapshot]).length = number := by
        rw [count, List.length_append, List.length_singleton]
      refine ⟨by rw [length], ?_⟩
      by_cases omitted : number ∈ numbers
      · rw [if_pos omitted]
        refine .behind (length ▸ omitted) ?_ ?_ (h.rests' runs rests)
        · rw [length]
          intro mem
          have := h.regular.panicked_le number mem
          omega
        · show Service.Pursues (l.service.request snapshot)
          unfold Service.Pursues Service.request
          rw [rests.1]
          exact RequestSlot.hasUnseen_put rests.2 snapshot
      · rw [if_neg omitted, asked l' (dropped.trans gone)]
        exact .level (Service.level_request shown rests (h.rests' runs rests) snapshot)

/-- A turn that neither asks nor moves the loop. -/
theorem beside (h : Omits numbers number l l') (aside : t.move? = none)
    (asks : ∀ snapshot, t ≠ .act (.request snapshot)) :
    Omits numbers number (l.turn t) (l'.turn t) where
  regular := h.regular.turn t
  regular' := h.regular'.turn t
  same := facade_turn h.same aside
  stands := by
    intro runs
    have kept := l.turn_aside aside
    have kept' := l'.turn_aside aside
    obtain ⟨panicked, -, -, requested⟩ := noted_of_aside (l := l) aside
    have ran : l.service.cancelled = false := by
      rw [← Bool.not_eq_true, kept.cancelled, not_or, Bool.not_eq_true] at runs
      exact runs.1
    obtain ⟨count, stands⟩ := h.stands ran
    refine ⟨by rw [requested asks, count], ?_⟩
    cases stands with
    | level level =>
      refine .level ⟨(facade_inj.mp (facade_turn h.same aside)).1, ?_, ?_, ?_⟩
      · rw [kept.phase, kept'.phase, level.phase]
      · rw [kept.requests asks, kept'.requests asks, level.hasUnseen]
      · rw [kept.phase, kept.requests asks, kept'.requests asks]
        exact level.latest
    | behind omitted fresh busy rests =>
      refine .behind (by rwa [requested asks]) (by rwa [requested asks, panicked]) ?_ ?_
      · unfold Service.Pursues
        rw [kept.phase, kept.requests asks]
        exact busy
      · exact ⟨kept'.phase.trans rests.1, by rw [kept'.requests asks]; exact rests.2⟩

/-- A move of a loop that is busy with a request which the other run lacks.  As that request
is noted as panicked in the end, the loop does not get done with it in another way. -/
theorem pursue (h : Omits numbers number l l') (runs : l.service.cancelled = false)
    (omitted : l.requested.length ∈ numbers) (fresh : l.requested.length ∉ l.panicked)
    (busy : l.service.Pursues) (rests : l'.service.AtRest) {m : LoopMove} {s : Service}
    {events : List Event} (moves : l.service.Moves m s events) (rest : List Turn)
    (noted : numbers ⊆ (rest.foldl turn (l.turn (.act (.loop m)))).panicked) :
    l'.facade = (l.turn (.act (.loop m))).facade ∧
      Stands numbers (l.turn (.act (.loop m))) l' := by
  obtain ⟨service, requested⟩ := service_of_moves moves
  have regular := h.regular.turn (.act (.loop m))
  -- The loop rests after the move without having noted a panic.
  have done (rests : s.AtRest) (calm : (l.turn (.act (.loop m))).panicked = l.panicked) :
      False := by
    refine not_mem_panicked_of_rests regular (service ▸ rests) ?_ rest ?_
    · rw [requested, calm]
      exact fresh
    · rw [requested]
      exact noted omitted
  -- The loop is still busy after the move, which does not show.
  have goesOn (silent : s.completed = l.service.completed) (busy : s.Pursues)
      (calm : (l.turn (.act (.loop m))).panicked = l.panicked) :
      l'.facade = (l.turn (.act (.loop m))).facade ∧
        Stands numbers (l.turn (.act (.loop m))) l' :=
    ⟨h.same.trans (facade_of_silent h.regular.exact moves silent).symm,
      .behind (by rwa [requested]) (by rwa [requested, calm]) (by rwa [service]) rests⟩
  have calm (other : ∀ snapshot p, l.service.phase = .parsing snapshot →
      l.service.grammar.outline snapshot ≠ .error p) :
      (l.turn (.act (.loop m))).panicked = l.panicked :=
    (panicked_of_moves moves).resolve_right
      fun ⟨⟨snapshot, p, parses, panics⟩, _⟩ => other snapshot p parses panics
  unfold Service.Pursues at busy
  cases moves with
  | wake waits news =>
    refine goesOn rfl (RequestSlot.hasUnseen_look _) (calm fun _ _ parses => ?_)
    cases waits.symm.trans parses
  | nothing wakes none =>
    refine (done ⟨rfl, RequestSlot.hasUnseen_look _⟩ (calm fun _ _ parses => ?_)).elim
    cases wakes.symm.trans parses
  | skip wakes latest known older =>
    refine (done ⟨rfl, RequestSlot.hasUnseen_look _⟩ (calm fun _ _ parses => ?_)).elim
    cases wakes.symm.trans parses
  | parse wakes latest fresh =>
    refine goesOn rfl (RequestSlot.hasUnseen_look _) (calm fun _ _ parses => ?_)
    cases wakes.symm.trans parses
  | publish parses outlined runs =>
    rw [parses] at busy
    refine (done ⟨rfl, busy⟩ (calm fun snapshot p parses' panics => ?_)).elim
    cases parses.symm.trans parses'
    cases outlined.symm.trans panics
  | withhold parses outlined ends => cases runs.symm.trans ends
  | panic parses panics =>
    rw [parses] at busy
    have same := h.same.trans
      (facade_of_silent h.regular.exact (.panic parses panics) rfl).symm
    exact ⟨same, .level (.of_atRest (facade_inj.mp same).1 (service ▸ ⟨rfl, busy⟩) rests)⟩
  | leave waits ends => cases runs.symm.trans ends

theorem move (h : Omits numbers number l l') (m : LoopMove) (rest : List Turn)
    (noted : numbers ⊆ (rest.foldl turn (l.turn (.act (.loop m)))).panicked) :
    Omits numbers number (l.turn (.act (.loop m))) (l'.turn (.act (.loop m))) := by
  have moved : (l'.turn (.act (.loop m))).facade = (l.turn (.act (.loop m))).facade ∧
      (l.service.cancelled = false → Stands numbers (l.turn (.act (.loop m)))
        (l'.turn (.act (.loop m)))) := by
    have cancelled := (Service.shown_inj.mp (facade_inj.mp h.same).1).2.2.2.2.1
    cases told : l.service.cancelled with
    | true =>
      refine ⟨?_, nofun⟩
      rw [facade_of_told h.regular.exact told,
        facade_of_told h.regular'.exact (cancelled.trans told), h.same]
    | false =>
      have runs' := cancelled.trans told
      cases (h.stands told).2 with
      | level level =>
        obtain ⟨same, level⟩ := level_move h.same level m
        exact ⟨same, fun _ => .level level⟩
      | behind omitted fresh busy rests =>
        rw [turn_of_stuck (rests.stuck runs' m)]
        cases possible : l.service.move? m with
        | none =>
          rw [turn_of_stuck possible]
          exact ⟨h.same, fun _ => .behind omitted fresh busy rests⟩
        | some next =>
          have moves := Service.moves_of_move? possible
          obtain ⟨same, stands⟩ := h.pursue told omitted fresh busy rests moves rest noted
          exact ⟨same, fun _ => stands⟩
  refine ⟨h.regular.turn _, h.regular'.turn _, moved.1, fun runs => ?_⟩
  have ran : l.service.cancelled = false := by
    cases told : l.service.cancelled with
    | true => rw [(turn_silent h.regular.exact told (.act (.loop m))).2.2] at runs; cases runs
    | false => rfl
  have requested : (l.turn (.act (.loop m))).requested = l.requested := by
    cases possible : l.service.move? m with
    | none => rw [turn_of_stuck possible]
    | some next => exact (service_of_moves (Service.moves_of_move? possible)).2
  exact ⟨by rw [requested, (h.stands ran).1], moved.2 ran⟩

/-- Along the same turns two runs keep sharing what shows, if one of them lacks requests
that are all noted as panicked in the end. -/
theorem run (turns : List Turn) (h : Omits numbers number l l') (unhurried : l.Unhurried turns)
    (noted : numbers ⊆ (turns.foldl turn l).panicked) :
    ((omitting numbers number turns).foldl turn l').facade = (turns.foldl turn l).facade := by
  induction turns generalizing l l' number with
  | nil => exact h.same
  | cons t rest ih =>
    by_cases asks : ∃ snapshot, t = .act (.request snapshot)
    · obtain ⟨snapshot, rfl⟩ := asks
      have after := ih (h.request snapshot unhurried.1) unhurried.2 noted
      rw [omitting]
      by_cases omitted : number ∈ numbers
      · rw [if_pos omitted] at after ⊢
        exact after
      · rw [if_neg omitted] at after ⊢
        exact after
    · have asks : ∀ snapshot, t ≠ .act (.request snapshot) := fun snapshot e => asks ⟨snapshot, e⟩
      rw [unhurried_of_not_request asks] at unhurried
      rw [omitting_of_not_request number rest asks]
      cases aside : t.move? with
      | none => exact ih (h.beside aside asks) unhurried noted
      | some m =>
        obtain rfl := Turn.eq_of_move? aside
        exact ih (h.move m rest noted) unhurried noted

end Omits

theorem omits_start (numbers : List Nat) (grammar : Grammar) :
    Omits numbers 1 (start grammar) (start grammar) where
  regular := regular_start grammar
  regular' := regular_start grammar
  same := rfl
  stands := fun _ => ⟨rfl, .level ⟨rfl, rfl, rfl, fun _ => rfl⟩⟩

/-- In every state that a service gets into, a panic of the parse under way lets the loop wait
again and changes nothing else of the service: not the version published last, not the number
of publications, not the listeners and their queues, and not a request made meanwhile.

Hence panics go unnoticed.  Whatever else happens to a service whose loop rests before each
request, as long as it was not told to end: leaving out the requests whose parse panicked
changes neither what was published nor what a receiver was given or is still to be given. -/
theorem panics_unnoticed (grammar : Grammar) (turns : List Turn) :
    let l := course grammar turns
    (∀ snapshot p, l.service.phase = .parsing snapshot →
      l.service.grammar.outline snapshot = .error p →
      l.turn (.act (.loop .finish)) = { l with
        service := { l.service with phase := .waiting }
        panicked := l.panicked ++ [l.current] }) ∧
    ((start grammar).Unhurried turns →
      let l' := course grammar (omitting l.panicked 1 turns)
      l'.receivers = l.receivers ∧
      (∀ r, l'.delivered r = l.delivered r) ∧
      l'.published.map Publication.completion = l.published.map Publication.completion ∧
      l'.service.broadcast = l.service.broadcast ∧
      l'.service.lastVersion = l.service.lastVersion ∧
      l'.service.completed = l.service.completed) := by
  intro l
  refine ⟨fun snapshot p => turn_of_panic (exact_course grammar turns), ?_⟩
  intro unhurried l'
  have same : l'.facade = l.facade :=
    (omits_start l.panicked grammar).run turns unhurried fun _ => id
  obtain ⟨shown, completions, receivers⟩ := facade_inj.mp same
  obtain ⟨-, broadcast, lastVersion, completed, -, -⟩ := Service.shown_inj.mp shown
  refine ⟨receivers, fun r => ?_, completions, broadcast, lastVersion, completed⟩
  unfold delivered
  rw [broadcast]

/-- A grammar that panics at one version. -/
def failingAt (version : Nat) : Grammar := fun snapshot =>
  if snapshot.version = version then .error (.text "boom") else .ok (.empty 0 snapshot.byteLength)

/-- Version nine is asked for and then version one, each at a loop at rest. -/
def nineThenOne : List Turn :=
  [.act .subscribe, .act (.request ⟨9, "a"⟩), .act (.loop .wake), .act (.loop .pick),
    .act .subscribe, .act (.loop .finish), .next ⟨0⟩, .act (.request ⟨1, "b"⟩),
    .act (.loop .wake), .act (.loop .pick), .act (.loop .finish), .act (.take ⟨1⟩)]

/-- Version one is asked for while version nine is parsed. -/
def oneDuringNine : List Turn :=
  [.act (.request ⟨9, "a"⟩), .act (.loop .wake), .act (.loop .pick), .act (.request ⟨1, "b"⟩)]

/-- When the parse of version nine panics, the request for version one stays as the one to be
read next.  Where the loop rests between the two, version one is published as if version nine
had not been asked for, to the receiver that was there before and to the one that came during
the parse. -/
theorem panics_unnoticed_below_panicked :
    let meanwhile := course (failingAt 9) oneDuringNine
    let l := course (failingAt 9) nineThenOne
    let l' := course (failingAt 9) (omitting l.panicked 1 nineThenOne)
    (meanwhile.service.phase = .parsing ⟨9, "a"⟩ ∧
      (meanwhile.turn (.act (.loop .finish))).service.requests = meanwhile.service.requests ∧
      meanwhile.service.requests.latest = some ⟨1, "b"⟩) ∧
    (start (failingAt 9)).Unhurried nineThenOne ∧ l.panicked = [1] ∧
      l.published.map (fun q => (q.number, q.completion.version)) = [(2, 1)] ∧
      l'.published.map (fun q => (q.number, q.completion.version)) = [(1, 1)] ∧
      l'.receivers = l.receivers ∧
      l.receivers.map (fun r => r.got.map Completion.version) = [[], [1]] ∧
      ∀ r, l'.delivered r = l.delivered r := by
  intro meanwhile l l'
  have unhurried : (start (failingAt 9)).Unhurried nineThenOne :=
    ⟨fun _ => ⟨rfl, rfl⟩, fun _ => ⟨rfl, rfl⟩, trivial⟩
  have waits : meanwhile.turn (.act (.loop .finish)) = { meanwhile with
      service := { meanwhile.service with phase := .waiting }
      panicked := meanwhile.panicked ++ [meanwhile.current] } :=
    (panics_unnoticed (failingAt 9) oneDuringNine).1 ⟨9, "a"⟩ (.text "boom") rfl rfl
  have kept : (meanwhile.turn (.act (.loop .finish))).service.requests =
      meanwhile.service.requests := by
    rw [waits]
  obtain ⟨receivers, delivered, -⟩ := (panics_unnoticed (failingAt 9) nineThenOne).2 unhurried
  exact ⟨⟨rfl, kept, rfl⟩, unhurried, rfl, rfl, rfl, receivers, rfl, delivered⟩

end Ledger

end OutlineBar
