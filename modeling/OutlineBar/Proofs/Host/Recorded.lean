/-
Hosts whose calls are recorded.

`Host.recorded` turns any host into one that behaves the same and notes every call: on
whose behalf it was made, the state of the host at that moment, and what came of it.
Statements about the order of calls, and about what was handed to whom, are statements
about this log.
-/
import OutlineBar.Host.Call
import OutlineBar.Proofs.Action.Keeps

namespace OutlineBar

/-- One call to the host. -/
structure HostRecord (η : Type) where
  /-- The presenter whose operation made the call, if it was the operation of one. -/
  caller : Option PresenterId
  /-- The state of the host when the call was made. -/
  before : η
  call : HostCall
  outcome : Except Panic call.Answer

/-- The state of a host, and the calls that were made to it. -/
structure Recorded (η : Type) where
  host : η
  log : List (HostRecord η) := []

/-- The calls that were made, in order. -/
def callsIn {η : Type} (log : List (HostRecord η)) : List HostCall := log.map HostRecord.call

/-- Whether a log was extended by calls on behalf of one caller. -/
def Extends {η : Type} (caller : Option PresenterId) (old new : List (HostRecord η)) : Prop :=
  ∃ more, new = old ++ more ∧ ∀ r ∈ more, r.caller = caller

namespace Extends

variable {η : Type} {caller : Option PresenterId} {old mid new : List (HostRecord η)}

theorem refl (old : List (HostRecord η)) : Extends caller old old :=
  ⟨[], (List.append_nil old).symm, fun _ mem => nomatch mem⟩

theorem trans (h : Extends caller old mid) (h' : Extends caller mid new) :
    Extends caller old new := by
  obtain ⟨more, rfl, own⟩ := h
  obtain ⟨more', rfl, own'⟩ := h'
  refine ⟨more ++ more', List.append_assoc _ _ _, fun r mem => ?_⟩
  rcases List.mem_append.mp mem with first | second
  · exact own r first
  · exact own' r second

theorem one (old : List (HostRecord η)) {r : HostRecord η} (own : r.caller = caller) :
    Extends caller old (old ++ [r]) :=
  ⟨[r], rfl, fun _ mem => List.mem_singleton.mp mem ▸ own⟩

theorem mem (h : Extends caller old new) {r : HostRecord η} (old : r ∈ old) : r ∈ new := by
  obtain ⟨more, rfl, -⟩ := h
  exact List.mem_append_left more old

end Extends

/-- Whether every call of a log was right at its time, after the calls before it. -/
def Throughout {η : Type} (P : List (HostRecord η) → HostRecord η → Prop)
    (log : List (HostRecord η)) : Prop :=
  ∀ past r future, log = past ++ r :: future → P past r

namespace Throughout

variable {η : Type} {P : List (HostRecord η) → HostRecord η → Prop} {log : List (HostRecord η)}

theorem nil : Throughout P [] := fun past _ _ e => absurd e.symm (by simp)

theorem concat_iff {r : HostRecord η} :
    Throughout P (log ++ [r]) ↔ Throughout P log ∧ P log r := by
  constructor
  · intro h
    refine ⟨fun past r' future e => h past r' (future ++ [r]) ?_, h log r [] rfl⟩
    rw [e, List.append_assoc, List.cons_append]
  · rintro ⟨earlier, last⟩ past r' future e
    obtain rfl | ⟨future', r'', rfl⟩ := List.eq_nil_or_concat future
    · obtain ⟨rfl, same⟩ := List.append_inj' e rfl
      rw [← List.head_eq_of_cons_eq same]
      exact last
    · rw [List.concat_eq_append, ← List.cons_append, ← List.append_assoc] at e
      exact earlier past r' future' (List.append_inj_left' e rfl)

/-- More calls that are right at any time. -/
theorem append (h : Throughout P log) {more : List (HostRecord η)}
    (each : ∀ past, ∀ r ∈ more, P past r) : Throughout P (log ++ more) := by
  induction more generalizing log with
  | nil =>
    rw [List.append_nil]
    exact h
  | cons r rest ih =>
    have first : Throughout P (log ++ [r]) := concat_iff.mpr ⟨h, each log r List.mem_cons_self⟩
    have all := ih first fun past r' mem => each past r' (List.mem_cons_of_mem r mem)
    rwa [List.append_assoc] at all

end Throughout

namespace Host

variable {η : Type}

/-- The host that notes every call, made on behalf of `caller`, after it was made. -/
def recorded (H : Host η) (caller : Option PresenterId) : Host (Recorded η) where
  answer call := fun s =>
    match H.answer call s.host with
    | .ok a host => .ok a { host, log := s.log ++ [⟨caller, s.host, call, .ok a⟩] }
    | .error p host => .error p { host, log := s.log ++ [⟨caller, s.host, call, .error p⟩] }
  onIdle filters source :=
    Action.zoom (fun b => { host := b.host.host, rosters := b.rosters, trace := b.trace })
      (fun t b =>
        { host := { b.host with host := t.host }, rosters := t.rosters, trace := t.trace })
      (H.onIdle filters source)

variable {H : Host η} {caller : Option PresenterId} {call : HostCall} {s s' : Recorded η}

theorem recorded_ok {a : call.Answer} (h : (H.recorded caller).answer call s = .ok a s') :
    H.answer call s.host = .ok a s'.host ∧ s'.log = s.log ++ [⟨caller, s.host, call, .ok a⟩] := by
  unfold recorded at h
  dsimp only at h
  split at h <;> cases h
  exact ⟨by assumption, rfl⟩

theorem recorded_error {p : Panic} (h : (H.recorded caller).answer call s = .error p s') :
    H.answer call s.host = .error p s'.host ∧
      s'.log = s.log ++ [⟨caller, s.host, call, .error p⟩] := by
  unfold recorded at h
  dsimp only at h
  split at h <;> cases h
  exact ⟨by assumption, rfl⟩

/-- A call adds one record to the log, whatever comes of it. -/
theorem log_after_call (H : Host η) (caller : Option PresenterId) (call : HostCall)
    (s : Recorded η) : ∃ outcome,
      (((H.recorded caller).answer call).after s).log =
        s.log ++ [⟨caller, s.host, call, outcome⟩] := by
  cases h : (H.recorded caller).answer call s with
  | ok a s' => exact ⟨.ok a, by rw [Action.after_of_ok h]; exact (recorded_ok h).2⟩
  | error p s' => exact ⟨.error p, by rw [Action.after_of_error h]; exact (recorded_error h).2⟩

/-- Recording changes nothing for the host. -/
theorem host_after_call (H : Host η) (caller : Option PresenterId) (call : HostCall)
    (s : Recorded η) :
    (((H.recorded caller).answer call).after s).host = (H.answer call).after s.host := by
  cases h : (H.recorded caller).answer call s with
  | ok a s' => rw [Action.after_of_ok h, Action.after_of_ok (recorded_ok h).1]
  | error p s' => rw [Action.after_of_error h, Action.after_of_error (recorded_error h).1]

/-- What a call that was made in `s` came to, and the state `s'` that it left. -/
structure Calls (H : Host η) (caller : Option PresenterId) (call : HostCall) (s : Recorded η)
    (outcome : Except Panic call.Answer) (s' : Recorded η) : Prop where
  answered : match outcome with
    | .ok a => H.answer call s.host = .ok a s'.host
    | .error p => H.answer call s.host = .error p s'.host
  logged : s'.log = s.log ++ [⟨caller, s.host, call, outcome⟩]

theorem calls_ok {a : call.Answer} (h : (H.recorded caller).answer call s = .ok a s') :
    H.Calls caller call s (.ok a) s' := ⟨(recorded_ok h).1, (recorded_ok h).2⟩

theorem calls_error {p : Panic} (h : (H.recorded caller).answer call s = .error p s') :
    H.Calls caller call s (.error p) s' := ⟨(recorded_error h).1, (recorded_error h).2⟩

/-- Every call comes to something. -/
theorem exists_calls (H : Host η) (caller : Option PresenterId) (call : HostCall)
    (s : Recorded η) : ∃ outcome,
      H.Calls caller call s outcome (((H.recorded caller).answer call).after s) := by
  cases h : (H.recorded caller).answer call s with
  | ok a s' => exact ⟨.ok a, by rw [Action.after_of_ok h]; exact calls_ok h⟩
  | error p s' => exact ⟨.error p, by rw [Action.after_of_error h]; exact calls_error h⟩

theorem Calls.host_eq {outcome : Except Panic call.Answer}
    (h : H.Calls caller call s outcome s') : s'.host = (H.answer call).after s.host := by
  have answered := h.answered
  cases outcome with
  | ok a => exact (Action.after_of_ok answered).symm
  | error p => exact (Action.after_of_error answered).symm

theorem Calls.eq_ok {outcome : Except Panic call.Answer} {a : call.Answer} {host : η}
    (h : H.Calls caller call s outcome s') (returns : H.answer call s.host = .ok a host) :
    outcome = .ok a := by
  have answered := h.answered
  cases outcome with
  | ok b =>
    cases answered.symm.trans returns
    rfl
  | error p => cases answered.symm.trans returns

theorem Calls.callsIn {outcome : Except Panic call.Answer} (h : H.Calls caller call s outcome s') :
    callsIn s'.log = callsIn s.log ++ [call] := by
  rw [h.logged, OutlineBar.callsIn, List.map_append]
  rfl

theorem Calls.extends {outcome : Except Panic call.Answer} (h : H.Calls caller call s outcome s') :
    Extends caller s.log s'.log := h.logged ▸ .one _ rfl

theorem Calls.getLast? {outcome : Except Panic call.Answer}
    (h : H.Calls caller call s outcome s') :
    s'.log.getLast? = some ⟨caller, s.host, call, outcome⟩ := by
  rw [h.logged]
  exact List.getLast?_concat

theorem Calls.throughout {P : List (HostRecord η) → HostRecord η → Prop}
    {outcome : Except Panic call.Answer} (h : H.Calls caller call s outcome s')
    (before : Throughout P s.log) (now : P s.log ⟨caller, s.host, call, outcome⟩) :
    Throughout P s'.log := h.logged ▸ Throughout.concat_iff.mpr ⟨before, now⟩

theorem recorded_of_ok {a : call.Answer} {host : η} (caller : Option PresenterId)
    (h : H.answer call s.host = .ok a host) :
    (H.recorded caller).answer call s =
      .ok a { host, log := s.log ++ [⟨caller, s.host, call, .ok a⟩] } := by
  unfold recorded
  dsimp only
  rw [h]

end Host

end OutlineBar
