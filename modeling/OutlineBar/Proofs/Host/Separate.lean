/-
Hosts made of separate objects.

Every call goes to one object: a bar manager, a buffer, a factory, an outliner.  A client counts
with the factory that made it.  A host is `Separate` if calls to different objects are apart.
Then a sequence of calls by one window passes through any call of another, as long as the
windows share no more than an outliner whose parses do not notice each other.
-/
import OutlineBar.Proofs.Action.Interchange
import OutlineBar.Proofs.Host.Recorded
import OutlineBar.Proofs.Presenter.Paired

namespace OutlineBar

open OutlineBar.Action

variable {η : Type}

/-- A call and what came of it. -/
abbrev Exchange := (call : HostCall) × Except Panic call.Answer

def HostRecord.exchange (r : HostRecord η) : Exchange := ⟨r.call, r.outcome⟩

/-- The calls that were made and what came of them, in order. -/
def exchangesIn (log : List (HostRecord η)) : List Exchange := log.map HostRecord.exchange

theorem exchangesIn_append (log more : List (HostRecord η)) :
    exchangesIn (log ++ more) = exchangesIn log ++ exchangesIn more := List.map_append

theorem Host.exchangesIn_recorded {H : Host η} {caller : Option PresenterId} {call : HostCall}
    {s s' : Recorded η} {a : call.Answer}
    (answered : (H.recorded caller).answer call s = .ok a s') :
    exchangesIn s'.log = exchangesIn s.log ++ [⟨call, .ok a⟩] := by
  rw [(Host.recorded_ok answered).2, exchangesIn_append]
  rfl

/-! ## The object of a call -/

/-- The object that a call goes to. -/
def HostCall.target (maker : ClientId → FactoryId) : HostCall → (kind : Kind) × Ref kind
  | primaryView shell | secondaryView shell => ⟨_, shell⟩
  | barSlot bars | removeBar bars | addBar bars .. => ⟨_, bars⟩
  | createClient factory .. => ⟨_, factory⟩
  | updateClient client _ | unregisterClient client => ⟨_, maker client⟩
  | filterKeyboard filters _ | filterView filters _ => ⟨_, filters⟩
  | snapshot buffer => ⟨_, buffer⟩
  | resolve resolver _ => ⟨_, resolver⟩
  | parse outliner _ | requestParse outliner _ | subscribe outliner => ⟨_, outliner⟩
  | mayContinue source => ⟨_, source⟩
  | subscribeIdle idleHost _ | unsubscribeIdle idleHost _ => ⟨_, idleHost⟩

/-- A host whose objects do not notice each other.  The clients of a factory count as made by
it. -/
structure Host.Separate (H : Host η) (maker : ClientId → FactoryId) : Prop where
  made : ∀ {factory window outline s client s'},
    H.createClient factory window outline s = .ok client s' → maker client = factory
  apart : ∀ {call call' : HostCall}, call.target maker ≠ call'.target maker →
    Apart (H.answer call) (H.answer call')

/-- Whether two presenters share no object but an outliner, where they have queues of their own
and do not notice each other's parses. -/
structure Presenter.Apart (H : Host η) (p q : Presenter) : Prop where
  buffer : p.buffer ≠ q.buffer
  bars : p.bars ≠ q.bars
  factory : p.factory ≠ q.factory
  filters : p.filters ≠ q.filters
  listener : p.outliner = q.outliner → p.listener ≠ q.listener
  parse : p.outliner = q.outliner → ∀ snapshot snapshot',
    Action.Apart (H.parse p.outliner snapshot) (H.parse p.outliner snapshot')

theorem Presenter.Apart.symm {H : Host η} {p q : Presenter} (apart : p.Apart H q) :
    q.Apart H p where
  buffer := apart.buffer.symm
  bars := apart.bars.symm
  factory := apart.factory.symm
  filters := apart.filters.symm
  listener same := (apart.listener same.symm).symm
  parse same := by
    rw [same]
    exact apart.parse same.symm

/-- Whether a client was made by the factory of a presenter. -/
def Presenter.Owns (maker : ClientId → FactoryId) (p : Presenter) (client : ClientId) : Prop :=
  maker client = p.factory

namespace HostCall

variable {maker : ClientId → FactoryId} {p : Presenter} {call : HostCall}

/-- Where the own calls of a presenter go. -/
theorem IsOwn.target (own : call.IsOwn (p.Owns maker) p) :
    call.target maker = ⟨.barManager, p.bars⟩ ∨ call.target maker = ⟨.factory, p.factory⟩ ∨
      call.target maker = ⟨.buffer, p.buffer⟩ ∨ ∃ snapshot, call = .parse p.outliner snapshot := by
  cases call with
  | barSlot bars | removeBar bars | addBar bars =>
    have own : bars = p.bars := own
    exact .inl (by rw [own]; rfl)
  | createClient factory =>
    have own : factory = p.factory := own
    exact .inr (.inl (by rw [own]; rfl))
  | updateClient client | unregisterClient client =>
    have own : maker client = p.factory := own
    exact .inr (.inl (by rw [← own]; rfl))
  | snapshot buffer =>
    have own : buffer = p.buffer := own
    exact .inr (.inr (.inl (by rw [own]; rfl)))
  | parse outliner snapshot =>
    have own : outliner = p.outliner := own
    exact .inr (.inr (.inr ⟨snapshot, by rw [own]⟩))
  | _ => exact own.elim

end HostCall

namespace Host.Separate

variable {H : Host η} {maker : ClientId → FactoryId} (separate : H.Separate maker)
include separate

/-- Calls of different windows are apart. -/
theorem own {p q : Presenter} (apart : p.Apart H q) {call call' : HostCall}
    (own : call.IsOwn (p.Owns maker) p) (own' : call'.IsOwn (q.Owns maker) q) :
    Action.Apart (H.answer call) (H.answer call') := by
  have other {kind : Kind} {r r' : Ref kind} (ne : r ≠ r') :
      (⟨kind, r⟩ : (kind : Kind) × Ref kind) ≠ ⟨kind, r'⟩ := fun same => by
    cases same
    exact ne rfl
  rcases own.target with t | t | t | ⟨snapshot, rfl⟩ <;>
    rcases own'.target with t' | t' | t' | ⟨snapshot', rfl⟩
  case inr.inr.inr.inr.inr.inr =>
    by_cases shared : p.outliner = q.outliner
    · rw [← shared]
      exact apart.parse shared _ _
    · exact separate.apart (other shared)
  all_goals
    refine separate.apart ?_
    first | rw [t] | skip
    first | rw [t'] | skip
    first
      | exact other apart.bars
      | exact other apart.factory
      | exact other apart.buffer
      | nofun

end Host.Separate

/-! ## Sequences of calls -/

/-- The host after some calls. -/
def Host.afterAll (H : Host η) (exchanges : List Exchange) (host : η) : η :=
  exchanges.foldl (fun host x => (H.answer x.1).after host) host

namespace Host

variable {H : Host η}

theorem afterAll_concat (exchanges : List Exchange) (x : Exchange) (host : η) :
    H.afterAll (exchanges ++ [x]) host = (H.answer x.1).after (H.afterAll exchanges host) := by
  unfold afterAll
  rw [List.foldl_append]
  rfl

theorem through_afterAll {exchanges : List Exchange} {call : HostCall}
    (apart : ∀ x ∈ exchanges, Apart (H.answer x.1) (H.answer call)) :
    Through (H.afterAll exchanges) (H.answer call) := by
  induction exchanges with
  | nil => exact Through.id
  | cons x rest ih =>
    have first := (apart x List.mem_cons_self).right
    exact first.comp (ih fun y mem => apart y (List.mem_cons_of_mem _ mem))

theorem afterAll_comm {exchanges exchanges' : List Exchange}
    (apart : ∀ x ∈ exchanges, ∀ y ∈ exchanges', Apart (H.answer x.1) (H.answer y.1)) (host : η) :
    H.afterAll exchanges (H.afterAll exchanges' host) =
      H.afterAll exchanges' (H.afterAll exchanges host) := by
  induction exchanges generalizing host with
  | nil => rfl
  | cons x rest ih =>
    have first : Through (H.afterAll exchanges') (H.answer x.1) :=
      through_afterAll fun y mem => (apart x List.mem_cons_self y mem).symm
    show H.afterAll rest ((H.answer x.1).after (H.afterAll exchanges' host)) = _
    rw [first.after]
    exact ih (fun y mem => apart y (List.mem_cons_of_mem _ mem)) _

end Host

end OutlineBar
