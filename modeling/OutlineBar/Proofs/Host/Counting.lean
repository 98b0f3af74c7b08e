/-
Hosts whose objects count.

Every object counts the calls to it, and what it answers may depend on its count only.  Such a
host is made of separate objects, whatever they answer, and so are its idle hooks.
-/
import Mathlib.Data.Sigma.Basic
import OutlineBar.Proofs.Presenter.Steady
import OutlineBar.Proofs.Session.TickOrder

namespace OutlineBar

open OutlineBar.Action

/-- How often every object was called. -/
abbrev Counts := (kind : Kind) × Ref kind → Nat

namespace Counts

variable {α β : Type} {object other : (kind : Kind) × Ref kind}

def count (object : (kind : Kind) × Ref kind) (counts : Counts) : Counts :=
  fun other => if other = object then counts other + 1 else counts other

theorem count_comm (counts : Counts) :
    (counts.count object).count other = (counts.count other).count object := by
  funext third
  unfold count
  split <;> split <;> rfl

/-- A call to an object, which comes to something that its count says. -/
def call (object : (kind : Kind) × Ref kind) (outcome : Nat → Except Panic α) : Action Counts α :=
  fun counts =>
    match outcome (counts object) with
    | .ok a => .ok a (counts.count object)
    | .error p => .error p (counts.count object)

theorem after_call (outcome : Nat → Except Panic α) :
    (call object outcome).after = count object := by
  funext counts
  unfold Action.after call
  cases outcome (counts object) <;> rfl

/-- Calls to other objects pass through a call, and so do calls to the same one if it comes to
the same at any time. -/
theorem through_call {outcome : Nat → Except Panic α} (outcome' : Nat → Except Panic β)
    (blind : object ≠ other ∨ ∀ m n, outcome m = outcome n) :
    Through (call other outcome').after (call object outcome) := by
  intro counts
  have same : outcome (counts.count other object) = outcome (counts object) := by
    rcases blind with ne | constant
    · exact congrArg outcome (if_neg ne)
    · exact constant _ _
  rw [after_call]
  unfold call
  rw [same, count_comm]
  cases outcome (counts object) <;> rfl

theorem apart_call (outcome : Nat → Except Panic α) (outcome' : Nat → Except Panic β)
    (ne : object ≠ other) : Apart (call object outcome) (call other outcome') :=
  ⟨through_call outcome' (.inl ne), through_call outcome (.inl ne.symm)⟩

theorem apart_constant (object : (kind : Kind) × Ref kind) (result : Except Panic α)
    (result' : Except Panic β) :
    Apart (call object fun _ => result) (call object fun _ => result') :=
  ⟨through_call (fun _ => result') (.inr fun _ _ => rfl),
    through_call (fun _ => result) (.inr fun _ _ => rfl)⟩

end Counts

namespace Counts

/-- The factory that makes a client. -/
def maker : ClientId → FactoryId
  | .made factory _ => factory
  | .foreign _ => ⟨0⟩

/-- What an object answers whose count is `n`. -/
def reply (removes : BarManagerId → Nat → Bool) : (call : HostCall) → (n : Nat) → call.Answer
  | .primaryView _, _ | .secondaryView _, _ => .ok ⟨0⟩
  | .barSlot _, _ => .ok none
  | .removeBar bars, n => if removes bars n then .ok () else .error (.general .removeBar)
  | .createClient factory .., n => .made factory n
  | .addBar .., _ | .filterKeyboard .., _ | .filterView .., _ => .ok ()
  | .updateClient .., _ | .unregisterClient _, _ => ()
  | .requestParse .., _ | .subscribe _, _ | .unsubscribeIdle .., _ => ()
  | .snapshot _, n => ⟨n, "a"⟩
  | .resolve .., _ => .ok ⟨0⟩
  | .parse _ snapshot, _ => .empty snapshot.version snapshot.byteLength
  | .mayContinue _, _ => true
  | .subscribeIdle .., _ => ⟨0⟩

end Counts

/-- A host of objects that count.  They never panic, but idle hooks may. -/
def Host.counting (removes : BarManagerId → Nat → Bool)
    (hook : FiltersId → Nat → Except Panic HostStatus) : Host Counts where
  answer call := Counts.call (call.target Counts.maker) fun n => .ok (Counts.reply removes call n)
  onIdle filters _ := Backstage.onHost (Counts.call ⟨_, filters⟩ (hook filters))

namespace Host

variable {removes : BarManagerId → Nat → Bool} {hook : FiltersId → Nat → Except Panic HostStatus}

theorem counting_steady : (Host.counting removes hook).Steady := fun _ _ => ⟨_, _, rfl⟩

theorem counting_separate : (Host.counting removes hook).Separate Counts.maker where
  made created := by
    cases created
    rfl
  apart {call call'} ne :=
    Counts.apart_call (fun n => .ok (Counts.reply removes call n))
      (fun n => .ok (Counts.reply removes call' n)) ne

/-- An outline depends on the text only. -/
theorem counting_parse (outliner : OutlinerId) (snapshot snapshot' : Snapshot) :
    Apart ((Host.counting removes hook).parse outliner snapshot)
      ((Host.counting removes hook).parse outliner snapshot') := by
  have parsed (snapshot : Snapshot) : (Host.counting removes hook).parse outliner snapshot =
      Counts.call ⟨_, outliner⟩
        fun _ => .ok (Outline.empty snapshot.version snapshot.byteLength) := rfl
  rw [parsed, parsed]
  exact Counts.apart_constant _ _ _

theorem counting_attends (source : IdleSourceId) :
    (Host.counting removes hook).Attends
      (fun filters => Counts.call ⟨_, filters⟩ (hook filters)) source where
  onIdle _ := rfl
  continues counts := ⟨counts.count ⟨_, source⟩, rfl⟩
  apart ne := Counts.apart_call _ _ fun same => ne (by cases same; rfl)
  source filters :=
    Counts.apart_call (fun n => .ok (Counts.reply removes (.mayContinue source) n)) (hook filters)
      fun same => nomatch congrArg Sigma.fst same

end Host

end OutlineBar
