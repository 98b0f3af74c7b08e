/-
A bag as a typed map.

A slot is read through a check of the type's name, and a value that fails the
check reads as if there were none.  No bag that was built by storing and removing
has such a value: every slot holds a value of the type it stands for, and no type
has two slots.  So a bag answers as a function from types to values does.

Which object comes out of a bag matters, and not only which value.  The calls are
therefore told about objects, values with an identity, and the same calls can be
made on a bag and on a function.
-/
import OutlineBar.Bag
import Mathlib.Data.Finset.Card
import Mathlib.Data.Finset.Dedup
import Mathlib.Logic.Function.Basic

namespace OutlineBar

namespace Bag

variable {κ : Type} {ν : κ → Type} [DecidableEq κ]

/-! ## Bags without a value of the wrong type -/

/-- Every slot holds a value of the type it stands for, and no type has two slots. -/
structure Typed (b : Bag κ ν) : Prop where
  tagged : ∀ slot ∈ b.slots, slot.2.key = slot.1
  distinct : (b.slots.map Prod.fst).Nodup

theorem mem_write {k : κ} {t : Tagged κ ν} {slots : List (κ × Tagged κ ν)}
    {slot : κ × Tagged κ ν} (mem : slot ∈ write k t slots) : slot = (k, t) ∨ slot ∈ slots := by
  induction slots with
  | nil => exact .inl (List.mem_singleton.mp mem)
  | cons first rest ih => grind [write]

theorem mem_keys_write {k k' : κ} {t : Tagged κ ν} {slots : List (κ × Tagged κ ν)}
    (mem : k' ∈ (write k t slots).map Prod.fst) : k' = k ∨ k' ∈ slots.map Prod.fst := by
  obtain ⟨slot, here, rfl⟩ := List.mem_map.mp mem
  rcases mem_write here with same | mem
  · exact .inl (congrArg Prod.fst same)
  · exact .inr (List.mem_map_of_mem mem)

theorem nodup_keys_write (k : κ) (t : Tagged κ ν) {slots : List (κ × Tagged κ ν)}
    (distinct : (slots.map Prod.fst).Nodup) : ((write k t slots).map Prod.fst).Nodup := by
  induction slots with
  | nil => exact List.nodup_singleton k
  | cons first rest ih =>
    obtain ⟨new, distinct⟩ := List.nodup_cons.mp distinct
    unfold write
    split
    · rename_i same
      exact List.nodup_cons.mpr ⟨same ▸ new, distinct⟩
    · rename_i other
      refine List.nodup_cons.mpr ⟨fun mem => ?_, ih distinct⟩
      exact (mem_keys_write mem).elim other new

omit [DecidableEq κ] in
theorem typed_empty : (empty : Bag κ ν).Typed := ⟨nofun, List.nodup_nil⟩

namespace Typed

variable {b : Bag κ ν}

theorem insert (typed : b.Typed) (k : κ) (v : ν k) : (b.insert k v).2.Typed where
  tagged slot mem := by
    rcases mem_write mem with rfl | mem
    · rfl
    · exact typed.tagged slot mem
  distinct := nodup_keys_write k ⟨k, v⟩ typed.distinct

theorem remove (typed : b.Typed) (k : κ) : (b.remove k).2.Typed where
  tagged slot mem := typed.tagged slot (List.mem_of_mem_filter mem)
  distinct := typed.distinct.sublist (List.filter_sublist.map Prod.fst)

/-- What a slot holds passes the check of its type. -/
theorem get?_isSome (typed : b.Typed) (k : κ) : (b.get? k).isSome = (b.slot? k).isSome := by
  cases found : b.slot? k with
  | none => simp [get?, found]
  | some t =>
    obtain ⟨slot, first, rfl⟩ := Option.map_eq_some_iff.mp found
    have here : slot.1 = k := by simpa using List.find?_some first
    have own : slot.2.key = k := (typed.tagged slot (List.mem_of_find?_eq_some first)).trans here
    simp [get?, found, Tagged.cast?, own]

end Typed

theorem slot?_isSome (b : Bag κ ν) (k : κ) :
    (b.slot? k).isSome ↔ k ∈ b.slots.map Prod.fst := by
  simp [slot?]

end Bag

/-! ## Calls on objects -/

section Calls

variable {κ : Type} {ν : κ → Type}

/-- A value as one object among others, which may hold equal values. -/
structure Object (ν : κ → Type) (k : κ) where
  identity : Nat
  value : ν k

inductive BagCall (ν : κ → Type) where
  /-- Makes an object of the value and stores it. -/
  | insert (k : κ) (value : ν k)
  /-- Stores an object that others hold as well. -/
  | insertShared (k : κ) (object : Object ν k)
  | get (k : κ)
  | remove (k : κ)
  | contains (k : κ)

inductive BagAnswer (ν : κ → Type) where
  | object (k : κ) (found : Option (Object ν k))
  | holds (yes : Bool)

namespace BagCall

def key : BagCall ν → κ
  | insert k _ => k
  | insertShared k _ => k
  | get k => k
  | remove k => k
  | contains k => k

def Stores (k : κ) : BagCall ν → Prop
  | insert k' _ => k' = k
  | insertShared k' _ => k' = k
  | _ => False

def Removes (k : κ) : BagCall ν → Prop
  | remove k' => k' = k
  | _ => False

/-- Whether the last call that stored under the key was not followed by one that
removes it. -/
def LeavesStored (calls : List (BagCall ν)) (k : κ) : Prop :=
  ∃ before call after, calls = before ++ call :: after ∧ call.Stores k ∧
    ∀ later ∈ after, ¬ later.Stores k ∧ ¬ later.Removes k

theorem leavesStored_concat (calls : List (BagCall ν)) (call : BagCall ν) (k : κ) :
    LeavesStored (calls ++ [call]) k ↔
      call.Stores k ∨ LeavesStored calls k ∧ ¬ call.Stores k ∧ ¬ call.Removes k := by
  constructor
  · rintro ⟨before, stored, after, split, stores, quiet⟩
    rcases List.eq_nil_or_concat after with rfl | ⟨after, last, rfl⟩
    · obtain ⟨rfl, e⟩ := List.append_inj' split rfl
      exact .inl ((List.singleton_inj.mp e).symm ▸ stores)
    · rw [List.concat_eq_append] at split quiet
      rw [← List.cons_append, ← List.append_assoc] at split
      obtain ⟨rfl, e⟩ := List.append_inj' split rfl
      obtain rfl := List.singleton_inj.mp e
      have earlier (later) (mem : later ∈ after) := quiet later (by simp [mem])
      exact .inr ⟨⟨before, stored, after, rfl, stores, earlier⟩, quiet call (by simp)⟩
  · rintro (stores | ⟨⟨before, stored, after, rfl, stores, quiet⟩, none⟩)
    · exact ⟨calls, call, [], rfl, stores, nofun⟩
    · refine ⟨before, stored, after ++ [call], by simp, stores, fun later mem => ?_⟩
      rcases List.mem_append.mp mem with mem | mem
      · exact quiet later mem
      · exact List.mem_singleton.mp mem ▸ none

end BagCall

/-- What can hold at most one value for each type. -/
structure Container (ν : κ → Type) (σ : Type) where
  insert : (k : κ) → ν k → σ → Option (ν k) × σ
  get? : (k : κ) → σ → Option (ν k)
  remove : (k : κ) → σ → Option (ν k) × σ
  contains : κ → σ → Bool

/-- A container in use, with the identity of the next object that is made. -/
structure InUse (σ : Type) where
  content : σ
  next : Nat := 0

namespace Container

variable {σ : Type}

def perform (c : Container (Object ν) σ) (u : InUse σ) : BagCall ν → BagAnswer ν × InUse σ
  | .insert k value =>
    let (previous, content) := c.insert k ⟨u.next, value⟩ u.content
    (.object k previous, ⟨content, u.next + 1⟩)
  | .insertShared k object =>
    let (previous, content) := c.insert k object u.content
    (.object k previous, { u with content })
  | .get k => (.object k (c.get? k u.content), u)
  | .remove k =>
    let (previous, content) := c.remove k u.content
    (.object k previous, { u with content })
  | .contains k => (.holds (c.contains k u.content), u)

/-- The answers to a list of calls, and the container after them. -/
def run (c : Container (Object ν) σ) : InUse σ → List (BagCall ν) → List (BagAnswer ν) × InUse σ
  | u, [] => ([], u)
  | u, call :: rest =>
    let (answer, u) := c.perform u call
    let (answers, u) := c.run u rest
    (answer :: answers, u)

theorem run_concat (c : Container (Object ν) σ) (u : InUse σ) (calls : List (BagCall ν))
    (call : BagCall ν) :
    c.run u (calls ++ [call]) =
      let (answers, u) := c.run u calls
      let (answer, u) := c.perform u call
      (answers ++ [answer], u) := by
  induction calls generalizing u with
  | nil => rfl
  | cons first rest ih => simp only [List.cons_append, run, ih]

variable [DecidableEq κ]

def bag (ν : κ → Type) : Container ν (Bag κ ν) where
  insert := Bag.insert
  get? := Bag.get?
  remove := Bag.remove
  contains := Bag.contains

/-- A function from types to values, changed at one type at a time. -/
def map (ν : κ → Type) : Container ν ((k : κ) → Option (ν k)) where
  insert k v m := (m k, Function.update m k (some v))
  get? k m := m k
  remove k m := (m k, Function.update m k none)
  contains k m := (m k).isSome

/-! ## The bag and the function -/

/-- A bag and a function that hold the same objects. -/
structure Agree (u : InUse (Bag κ (Object ν))) (m : InUse ((k : κ) → Option (Object ν k))) :
    Prop where
  typed : u.content.Typed
  get? : ∀ k, u.content.get? k = m.content k
  next : u.next = m.next

theorem agree_empty : Agree (ν := ν) ⟨.empty, 0⟩ ⟨fun _ => none, 0⟩ where
  typed := Bag.typed_empty
  get? _ := rfl
  next := rfl

namespace Agree

variable {u : InUse (Bag κ (Object ν))} {m : InUse ((k : κ) → Option (Object ν k))}

theorem contains (agree : Agree u m) (k : κ) : u.content.contains k = (m.content k).isSome := by
  rw [← agree.get?, agree.typed.get?_isSome, Bag.contains]

theorem insert (agree : Agree u m) (k : κ) (object : Object ν k) {next next' : Nat}
    (same : next = next') :
    Agree ⟨(u.content.insert k object).2, next⟩
      ⟨Function.update m.content k (some object), next'⟩ where
  typed := agree.typed.insert k object
  get? k' := by
    by_cases e : k' = k
    · subst e
      simp
    · simp [Bag.get?_insert_of_ne e, Function.update_of_ne e, agree.get?]
  next := same

theorem remove (agree : Agree u m) (k : κ) :
    Agree { u with content := (u.content.remove k).2 }
      { m with content := Function.update m.content k none } where
  typed := agree.typed.remove k
  get? k' := by
    by_cases e : k' = k
    · subst e
      simp
    · simp [Bag.get?_remove_of_ne e, Function.update_of_ne e, agree.get?]
  next := agree.next

/-- Every call has the same answer on both and leaves both with the same objects. -/
theorem perform (agree : Agree u m) (call : BagCall ν) :
    ((bag (Object ν)).perform u call).1 = ((map (Object ν)).perform m call).1 ∧
      Agree ((bag (Object ν)).perform u call).2 ((map (Object ν)).perform m call).2 := by
  cases call with
  | insert k value =>
    refine ⟨congrArg (BagAnswer.object k) (agree.get? k), ?_⟩
    have step := agree.insert k ⟨m.next, value⟩ (congrArg (· + 1) agree.next)
    simpa [Container.perform, bag, map, agree.next] using step
  | insertShared k object =>
    exact ⟨congrArg (BagAnswer.object k) (agree.get? k), agree.insert k object agree.next⟩
  | get k => exact ⟨congrArg (BagAnswer.object k) (agree.get? k), agree⟩
  | remove k => exact ⟨congrArg (BagAnswer.object k) (agree.get? k), agree.remove k⟩
  | contains k => exact ⟨congrArg BagAnswer.holds (agree.contains k), agree⟩

theorem run (agree : Agree u m) (calls : List (BagCall ν)) :
    ((bag (Object ν)).run u calls).1 = ((map (Object ν)).run m calls).1 ∧
      Agree ((bag (Object ν)).run u calls).2 ((map (Object ν)).run m calls).2 := by
  induction calls generalizing u m with
  | nil => exact ⟨rfl, agree⟩
  | cons call rest ih =>
    obtain ⟨answer, agree⟩ := agree.perform call
    obtain ⟨answers, agree⟩ := ih agree
    exact ⟨congrArg₂ List.cons answer answers, agree⟩

end Agree

/-- A call leaves the slots of all types but its own as they are. -/
theorem slot?_perform_of_ne (u : InUse (Bag κ (Object ν))) (call : BagCall ν) {k : κ}
    (ne : k ≠ call.key) :
    ((bag (Object ν)).perform u call).2.content.slot? k = u.content.slot? k := by
  cases call with
  | insert k' value => exact Bag.slot?_insert_of_ne ne _ _
  | insertShared k' object => exact Bag.slot?_insert_of_ne ne _ _
  | get k' => rfl
  | remove k' => exact Bag.slot?_remove_of_ne ne _
  | contains k' => rfl

theorem isSome_update (m : (k : κ) → Option (ν k)) (k' : κ) (held : Option (ν k')) (k : κ) :
    (Function.update m k' held k).isSome ↔
      k' = k ∧ held.isSome ∨ (m k).isSome ∧ k' ≠ k := by
  by_cases e : k' = k
  · subst e
    simp
  · simp [Function.update_of_ne (Ne.symm e), e]

theorem isSome_perform (m : InUse ((k : κ) → Option (Object ν k))) (call : BagCall ν) (k : κ) :
    (((map (Object ν)).perform m call).2.content k).isSome ↔
      call.Stores k ∨ (m.content k).isSome ∧ ¬ call.Stores k ∧ ¬ call.Removes k := by
  cases call with
  | get k' | contains k' => simp [perform, BagCall.Stores, BagCall.Removes]
  | _ => simp [perform, map, isSome_update, BagCall.Stores, BagCall.Removes]

theorem isSome_run (calls : List (BagCall ν)) (k : κ) :
    (((map (Object ν)).run ⟨fun _ => none, 0⟩ calls).2.content k).isSome ↔
      BagCall.LeavesStored calls k := by
  induction calls using List.reverseRecOn with
  | nil => simp [run, BagCall.LeavesStored]
  | append_singleton calls call ih =>
    rw [run_concat, BagCall.leavesStored_concat, ← ih]
    exact isSome_perform _ call k

end Container

end Calls

/-- Any calls on an empty bag have the answers that a function from types to
objects gives.  No slot of the bag they leave holds a value of another type than its
own, so none reads as if it were empty; the next call leaves the slots of other
types as they are; and the size of the bag counts the types whose last object was
stored and not removed since. -/
theorem Bag.typed_map {κ : Type} [DecidableEq κ] {ν : κ → Type} (calls : List (BagCall ν)) :
    let ⟨answers, used⟩ := (Container.bag (Object ν)).run ⟨.empty, 0⟩ calls
    let ⟨answers', map⟩ := (Container.map (Object ν)).run ⟨fun _ => none, 0⟩ calls
    answers = answers' ∧
      (∀ k, used.content.get? k = map.content k) ∧
      (∀ slot ∈ used.content.slots, slot.2.key = slot.1) ∧
      (∀ k, used.content.get? k = none → used.content.slot? k = none) ∧
      (∀ k, used.content.contains k = (used.content.get? k).isSome) ∧
      (∀ call k, k ≠ call.key →
        ((Container.bag (Object ν)).perform used call).2.content.slot? k =
          used.content.slot? k) ∧
      ∃ stored : Finset κ, used.content.size = stored.card ∧
        ∀ k, k ∈ stored ↔ BagCall.LeavesStored calls k := by
  obtain ⟨answers, agree⟩ := Container.agree_empty.run calls
  have typed := agree.typed
  refine ⟨answers, agree.get?, typed.tagged, fun k none => ?_, fun k => ?_,
    fun call k => Container.slot?_perform_of_ne _ call,
    ⟨Multiset.ofList _, typed.distinct⟩, ?_, fun k => ?_⟩
  · have same := typed.get?_isSome k
    rw [none] at same
    exact Option.not_isSome_iff_eq_none.mp (by simp [← same])
  · rw [typed.get?_isSome, Bag.contains]
  · exact (List.length_map Prod.fst).symm
  · rw [← Container.isSome_run, ← agree.get?, typed.get?_isSome, Bag.slot?_isSome]
    rfl

end OutlineBar
