/-
What became of clients, read off the log of the host.

A client is made by a call, offered by another, which may take it, sent outlines, and told
to unregister.  The lists below say which clients met with each of these, in the order of
the calls.  A call is aside if it is about neither clients nor bars.
-/
import Mathlib.Data.List.Induction
import OutlineBar.Proofs.Host.Recorded

namespace OutlineBar

variable {η : Type}

/-- Whether a call is about neither clients nor bars. -/
def HostCall.isAside : HostCall → Bool
  | .barSlot _ | .removeBar _ | .addBar .. => false
  | .createClient .. | .updateClient .. | .unregisterClient _ => false
  | _ => true

/-- The bar manager that a call goes to. -/
def HostCall.bars? : HostCall → Option BarManagerId
  | .barSlot bars | .removeBar bars | .addBar bars .. => some bars
  | _ => none

/-- The idle host that a call goes to. -/
def HostCall.idleHost? : HostCall → Option IdleHostId
  | .subscribeIdle idleHost _ | .unsubscribeIdle idleHost _ => some idleHost
  | _ => none

theorem HostCall.bars?_of_isAside {call : HostCall} (aside : call.isAside = true) :
    call.bars? = none := by
  cases call <;> first | rfl | cases aside

namespace HostRecord

/-- The client that a call made. -/
def made? : HostRecord η → Option ClientId
  | ⟨_, _, .createClient .., .ok client⟩ => some client
  | _ => none

/-- The client that the host took. -/
def taken? : HostRecord η → Option ClientId
  | ⟨_, _, .addBar _ _ client, .ok (.ok ())⟩ => some client
  | _ => none

/-- The client that was sent an outline, whatever came of it. -/
def updated? : HostRecord η → Option ClientId
  | ⟨_, _, .updateClient client _, _⟩ => some client
  | _ => none

/-- The client that was told to unregister, whatever came of it. -/
def released? : HostRecord η → Option ClientId
  | ⟨_, _, .unregisterClient client, _⟩ => some client
  | _ => none

def returned (r : HostRecord η) : Bool := r.outcome.isOk

/-- Whether a call neither made nor took a client, nor told it anything. -/
structure IsAside (r : HostRecord η) : Prop where
  made : r.made? = none
  taken : r.taken? = none
  updated : r.updated? = none
  released : r.released? = none

theorem isAside_of_call {r : HostRecord η} (aside : r.call.isAside = true) : r.IsAside := by
  obtain ⟨caller, before, call, outcome⟩ := r
  cases call <;> first | exact ⟨rfl, rfl, rfl, rfl⟩ | cases aside

end HostRecord

/-- The clients that were made. -/
def madeIn (log : List (HostRecord η)) : List ClientId := log.filterMap HostRecord.made?

/-- The clients that the host took. -/
def takenIn (log : List (HostRecord η)) : List ClientId := log.filterMap HostRecord.taken?

/-- The clients that were told to unregister. -/
def releasedIn (log : List (HostRecord η)) : List ClientId := log.filterMap HostRecord.released?

variable {log : List (HostRecord η)} {r : HostRecord η}

theorem filterMap_concat {β : Type} (f : HostRecord η → Option β) (log : List (HostRecord η))
    (r : HostRecord η) : (log ++ [r]).filterMap f = log.filterMap f ++ (f r).toList := by
  rw [List.filterMap_append]
  cases e : f r <;> simp [e]

theorem madeIn_concat (log : List (HostRecord η)) (r : HostRecord η) :
    madeIn (log ++ [r]) = madeIn log ++ r.made?.toList := filterMap_concat _ log r

theorem takenIn_concat (log : List (HostRecord η)) (r : HostRecord η) :
    takenIn (log ++ [r]) = takenIn log ++ r.taken?.toList := filterMap_concat _ log r

theorem releasedIn_concat (log : List (HostRecord η)) (r : HostRecord η) :
    releasedIn (log ++ [r]) = releasedIn log ++ r.released?.toList := filterMap_concat _ log r

/-! ## The order of calls -/

/-- Whether a call treats its client as it may: only a client that was made is taken or
released, a client is released once, and it is sent outlines only between the two. -/
structure HostRecord.Legal (past : List (HostRecord η)) (r : HostRecord η) : Prop where
  taken : ∀ client, r.taken? = some client → client ∈ madeIn past
  updated : ∀ client, r.updated? = some client → client ∈ takenIn past ∧ client ∉ releasedIn past
  released : ∀ client, r.released? = some client →
    client ∈ madeIn past ∧ client ∉ releasedIn past

theorem HostRecord.IsAside.legal (aside : r.IsAside) : r.Legal log :=
  ⟨by simp [aside.taken], by simp [aside.updated], by simp [aside.released]⟩

/-- Whether all calls treated their clients as they may. -/
abbrev Lawful (log : List (HostRecord η)) : Prop := Throughout HostRecord.Legal log

namespace Lawful

theorem madeIn_of_mem_takenIn (h : Lawful log) {client : ClientId} (mem : client ∈ takenIn log) :
    client ∈ madeIn log := by
  induction log using List.reverseRecOn with
  | nil => cases mem
  | append_singleton log r ih =>
    obtain ⟨earlier, last⟩ := Throughout.concat_iff.mp h
    rw [takenIn_concat, List.mem_append, Option.mem_toList] at mem
    rw [madeIn_concat]
    exact List.mem_append_left _ (mem.elim (ih earlier) (last.taken client))

theorem madeIn_of_mem_releasedIn (h : Lawful log) {client : ClientId}
    (mem : client ∈ releasedIn log) : client ∈ madeIn log := by
  induction log using List.reverseRecOn with
  | nil => cases mem
  | append_singleton log r ih =>
    obtain ⟨earlier, last⟩ := Throughout.concat_iff.mp h
    rw [releasedIn_concat, List.mem_append, Option.mem_toList] at mem
    rw [madeIn_concat]
    exact List.mem_append_left _ (mem.elim (ih earlier) fun own => (last.released client own).1)

/-- No client is released twice. -/
theorem nodup_releasedIn (h : Lawful log) : (releasedIn log).Nodup := by
  induction log using List.reverseRecOn with
  | nil => exact .nil
  | append_singleton log r ih =>
    obtain ⟨earlier, last⟩ := Throughout.concat_iff.mp h
    rw [releasedIn_concat]
    cases own : r.released? with
    | none => simpa using ih earlier
    | some client =>
      have new := (last.released client own).2
      rw [Option.toList_some, List.nodup_append]
      refine ⟨ih earlier, List.pairwise_singleton _ _, ?_⟩
      rintro old mem _ (_ | ⟨_, ⟨⟩⟩) rfl
      exact new mem

end Lawful

/-! ## Calls that are aside -/

theorem filterMap_append_aside {β : Type} {f : HostRecord η → Option β} {more : List (HostRecord η)}
    (none : ∀ r ∈ more, f r = none) : (log ++ more).filterMap f = log.filterMap f := by
  rw [List.filterMap_append, List.filterMap_eq_nil_iff.mpr none, List.append_nil]

theorem Lawful.append_aside (h : Lawful log) {more : List (HostRecord η)}
    (aside : ∀ r ∈ more, r.IsAside) : Lawful (log ++ more) :=
  Throughout.append h fun _ r mem => (aside r mem).legal

/-! ## One call -/

namespace Host.Calls

variable {H : Host η} {caller : Option PresenterId} {call : HostCall}
  {outcome : Except Panic call.Answer} {s s' : Recorded η} {β : Type} {f : HostRecord η → Option β}

theorem filterMap_eq (h : H.Calls caller call s outcome s') (f : HostRecord η → Option β) :
    s'.log.filterMap f = s.log.filterMap f ++ (f ⟨caller, s.host, call, outcome⟩).toList := by
  rw [h.logged, filterMap_concat]

theorem filterMap_same (h : H.Calls caller call s outcome s')
    (none : f ⟨caller, s.host, call, outcome⟩ = none) : s'.log.filterMap f = s.log.filterMap f := by
  rw [h.filterMap_eq, none, Option.toList_none, List.append_nil]

end Host.Calls

end OutlineBar
