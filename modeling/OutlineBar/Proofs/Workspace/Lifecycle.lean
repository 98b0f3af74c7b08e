/-
Every client is told to unregister once, and nothing after that.

Windows make clients, offer them to the host, detach them and replace them, one by one or
all windows of a session at once, and any call may panic in between.  The main statement is
`clients_released_once`: whatever happens, no client is released twice, is sent an outline
without having been taken, or is sent one after it was released; a window has at most one
client that was taken and not released, the one it is attached to; and as long as no call
panicked, the clients that were made and are not attached have been released.

The invariant is `Accounted`.  It says who owns which client, and what that means for the
lists of the log.
-/
import Mathlib.Data.List.Nodup
import Mathlib.Logic.Function.Basic
import OutlineBar.Proofs.Host.Slotted
import OutlineBar.Proofs.Presenter.Tending
import OutlineBar.Proofs.Workspace.Upheld

namespace OutlineBar

open OutlineBar.Action

variable {η : Type} {H : Host η} {caller : Option PresenterId}

/-- Whether every call returned. -/
def Calm (log : List (HostRecord η)) : Prop := ∀ r ∈ log, r.returned = true

/-- Whether no client was made twice. -/
def Fresh (log : List (HostRecord η)) : Prop := (madeIn log).Nodup

instance {log : List (HostRecord η)} : Decidable (Fresh log) :=
  inferInstanceAs (Decidable (List.Nodup _))

theorem Fresh.of_extends {old new : List (HostRecord η)} (h : Fresh new)
    (grown : Extends caller old new) : Fresh old := by
  obtain ⟨more, rfl, -⟩ := grown
  unfold Fresh madeIn at h
  rw [List.filterMap_append] at h
  exact (List.nodup_append.mp h).1

theorem Calm.of_extends {old new : List (HostRecord η)} (h : Calm new)
    (grown : Extends caller old new) : Calm old := fun r mem => h r (grown.mem mem)

/-- Clients and their owners, if `clients` says who is attached to whom and `fixed` says
what the windows are, of which `count` were opened. -/
structure Accounted (owner : ClientId → PresenterId) (clients : PresenterId → Option ClientId)
    (fixed : PresenterId → Presenter) (count : Nat) (log : List (HostRecord η)) : Prop where
  lawful : Lawful log
  owned : ∀ client ∈ madeIn log, (owner client).index < count ∧
    MadeFor (owner client) log (fixed (owner client)).factory (fixed (owner client)).window client
  attached : ∀ id client, clients id = some client →
    owner client = id ∧ client ∈ takenIn log ∧ client ∉ releasedIn log
  live : ∀ client ∈ takenIn log, client ∉ releasedIn log → clients (owner client) = some client
  tidy : Calm log → ∀ client ∈ madeIn log, client ∉ releasedIn log →
    clients (owner client) = some client

namespace Accounted

variable {owner : ClientId → PresenterId} {clients : PresenterId → Option ClientId}
  {fixed : PresenterId → Presenter} {count : Nat} {log log' : List (HostRecord η)}
  {id : PresenterId} {client : ClientId}

/-- Calls that neither make nor take a client, nor release one. -/
theorem idle (h : Accounted owner clients fixed count log) (grown : Extends caller log log')
    (lawful : Lawful log') (made : madeIn log' = madeIn log) (taken : takenIn log' = takenIn log)
    (released : releasedIn log' = releasedIn log) : Accounted owner clients fixed count log' where
  lawful := lawful
  owned := by
    rw [made]
    exact fun client mem => (h.owned client mem).imp_right (·.mono grown)
  attached := by rw [taken, released]; exact h.attached
  live := by rw [taken, released]; exact h.live
  tidy calm := by rw [made, released]; exact h.tidy (calm.of_extends grown)

/-- A new client changes no other one's owner. -/
theorem owner_of_made (new : client ∉ madeIn log) {other : ClientId} (mem : other ∈ madeIn log) :
    Function.update owner client id other = owner other :=
  Function.update_of_ne (fun same : other = client => new (same ▸ mem)) _ _

theorem owned_make (h : Accounted owner clients fixed count log) (grown : Extends caller log log')
    (opened : id.index < count) (new : client ∉ madeIn log)
    (made : madeIn log' = madeIn log ++ [client])
    (own : MadeFor id log' (fixed id).factory (fixed id).window client) :
    let owner' := Function.update owner client id
    ∀ other ∈ madeIn log', (owner' other).index < count ∧
      MadeFor (owner' other) log' (fixed (owner' other)).factory (fixed (owner' other)).window
        other := by
  intro owner' other mem
  rw [made] at mem
  rcases List.mem_append.mp mem with old | newest
  · have same : owner' other = owner other := owner_of_made new old
    rw [same]
    exact (h.owned other old).imp_right (·.mono grown)
  · have mine : owner' client = id := Function.update_self _ _ _
    rw [List.mem_singleton.mp newest, mine]
    exact ⟨opened, own⟩

/-- A window without a client makes one that the host takes. -/
theorem take (h : Accounted owner clients fixed count log) (grown : Extends caller log log')
    (lawful : Lawful log') (free : clients id = none) (opened : id.index < count)
    (new : client ∉ madeIn log) (made : madeIn log' = madeIn log ++ [client])
    (own : MadeFor id log' (fixed id).factory (fixed id).window client)
    (taken : takenIn log' = takenIn log ++ [client]) (released : releasedIn log' = releasedIn log) :
    Accounted (Function.update owner client id) (Function.update clients id (some client)) fixed
      count log' := by
  have mine : Function.update owner client id client = id := Function.update_self _ _ _
  -- What was attached stays so, since the window had no client.
  have stays : ∀ other ∈ madeIn log, clients (owner other) = some other →
      Function.update clients id (some client) (Function.update owner client id other) =
        some other := by
    intro other mem attached
    have elsewhere : owner other ≠ id := by
      rintro same
      rw [same, free] at attached
      cases attached
    rw [owner_of_made new mem, Function.update_of_ne elsewhere, attached]
  have shows : Function.update clients id (some client) (Function.update owner client id client) =
      some client := by rw [mine, Function.update_self]
  refine ⟨lawful, h.owned_make grown opened new made own, ?_, ?_, ?_⟩
  · intro id' other attached
    rw [taken, released]
    by_cases same : id' = id
    · rw [same, Function.update_self] at attached
      cases attached
      refine ⟨mine.trans same.symm, List.mem_append_right _ List.mem_cons_self, fun mem => ?_⟩
      exact new (h.lawful.madeIn_of_mem_releasedIn mem)
    · rw [Function.update_of_ne same] at attached
      obtain ⟨owned, mem, held⟩ := h.attached id' other attached
      refine ⟨?_, List.mem_append_left _ mem, held⟩
      rw [owner_of_made new (h.lawful.madeIn_of_mem_takenIn mem), owned]
  · intro other mem held
    rw [taken] at mem
    rw [released] at held
    rcases List.mem_append.mp mem with old | newest
    · exact stays other (h.lawful.madeIn_of_mem_takenIn old) (h.live other old held)
    · rw [List.mem_singleton.mp newest]
      exact shows
  · intro calm other mem held
    rw [made] at mem
    rw [released] at held
    rcases List.mem_append.mp mem with old | newest
    · exact stays other old (h.tidy (calm.of_extends grown) other old held)
    · rw [List.mem_singleton.mp newest]
      exact shows

/-- A window makes a client that the host does not take, and releases it if nothing
panics. -/
theorem discard (h : Accounted owner clients fixed count log) (grown : Extends caller log log')
    (lawful : Lawful log') (opened : id.index < count)
    (new : client ∉ madeIn log) (made : madeIn log' = madeIn log ++ [client])
    (own : MadeFor id log' (fixed id).factory (fixed id).window client)
    (taken : takenIn log' = takenIn log) {more : List ClientId}
    (released : releasedIn log' = releasedIn log ++ more) (only : ∀ other ∈ more, other = client)
    (calmly : Calm log' → client ∈ more) :
    Accounted (Function.update owner client id) clients fixed count log' := by
  have held_iff : ∀ other ∈ madeIn log, other ∉ releasedIn log' ↔ other ∉ releasedIn log := by
    intro other mem
    have absent : other ∉ more := fun here => new (only other here ▸ mem)
    rw [released, List.mem_append, or_iff_left absent]
  refine ⟨lawful, h.owned_make grown opened new made own, ?_, ?_, ?_⟩
  · intro id' other attached
    obtain ⟨owned, mem, held⟩ := h.attached id' other attached
    have old := h.lawful.madeIn_of_mem_takenIn mem
    rw [taken, owner_of_made new old, held_iff other old]
    exact ⟨owned, mem, held⟩
  · intro other mem held
    rw [taken] at mem
    have old := h.lawful.madeIn_of_mem_takenIn mem
    rw [owner_of_made new old]
    exact h.live other mem ((held_iff other old).mp held)
  · intro calm other mem held
    rw [made] at mem
    rcases List.mem_append.mp mem with old | newest
    · rw [owner_of_made new old]
      exact h.tidy (calm.of_extends grown) other old ((held_iff other old).mp held)
    · rw [List.mem_singleton.mp newest, released] at held
      exact absurd (List.mem_append_right _ (calmly calm)) held

/-- A window releases its client. -/
theorem release (h : Accounted owner clients fixed count log) (grown : Extends caller log log')
    (lawful : Lawful log') (has : clients id = some client) (made : madeIn log' = madeIn log)
    (taken : takenIn log' = takenIn log) (released : releasedIn log' = releasedIn log ++ [client]) :
    Accounted owner (Function.update clients id none) fixed count log' := by
  have mine : owner client = id := (h.attached id client has).1
  have stays : ∀ other, other ∉ releasedIn log' → clients (owner other) = some other →
      Function.update clients id none (owner other) = some other := by
    intro other held attached
    have elsewhere : owner other ≠ id := by
      intro same
      rw [same, has] at attached
      cases attached
      rw [released] at held
      exact held (List.mem_append_right _ List.mem_cons_self)
    rw [Function.update_of_ne elsewhere, attached]
  have held_of : ∀ other, other ∉ releasedIn log' → other ∉ releasedIn log := by
    intro other held mem
    rw [released] at held
    exact held (List.mem_append_left _ mem)
  refine ⟨lawful, ?_, ?_, ?_, ?_⟩
  · rw [made]
    exact fun other mem => (h.owned other mem).imp_right (·.mono grown)
  · intro id' other attached
    have ne : id' ≠ id := by
      rintro rfl
      rw [Function.update_self] at attached
      cases attached
    rw [Function.update_of_ne ne] at attached
    obtain ⟨owned, mem, held⟩ := h.attached id' other attached
    refine ⟨owned, taken ▸ mem, ?_⟩
    rw [released, List.mem_append, List.mem_singleton]
    rintro (before | rfl)
    · exact held before
    · exact ne (owned.symm.trans mine)
  · intro other mem held
    rw [taken] at mem
    exact stays other held (h.live other mem (held_of other held))
  · intro calm other mem held
    rw [made] at mem
    exact stays other held (h.tidy (calm.of_extends grown) other mem (held_of other held))

/-! ## Steps -/

section
variable {s s' s'' s₃ : Recorded η} {call : HostCall} {outcome : Except Panic call.Answer}
  {outline : Outline}

theorem idleCall (h : Accounted owner clients fixed count s.log)
    (called : H.Calls caller call s outcome s')
    (aside : HostRecord.IsAside ⟨caller, s.host, call, outcome⟩) :
    Accounted owner clients fixed count s'.log :=
  h.idle called.extends (called.throughout h.lawful aside.legal) (called.filterMap_same aside.made)
    (called.filterMap_same aside.taken) (called.filterMap_same aside.released)

theorem updateCall (h : Accounted owner clients fixed count s.log)
    (has : clients id = some client) {outcome : Except Panic Unit}
    (updated : H.Calls caller (.updateClient client outline) s outcome s') :
    Accounted owner clients fixed count s'.log := by
  obtain ⟨-, mem, held⟩ := h.attached id client has
  have lawful : Lawful s'.log := by
    refine updated.throughout h.lawful ⟨nofun, ?_, nofun⟩
    rintro _ ⟨⟩
    exact ⟨mem, held⟩
  exact h.idle updated.extends lawful (updated.filterMap_same rfl) (updated.filterMap_same rfl)
    (updated.filterMap_same rfl)

theorem releaseCall (h : Accounted owner clients fixed count s.log)
    (has : clients id = some client) {outcome : Except Panic Unit}
    (released : H.Calls caller (.unregisterClient client) s outcome s') :
    Accounted owner (Function.update clients id none) fixed count s'.log := by
  obtain ⟨-, mem, held⟩ := h.attached id client has
  have lawful : Lawful s'.log := by
    refine released.throughout h.lawful ⟨nofun, nofun, ?_⟩
    rintro _ ⟨⟩
    exact ⟨h.lawful.madeIn_of_mem_takenIn mem, held⟩
  exact h.release released.extends lawful has (released.filterMap_same rfl)
    (released.filterMap_same rfl) (released.filterMap_eq _)

variable (made : H.Calls caller (.createClient (fixed id).factory (fixed id).window outline) s
  (.ok client) s')
include made

theorem lawful_of_made (h : Accounted owner clients fixed count s.log) : Lawful s'.log :=
  made.throughout h.lawful ⟨nofun, nofun, nofun⟩

theorem madeIn_of_made : madeIn s'.log = madeIn s.log ++ [client] :=
  made.filterMap_eq HostRecord.made?

/-- A client is made and taken. -/
theorem takeCalls (h : Accounted owner clients fixed count s.log) (mine : id.Allows caller)
    (opened : id.index < count) (free : clients id = none) (new : client ∉ madeIn s.log)
    (offered : H.Calls caller (.addBar (fixed id).bars (fixed id).priority client) s'
      (.ok (.ok ())) s'') :
    Accounted (Function.update owner client id) (Function.update clients id (some client)) fixed
      count s''.log := by
  have lawful : Lawful s''.log := by
    refine offered.throughout (lawful_of_made made h) ⟨?_, nofun, nofun⟩
    rintro _ ⟨⟩
    rw [madeIn_of_made made]
    exact List.mem_append_right _ List.mem_cons_self
  have untaken : takenIn s'.log = takenIn s.log := made.filterMap_same rfl
  have unreleased : releasedIn s'.log = releasedIn s.log := made.filterMap_same rfl
  refine h.take (made.extends.trans offered.extends) lawful free opened new ?_
    ((made.madeFor mine).mono offered.extends) ?_ ?_
  · exact (offered.filterMap_same rfl).trans (madeIn_of_made made)
  · rw [← untaken]
    exact offered.filterMap_eq _
  · exact (offered.filterMap_same rfl).trans unreleased

/-- A client is made, refused and released. -/
theorem refuseCalls (h : Accounted owner clients fixed count s.log) (mine : id.Allows caller)
    (opened : id.index < count) (new : client ∉ madeIn s.log) {failure : HostFailure}
    (offered : H.Calls caller (.addBar (fixed id).bars (fixed id).priority client) s'
      (.ok (.error failure)) s'') {outcome : Except Panic Unit}
    (released : H.Calls caller (.unregisterClient client) s'' outcome s₃) :
    Accounted (Function.update owner client id) clients fixed count s₃.log := by
  have listed : madeIn s''.log = madeIn s.log ++ [client] :=
    (offered.filterMap_same rfl).trans (madeIn_of_made made)
  have untaken : takenIn s''.log = takenIn s.log :=
    (offered.filterMap_same rfl).trans (made.filterMap_same rfl)
  have unreleased : releasedIn s''.log = releasedIn s.log :=
    (offered.filterMap_same rfl).trans (made.filterMap_same rfl)
  have lawful : Lawful s₃.log := by
    have before : Lawful s''.log :=
      offered.throughout (lawful_of_made made h) ⟨nofun, nofun, nofun⟩
    refine released.throughout before ⟨nofun, nofun, ?_⟩
    rintro _ ⟨⟩
    rw [listed, unreleased]
    refine ⟨List.mem_append_right _ List.mem_cons_self, fun mem => ?_⟩
    exact new (h.lawful.madeIn_of_mem_releasedIn mem)
  have later := offered.extends.trans released.extends
  refine h.discard (made.extends.trans later) lawful opened new ?_ ((made.madeFor mine).mono later)
    ?_ ?_ (fun _ mem => List.mem_singleton.mp mem) fun _ => List.mem_cons_self
  · exact (released.filterMap_same rfl).trans listed
  · exact (released.filterMap_same rfl).trans untaken
  · rw [← unreleased]
    exact released.filterMap_eq _

/-- A client is made, and the host panics over it. -/
theorem loseCalls (h : Accounted owner clients fixed count s.log) (mine : id.Allows caller)
    (opened : id.index < count) (new : client ∉ madeIn s.log) {panic : Panic}
    (offered : H.Calls caller (.addBar (fixed id).bars (fixed id).priority client) s'
      (.error panic) s'') :
    Accounted (Function.update owner client id) clients fixed count s''.log := by
  have lawful : Lawful s''.log :=
    offered.throughout (lawful_of_made made h) ⟨nofun, nofun, nofun⟩
  have shaken : ¬ Calm s''.log := by
    intro calm
    have returned := calm _ (offered.logged ▸ List.mem_append_right _ List.mem_cons_self)
    cases returned
  have unreleased : releasedIn s''.log = releasedIn s.log ++ [] := by
    rw [List.append_nil]
    exact (offered.filterMap_same rfl).trans (made.filterMap_same rfl)
  refine h.discard (made.extends.trans offered.extends) lawful opened new ?_
    ((made.madeFor mine).mono offered.extends) ?_ unreleased nofun fun calm => absurd calm shaken
  · exact (offered.filterMap_same rfl).trans (madeIn_of_made made)
  · exact (offered.filterMap_same rfl).trans (made.filterMap_same rfl)

end

/-- What a step of a window makes of the owners. -/
theorem step {b b' : Bench η} (h : Accounted owner clients fixed count b.host.log)
    (mine : id.Allows caller) (opened : id.index < count) (has : clients id = b.client)
    (tends : Tends H caller (fixed id) b b') (fresh : Fresh b'.host.log) :
    ∃ owner', Accounted owner' (Function.update clients id b'.client) fixed count b'.host.log := by
  have same {owner' : ClientId → PresenterId} {log' : List (HostRecord η)}
      (kept : Accounted owner' clients fixed count log') :
      ∃ owner', Accounted owner' (Function.update clients id b.client) fixed count log' :=
    ⟨owner', by rw [← has, Function.update_eq_self]; exact kept⟩
  have new {s s' : Recorded η} {client : ClientId} {outline : Outline}
      (made : H.Calls caller (.createClient (fixed id).factory (fixed id).window outline) s
        (.ok client) s') (later : Extends caller s'.log b'.host.log) : client ∉ madeIn s.log := by
    intro old
    have once : (madeIn s'.log).Nodup := fresh.of_extends later
    rw [madeIn_of_made made] at once
    exact (List.nodup_append.mp once).2.2 _ old _ List.mem_cons_self rfl
  cases tends with
  | aside called aside => exact same (h.idleCall called (HostRecord.isAside_of_call aside))
  | stop => exact same h
  | notAsked asked => exact same (h.idleCall asked ⟨rfl, rfl, rfl, rfl⟩)
  | free asked => exact same (h.idleCall asked ⟨rfl, rfl, rfl, rfl⟩)
  | clear asked removed =>
    have h := h.idleCall asked ⟨rfl, rfl, rfl, rfl⟩
    exact same (h.idleCall removed ⟨rfl, rfl, rfl, rfl⟩)
  | stuck asked removed =>
    have h := h.idleCall asked ⟨rfl, rfl, rfl, rfl⟩
    exact same (h.idleCall removed ⟨rfl, rfl, rfl, rfl⟩)
  | notMade made => exact same (h.idleCall made ⟨rfl, rfl, rfl, rfl⟩)
  | taken made offered =>
    exact ⟨_, takeCalls made h mine opened has (new made offered.extends) offered⟩
  | refused made offered released =>
    have later := offered.extends.trans released.extends
    exact same (refuseCalls made h mine opened (new made later) offered released)
  | lost made offered =>
    exact same (loseCalls made h mine opened (new made offered.extends) offered)
  | update updated => exact same (h.updateCall has updated)
  | release released removed =>
    have h := h.releaseCall has released
    exact ⟨owner, h.idleCall removed ⟨rfl, rfl, rfl, rfl⟩⟩
  | cut released => exact ⟨owner, h.releaseCall has released⟩

/-- What all steps of an operation make of the owners. -/
theorem run {b b' : Bench η} (mine : id.Allows caller) (opened : id.index < count)
    (steps : Relation.ReflTransGen (Tends H caller (fixed id)) b b')
    (h : Fresh b.host.log →
      ∃ owner, Accounted owner (Function.update clients id b.client) fixed count b.host.log)
    (fresh : Fresh b'.host.log) :
    ∃ owner, Accounted owner (Function.update clients id b'.client) fixed count b'.host.log := by
  induction steps with
  | refl => exact h fresh
  | @tail b b' earlier tends ih =>
    obtain ⟨owner, accounted⟩ := ih (fresh.of_extends tends.extends)
    have stepped := accounted.step mine opened (Function.update_self _ _ _) tends fresh
    rwa [Function.update_idem] at stepped

end Accounted

/-! ## Workspaces -/

theorem Store.comp_get_set {kind : Kind} {α β : Type} (s : Store kind α) (r : Ref kind) (a : α)
    (f : α → β) :
    (fun r' => f ((s.set r a).get r')) = Function.update (fun r' => f (s.get r')) r (f a) := by
  funext r'
  by_cases e : r' = r
  · rw [e, Store.get_set_self, Function.update_self]
  · rw [Store.get_set_of_ne _ _ e, Function.update_of_ne e]

namespace Workspace

/-- Whether all clients of a workspace are accounted for, given that none was made twice. -/
def IsAccounted (w : Workspace (Recorded η)) : Prop :=
  Fresh w.host.log → ∃ owner, Accounted owner (fun id => (w.presenters.get id).client)
    (fun id => (w.presenters.get id).fixed) w.presenters.size w.host.log

namespace IsAccounted

variable {w w' : Workspace (Recorded η)}

/-- What a window does on its desk. -/
theorem putDesk (h : w.IsAccounted) {id : PresenterId} (mine : id.Allows caller)
    (opened : id.index < w.presenters.size) {d : Desk (Recorded η)}
    (leads : Desk.Leads H caller false (w.desk id) false d) : (w.putDesk id d).IsAccounted := by
  intro fresh
  have clients : (fun other => ((w.putDesk id d).presenters.get other).client) =
      Function.update (fun other => (w.presenters.get other).client) id d.presenter.client :=
    Store.comp_get_set _ _ _ _
  have fixed : (fun other => ((w.putDesk id d).presenters.get other).fixed) =
      fun other => (w.presenters.get other).fixed := by
    refine (Store.comp_get_set _ _ _ _).trans ?_
    rw [leads.fixed]
    exact Function.update_eq_self _ _
  have start : Fresh ((w.desk id).bench false).host.log →
      ∃ owner, Accounted owner
        (Function.update (fun other => (w.presenters.get other).client) id
          ((w.desk id).bench false).client)
        (fun other => (w.presenters.get other).fixed) w.presenters.size
        ((w.desk id).bench false).host.log := by
    have same : Function.update (fun other => (w.presenters.get other).client) id
        ((w.desk id).bench false).client = fun other => (w.presenters.get other).client :=
      Function.update_eq_self _ _
    rw [same]
    exact h
  rw [clients, fixed]
  exact Accounted.run mine opened leads.steps start fresh

theorem aside {ξ : Type} {view : η → ξ} (h : w.IsAccounted) (aside : Aside view caller w w') :
    w'.IsAccounted := by
  intro fresh
  obtain ⟨more, log, own⟩ := aside.log
  have apart : ∀ r ∈ more, r.IsAside := fun r mem => HostRecord.isAside_of_call (own r mem).2
  obtain ⟨owner, accounted⟩ := h (fresh.of_extends aside.grown)
  rw [aside.presenters]
  refine ⟨owner, accounted.idle aside.grown ?_ ?_ ?_ ?_⟩
  all_goals rw [log]
  · exact accounted.lawful.append_aside apart
  · exact filterMap_append_aside fun r mem => (apart r mem).made
  · exact filterMap_append_aside fun r mem => (apart r mem).taken
  · exact filterMap_append_aside fun r mem => (apart r mem).released

/-- A new window has no client. -/
theorem add (h : w.IsAccounted) {p : Presenter} (unattached : p.client = none) :
    IsAccounted { w with presenters := (w.presenters.add p).2 } := by
  intro fresh
  obtain ⟨owner, accounted⟩ := h fresh
  -- A window that was not opened owns nothing, so it has no client either.
  have unknown : (w.presenters.get (w.presenters.add p).1).client = none := by
    rw [Option.eq_none_iff_forall_ne_some]
    intro client attached
    obtain ⟨owned, mem, -⟩ := accounted.attached _ client attached
    have opened := (accounted.owned client (accounted.lawful.madeIn_of_mem_takenIn mem)).1
    rw [owned] at opened
    exact Nat.lt_irrefl _ opened
  have clients : (fun id => ((w.presenters.add p).2.get id).client) =
      fun id => (w.presenters.get id).client := by
    funext id
    by_cases new : id.index = w.presenters.size
    · have same : id = (w.presenters.add p).1 := congrArg Ref.mk new
      rw [same, Store.get_add_self, unattached, unknown]
    · rw [Store.get_add_of_ne _ _ new]
  rw [clients]
  refine ⟨owner, accounted.lawful, fun client mem => ?_, accounted.attached, accounted.live,
    accounted.tidy⟩
  obtain ⟨opened, made⟩ := accounted.owned client mem
  rw [Store.get_add_of_lt _ _ opened]
  exact ⟨Nat.lt_succ_of_lt opened, made⟩

end IsAccounted

theorem upheld_isAccounted (H : Host η) :
    Upheld H (fun _ => ()) (fun _ => True) (fun _ _ => True) (IsAccounted (η := η)) where
  overlooks := H.overlooks_nothing
  aside aside h := h.aside aside
  desk operation mine opened h := h.putDesk mine opened (Desk.leads_leaves H operation _)
  opened _ new h := h.add new.client
  changed _ h := h

end Workspace

/-- Whatever happens to windows and sessions, and whichever calls fail or panic, if the
factories never make a client twice:

No client is told to unregister twice.  A client is sent an outline only after the host
took it, and not after it was told to unregister.  Every client belongs to a window, for
which it was made, and the one attached to a window is the only one that was taken and not
told to unregister.  If no call panicked, every client was told to unregister once, but for
those that are attached, which were not. -/
theorem clients_released_once (H : Host η) {start w : Workspace (Recorded η)}
    (silent : start.host.log = []) (detached : ∀ id, (start.presenters.get id).client = none)
    (reached : Reaches H (fun w operation => ∀ h ∈ operation.handles w, w.Knows h) start w)
    (fresh : Fresh w.host.log) :
    (releasedIn w.host.log).Nodup ∧
    Throughout (fun past r => ∀ client, r.updated? = some client →
      client ∈ takenIn past ∧ client ∉ releasedIn past) w.host.log ∧
    ∃ owner : ClientId → PresenterId,
      (∀ client ∈ madeIn w.host.log,
        let p := w.presenters.get (owner client)
        (owner client).index < w.presenters.size ∧
          MadeFor (owner client) w.host.log p.factory p.window client) ∧
      (∀ id client, (w.presenters.get id).client = some client ↔
        owner client = id ∧ client ∈ takenIn w.host.log ∧ client ∉ releasedIn w.host.log) ∧
      (Calm w.host.log → ∀ client ∈ madeIn w.host.log,
        (releasedIn w.host.log).count client =
          if (w.presenters.get (owner client)).client = some client then 0 else 1) := by
  have base : start.IsAccounted := by
    intro _
    have nothing : ∀ f : HostRecord η → Option ClientId, start.host.log.filterMap f = [] := by
      rw [silent]
      exact fun _ => rfl
    refine ⟨fun _ => ⟨0⟩, silent ▸ .nil, ?_, ?_, ?_, ?_⟩
    · intro client mem
      rw [madeIn, nothing] at mem
      cases mem
    · intro id client attached
      rw [detached] at attached
      cases attached
    · intro client mem
      rw [takenIn, nothing] at mem
      cases mem
    · intro _ client mem
      rw [madeIn, nothing] at mem
      cases mem
  obtain ⟨owner, accounted⟩ := reached.invariant base
    (fun w operation accounted known => (Workspace.upheld_isAccounted H).perform known
      (fun _ _ _ => trivial) (fun _ _ => trivial) accounted) fresh
  refine ⟨accounted.lawful.nodup_releasedIn, ?_, owner, accounted.owned, ?_, ?_⟩
  · exact fun past r future split => (accounted.lawful past r future split).updated
  · intro id client
    refine ⟨accounted.attached id client, ?_⟩
    rintro ⟨rfl, mem, held⟩
    exact accounted.live client mem held
  · intro calm client mem
    split
    · rename_i attached
      exact List.count_eq_zero_of_not_mem (accounted.attached _ client attached).2.2
    · rename_i gone
      refine List.count_eq_one_of_mem accounted.lawful.nodup_releasedIn ?_
      exact Decidable.byContradiction fun held => gone (accounted.tidy calm client mem held)

/-- A window is given a second client, and loses it when its session is dropped. -/
theorem clients_released_once_at_drop :
    let H := Host.slotted fun _ => true
    let p : Presenter := ⟨⟨1⟩, ⟨0⟩, ⟨0⟩, ⟨0⟩, ⟨0⟩, ⟨0⟩, ⟨0⟩, ⟨0⟩, none, none, [], 0⟩
    let start : Workspace (Recorded Slotted) := { host := ⟨{}, []⟩, presenters := ⟨1, fun _ => p⟩ }
    ∃ w, Reaches H (fun w operation => ∀ h ∈ operation.handles w, w.Knows h) start w ∧
      madeIn w.host.log = [.made ⟨0⟩ 0, .made ⟨0⟩ 1] ∧
      releasedIn w.host.log = [.made ⟨0⟩ 0, .made ⟨0⟩ 1] ∧ (releasedIn w.host.log).Nodup := by
  intro H p start
  let h : Handle := ⟨⟨1⟩, ⟨0⟩, ⟨0⟩⟩
  let s : Session := ⟨⟨0⟩, ⟨⟨⟨0⟩, none⟩, ⟨0⟩, none⟩⟩
  have reached : Reaches H (fun w operation => ∀ h ∈ operation.handles w, w.Knows h) start start :=
    .start
  have reached := reached.step (.window h .adorn) (by decide +kernel)
  have reached := reached.step (.window h .attach) (by decide +kernel)
  have reached := reached.step (.session s .drop) (by decide +kernel)
  refine ⟨_, reached, by decide +kernel, by decide +kernel, ?_⟩
  exact (clients_released_once H rfl (fun _ => rfl) reached (by decide +kernel)).1

end OutlineBar
