/-
The idle subscription is given up once.

A session and a coordinator of idle ticks subscribe to their idle host when they begin.  Up to
three steps of an ending may give the subscription up: the shutdown itself, the session going out
of hand, and the clean-up after a window that panicked.  The main statement is
`subscription_released_once`: whatever happens in between and however the end comes about, the
idle host is told to subscribe once and to unsubscribe once, under the name that it gave out, and
the latter at the end and not before.

What else goes on does not concern the idle host, which is what `Workspace.keeps_uses` says.  An
ending closes the windows, which does not concern it either and may panic, and then one of the
steps finds the subscription and takes it away from the others.
-/
import OutlineBar.Proofs.Host.Separate
import OutlineBar.Proofs.Session.Interrupted
import OutlineBar.Proofs.Session.Opened
import OutlineBar.Proofs.Workspace.IdleHost

namespace OutlineBar

open OutlineBar.Action

variable {η : Type} {H : Host η} {idleHost : IdleHostId} {caller : Option PresenterId}

/-- The calls to an idle host and what came of them, in order. -/
def exchangesWith (idleHost : IdleHostId) (log : List (HostRecord η)) : List Exchange :=
  (exchangesIn log).filter fun x => x.1.idleHost? = some idleHost

/-- The idle host was told to subscribe, and gave out a name for the subscription. -/
def subscribing (idleHost : IdleHostId) (round : IdleRound) (subscription : SubscriptionId) :
    Exchange := ⟨.subscribeIdle idleHost round, .ok subscription⟩

/-- The idle host was told to unsubscribe. -/
def unsubscribing (idleHost : IdleHostId) (subscription : SubscriptionId) : Exchange :=
  ⟨.unsubscribeIdle idleHost subscription, .ok ()⟩

/-! ## Calls to an idle host -/

/-- Whether these are the calls to an idle host so far. -/
def Recorded.Uses (idleHost : IdleHostId) (exchanges : List Exchange) (s : Recorded η) : Prop :=
  exchangesWith idleHost s.log = exchanges

theorem exchangesWith_concat (idleHost : IdleHostId) (log : List (HostRecord η))
    (r : HostRecord η) :
    exchangesWith idleHost (log ++ [r]) = exchangesWith idleHost log ++
      if r.call.idleHost? = some idleHost then [r.exchange] else [] := by
  unfold exchangesWith
  rw [exchangesIn_append, List.filter_append]
  congr 1
  by_cases own : r.call.idleHost? = some idleHost
  · simp [exchangesIn, HostRecord.exchange, own]
  · simp [exchangesIn, HostRecord.exchange, own]

/-- The log of another call, or of an idle hook, says nothing about an idle host. -/
theorem Host.recorded_keptBeside (H : Host η) (caller : Option PresenterId) (idleHost : IdleHostId)
    (exchanges : List Exchange) :
    (H.recorded caller).KeptBeside idleHost (Recorded.Uses idleHost exchanges) where
  call {call} other s used := by
    obtain ⟨outcome, called⟩ := H.exists_calls caller call s
    unfold Recorded.Uses
    rw [called.logged, exchangesWith_concat, if_neg other, List.append_nil]
    exact used
  hook filters source := Keeps.zoom fun _ used => used

theorem Recorded.Uses.call {exchanges : List Exchange} {s s' : Recorded η}
    (used : s.Uses idleHost exchanges) {call : HostCall} (own : call.idleHost? = some idleHost)
    {a : call.Answer} (answered : (H.recorded caller).answer call s = .ok a s') :
    s'.Uses idleHost (exchanges ++ [⟨call, .ok a⟩]) := by
  unfold Uses at used ⊢
  rw [(Host.recorded_ok answered).2, exchangesWith_concat, if_pos own, used]
  rfl

namespace Workspace

/-- Whether these are the calls to an idle host so far. -/
abbrev Uses (idleHost : IdleHostId) (exchanges : List Exchange) (w : Workspace (Recorded η)) :
    Prop := HostIs (Recorded.Uses idleHost exchanges) w

/-- An operation that ends no session on an idle host does not call it. -/
theorem keeps_uses {exchanges : List Exchange} {operation : Operation η}
    (spares : ¬ operation.Ends idleHost) :
    Keeps (Uses idleHost exchanges) (operation.perform H) := by
  have kept (caller : Option PresenterId) := H.recorded_keptBeside caller idleHost exchanges
  cases operation with
  | openWindow parts scope =>
    exact Keeps.bind ((kept none).keeps_openWindow parts scope) fun _ => Keeps.pure _
  | window h operation => exact (kept _).keeps_window h operation
  | session s operation => exact (kept none).keeps_session fun ends own => spares ⟨ends, own⟩
  | outliner id operation => exact fun _ used => used
  | host change => exact fun _ used => used

end Workspace

open Workspace

theorem Reaches.uses {exchanges : List Exchange} {start w : Workspace (Recorded η)}
    (reached : Reaches H (fun _ operation => ¬ operation.Ends idleHost) start w)
    (used : start.Uses idleHost exchanges) : w.Uses idleHost exchanges :=
  reached.invariant used fun w _ used spares => keeps_uses spares w used

/-! ## Giving up a subscription -/

section
variable {exchanges : List Exchange} {subscription : SubscriptionId}
  {w w' : Workspace (Recorded η)}

theorem IdleCoordinator.install_uses {round : IdleRound} {c : IdleCoordinator}
    (installed : install (H.recorded none) round idleHost w = .ok c w')
    (used : w.Uses idleHost exchanges) : ∃ subscription,
      c = ⟨round, idleHost, some subscription⟩ ∧
        w'.Uses idleHost (exchanges ++ [subscribing idleHost round subscription]) := by
  obtain ⟨subscription, w₁, told, rest⟩ := bind_eq_ok installed
  obtain ⟨host, answered, rfl⟩ := zoom_eq_ok told
  cases rest
  exact ⟨subscription, rfl, used.call rfl answered⟩

/-- A subscription that was given up already is not given up again. -/
theorem IdleCoordinator.uninstall_spent {c : IdleCoordinator} (w : Workspace (Recorded η))
    (spent : c.subscription = none) :
    c.uninstall (H.recorded none) w = .ok { c with subscription := none } w := by
  have e := Session.uninstall_eq (H.recorded none) w c
  rw [spent] at e
  exact e

variable (quiet : ∀ subscription host, ∃ host',
  H.unsubscribeIdle idleHost subscription host = .ok () host')
include quiet

/-- A subscription that is held is given up. -/
theorem IdleCoordinator.uninstall_uses {c : IdleCoordinator} (own : c.idleHost = idleHost)
    (held : c.subscription = some subscription) (used : w.Uses idleHost exchanges) :
    ∃ w', c.uninstall (H.recorded none) w = .ok { c with subscription := none } w' ∧
      w'.Uses idleHost (exchanges ++ [unsubscribing idleHost subscription]) := by
  subst own
  obtain ⟨host, told⟩ := quiet subscription w.host.host
  have answered : (H.recorded none).unsubscribeIdle c.idleHost subscription w.host =
      .ok () _ := Host.recorded_of_ok none told
  have e := Session.uninstall_eq (H.recorded none) w c
  rw [held] at e
  dsimp only at e
  rw [answered] at e
  exact ⟨_, e, used.call rfl answered⟩

namespace Session

variable {s : Session} (own : s.idle.idleHost = idleHost)
  (held : s.idle.subscription = some subscription) (used : w.Uses idleHost exchanges)
include own held used

/-- Dropping a session gives its subscription up, also when a window panics. -/
theorem drop_uses : ((s.drop (H.recorded none)).after w).Uses idleHost
    (exchanges ++ [unsubscribing idleHost subscription]) := by
  have kept := H.recorded_keptBeside none idleHost exchanges
  have closed := kept.stable.after_closeWindows (s := s) (fun _ _ => trivial) used
  cases e : s.closeWindows (H.recorded none) w with
  | ok windows w₁ =>
    rw [after_of_ok e] at closed
    obtain ⟨w₂, gone, released⟩ := IdleCoordinator.uninstall_uses quiet own held closed
    rw [after_of_ok (end_of_closed e gone).2]
    exact released
  | error p w₁ =>
    rw [after_of_error e] at closed
    obtain ⟨w₂, gone, released⟩ := IdleCoordinator.uninstall_uses quiet own held closed
    have cleaned := onPanic_of_error e (s.abandon (H.recorded none))
    have abandoned : s.abandon (H.recorded none) w₁ = .ok () w₂ := bind_of_ok gone _
    rw [after_of_ok abandoned] at cleaned
    have dropped : s.drop (H.recorded none) w = .error p w₂ := bind_of_error cleaned _
    rw [after_of_error dropped]
    exact released

/-- Shutting a session down gives its subscription up.  If a window panics the session still has
it when it goes out of hand. -/
theorem shutdown_uses : ((s.shutdown (H.recorded none)).after w).Uses idleHost
    (exchanges ++ [unsubscribing idleHost subscription]) := by
  have kept := H.recorded_keptBeside none idleHost exchanges
  have closed := kept.stable.after_closeWindows (s := s) (fun _ _ => trivial) used
  cases e : s.closeWindows (H.recorded none) w with
  | ok windows w₁ =>
    rw [after_of_ok e] at closed
    obtain ⟨w₂, gone, released⟩ := IdleCoordinator.uninstall_uses quiet own held closed
    rw [after_of_ok (end_of_closed e gone).1]
    exact released
  | error p w₁ =>
    rw [after_of_error e] at closed
    have shut : s.shutdown (H.recorded none) w = _ :=
      bind_of_error (onPanic_of_error e (s.letGo (H.recorded none))) _
    have installed : s.idle.isInstalled = true := by
      unfold IdleCoordinator.isInstalled
      rw [held]
      rfl
    rw [after_of_error shut]
    unfold letGo
    rw [if_pos installed]
    exact drop_uses quiet own held closed

theorem ending_uses {ending : SessionOperation} (ends : ending.isEnding = true) :
    ((ending.perform (H.recorded none) s).after w).Uses idleHost
      (exchanges ++ [unsubscribing idleHost subscription]) := by
  cases ending with
  | shutdown =>
    have shut := shutdown_uses quiet own held used
    exact Keeps.after_bind shut fun _ _ _ released => released
  | drop => exact drop_uses quiet own held used
  | setEnabled | dispatch | tick => cases ends

end Session

end

/-! ## From the beginning to the end -/

/-- What becomes of a coordinator and of the workspace while other things go on.  The coordinator
was told so many times to uninstall. -/
inductive IdleCoordinator.Lives (H : Host η) (start : IdleCoordinator)
    (installed : Workspace (Recorded η)) :
    Nat → IdleCoordinator → Workspace (Recorded η) → Prop where
  | start : Lives H start installed 0 start installed
  | operation {times c w} (lives : Lives H start installed times c w) (operation : Operation η)
      (spares : ¬ operation.Ends start.idleHost) :
      Lives H start installed times c ((operation.perform H).after w)
  | tick {times c w} (lives : Lives H start installed times c w) (source : IdleSourceId) :
      Lives H start installed times c ((c.onIdle (H.recorded none) source).after w)
  | uninstall {times c w c' w'} (lives : Lives H start installed times c w)
      (told : c.uninstall (H.recorded none) w = .ok c' w') :
      Lives H start installed (times + 1) c' w'

section
variable {subscription : SubscriptionId} {before started : Workspace (Recorded η)}

theorem Session.start_uses {options : Options} {s : Session} {exchanges : List Exchange}
    (begun : Session.start (H.recorded none) options idleHost before = .ok s started)
    (used : before.Uses idleHost exchanges) : ∃ subscription,
      s.idle.idleHost = idleHost ∧ s.idle.subscription = some subscription ∧
        started.Uses idleHost
          (exchanges ++ [subscribing idleHost s.idle.round subscription]) := by
  obtain ⟨roster, w₁, added, rest⟩ := bind_eq_ok begun
  obtain ⟨scope, w₂, added', rest⟩ := bind_eq_ok rest
  obtain ⟨idle, w₃, installed, rest⟩ := bind_eq_ok rest
  have used₂ : w₂.Uses idleHost exchanges := by
    cases added
    cases added'
    exact used
  obtain ⟨subscription, rfl, subscribed⟩ := IdleCoordinator.install_uses installed used₂
  cases rest
  exact ⟨subscription, rfl, rfl, subscribed⟩

/-- A coordinator holds its subscription until it is told to uninstall. -/
theorem IdleCoordinator.Lives.uses {round : IdleRound} {times : Nat} {c : IdleCoordinator}
    {installed w : Workspace (Recorded η)} {exchanges : List Exchange}
    (quiet : ∀ subscription host, ∃ host',
      H.unsubscribeIdle idleHost subscription host = .ok () host')
    (lives : Lives H ⟨round, idleHost, some subscription⟩ installed times c w)
    (used : installed.Uses idleHost (exchanges ++ [subscribing idleHost round subscription])) :
    times = 0 ∧ (c.idleHost = idleHost ∧ c.subscription = some subscription) ∧
        w.Uses idleHost (exchanges ++ [subscribing idleHost round subscription]) ∨
      times ≠ 0 ∧ c.subscription = none ∧
        w.Uses idleHost (exchanges ++ [subscribing idleHost round subscription] ++
          [unsubscribing idleHost subscription]) := by
  induction lives with
  | start => exact .inl ⟨rfl, ⟨rfl, rfl⟩, used⟩
  | operation _ operation spares ih =>
    exact ih.imp (fun ⟨never, holds, used⟩ => ⟨never, holds, keeps_uses spares _ used⟩)
      fun ⟨told, spent, used⟩ => ⟨told, spent, keeps_uses spares _ used⟩
  | @tick _ c _ _ source ih =>
    have ticked (exchanges : List Exchange) :
        Keeps (Uses idleHost exchanges) (c.onIdle (H.recorded none) source) :=
      (H.recorded_keptBeside none idleHost exchanges).keeps_tick c.round source
    exact ih.imp (fun ⟨never, holds, used⟩ => ⟨never, holds, ticked _ _ used⟩)
      fun ⟨told, spent, used⟩ => ⟨told, spent, ticked _ _ used⟩
  | @uninstall _ c w _ _ _ told ih =>
    refine .inr ⟨Nat.succ_ne_zero _, Session.subscription_of_uninstall told, ?_⟩
    rcases ih with ⟨-, ⟨own, held⟩, used⟩ | ⟨-, spent, used⟩
    · obtain ⟨w', gone, released⟩ := uninstall_uses quiet own held used
      cases told.symm.trans gone
      exact released
    · cases told.symm.trans (uninstall_spent w spent)
      exact used

/-- When it is dropped, a coordinator gives up the subscription that it still holds. -/
theorem IdleCoordinator.Lives.dropped {round : IdleRound} {times : Nat} {c : IdleCoordinator}
    {installed w : Workspace (Recorded η)} {exchanges : List Exchange}
    (quiet : ∀ subscription host, ∃ host',
      H.unsubscribeIdle idleHost subscription host = .ok () host')
    (lives : Lives H ⟨round, idleHost, some subscription⟩ installed times c w)
    (used : installed.Uses idleHost (exchanges ++ [subscribing idleHost round subscription])) :
    ∃ gone w', c.uninstall (H.recorded none) w = .ok gone w' ∧
      w'.Uses idleHost (exchanges ++ [subscribing idleHost round subscription] ++
        [unsubscribing idleHost subscription]) := by
  rcases lives.uses quiet used with ⟨-, ⟨own, held⟩, used⟩ | ⟨-, spent, used⟩
  · obtain ⟨w', gone, released⟩ := uninstall_uses quiet own held used
    exact ⟨_, w', gone, released⟩
  · exact ⟨_, w, uninstall_spent w spent, used⟩

end

/-- A session subscribes to its idle host when it starts.  Whatever happens then, the idle host
hears nothing more until the session ends, whether it is shut down or dropped and whether or not
a window panics.  Then it is told once to unsubscribe what it gave out, and nothing after that.
A coordinator without a session does the same: it unsubscribes when it is first told to
uninstall, and at the latest when it is dropped. -/
theorem subscription_released_once (H : Host η) {idleHost : IdleHostId}
    (before : Workspace (Recorded η))
    (quiet : ∀ subscription host, ∃ host',
      H.unsubscribeIdle idleHost subscription host = .ok () host') :
    (∀ options s started,
      Session.start (H.recorded none) options idleHost before = .ok s started →
      ∃ subscription, ∀ w, Reaches H (fun _ operation => ¬ operation.Ends idleHost) started w →
        exchangesWith idleHost w.host.log = exchangesWith idleHost before.host.log ++
          [subscribing idleHost s.idle.round subscription] ∧
        ∀ ending : SessionOperation, ending.isEnding = true → ∀ w',
          Reaches H (fun _ operation => ¬ operation.Ends idleHost)
            ((ending.perform (H.recorded none) s).after w) w' →
          exchangesWith idleHost w'.host.log = exchangesWith idleHost before.host.log ++
            [subscribing idleHost s.idle.round subscription] ++
            [unsubscribing idleHost subscription]) ∧
    ∀ round c installed,
      IdleCoordinator.install (H.recorded none) round idleHost before = .ok c installed →
      ∃ subscription, ∀ times c' w, c.Lives H installed times c' w →
        exchangesWith idleHost w.host.log = exchangesWith idleHost before.host.log ++
          [subscribing idleHost round subscription] ++
          (if times = 0 then [] else [unsubscribing idleHost subscription]) ∧
        ∃ gone w', c'.uninstall (H.recorded none) w = .ok gone w' ∧
          exchangesWith idleHost w'.host.log = exchangesWith idleHost before.host.log ++
            [subscribing idleHost round subscription] ++
            [unsubscribing idleHost subscription] := by
  have used₀ : before.Uses idleHost (exchangesWith idleHost before.host.log) := rfl
  refine ⟨fun options s started begun => ?_, fun round c installed begun => ?_⟩
  · obtain ⟨subscription, own, held, used⟩ := Session.start_uses begun used₀
    refine ⟨subscription, fun w reached => ⟨reached.uses used, ?_⟩⟩
    intro ending ends w' reached'
    exact reached'.uses (Session.ending_uses quiet own held (reached.uses used) ends)
  · obtain ⟨subscription, rfl, used⟩ := IdleCoordinator.install_uses begun used₀
    refine ⟨subscription, fun times c' w lives => ⟨?_, lives.dropped quiet used⟩⟩
    rcases lives.uses quiet used with ⟨rfl, -, used⟩ | ⟨told, -, used⟩
    · rw [if_pos rfl, List.append_nil]
      exact used
    · rw [if_neg told]
      exact used

/-! ## A window that panics at the end -/

namespace Brittle

/-- Nothing has happened yet. -/
def empty : Workspace (Recorded Slotted) := { host := ⟨{}, []⟩ }

/-- A session has started. -/
def started : Workspace (Recorded Slotted) :=
  (Session.start (Host.brittle.recorded none) {} ⟨0⟩).after empty

/-- The session has a window with a bar, whose client will panic. -/
def adorned : Workspace (Recorded Slotted) :=
  let opened :=
    ((Operation.openWindow (Slotted.parts 1 0 0) ⟨0⟩).perform Host.brittle).after started
  ((Operation.window (Slotted.handle 1 0) .adorn).perform Host.brittle).after opened

/-- A coordinator without a session, just installed. -/
def coordinator : IdleCoordinator := ⟨⟨⟨0⟩, none⟩, ⟨0⟩, some ⟨0⟩⟩

def installed : Workspace (Recorded Slotted) :=
  (IdleCoordinator.install (Host.brittle.recorded none) coordinator.round ⟨0⟩).after empty

end Brittle

open Brittle in
/-- Both endings of a session panic with its window, and give the subscription up once all the
same.  So does a coordinator that is told twice to uninstall and then dropped. -/
theorem subscription_released_once_behind_panic :
    let H := Host.brittle
    let s := Slotted.session
    let once (host : Recorded Slotted) : Prop := ∃ round subscription, exchangesWith ⟨0⟩ host.log =
      [subscribing ⟨0⟩ round subscription, unsubscribing ⟨0⟩ subscription]
    (∃ w', s.shutdown (H.recorded none) adorned = .error (.text "boom") w' ∧ once w'.host) ∧
    (∃ w', s.drop (H.recorded none) adorned = .error (.text "boom") w' ∧ once w'.host) ∧
    ∃ c w₁ c' w₂ c'' w₃,
      coordinator.uninstall (H.recorded none) installed = .ok c w₁ ∧
      c.uninstall (H.recorded none) w₁ = .ok c' w₂ ∧
      c'.uninstall (H.recorded none) w₂ = .ok c'' w₃ ∧ once w₃.host := by
  intro H s once
  have quiet : ∀ subscription host, ∃ host',
      H.unsubscribeIdle ⟨0⟩ subscription host = .ok () host' := fun _ host => ⟨host, rfl⟩
  obtain ⟨sessions, coordinators⟩ := subscription_released_once H empty quiet
  obtain ⟨subscription, lasts⟩ := sessions {} s started rfl
  have reached : Reaches H (fun _ operation => ¬ operation.Ends ⟨0⟩) started started := .start
  have reached := reached.step (.openWindow (Slotted.parts 1 0 0) ⟨0⟩) not_false
  have reached := reached.step (.window (Slotted.handle 1 0) .adorn) not_false
  obtain ⟨-, ends⟩ := lasts adorned reached
  have shut : s.shutdown (H.recorded none) adorned = _ :=
    eq_error_of_panic? (p := .text "boom") (by decide +kernel)
  have dropped : s.drop (H.recorded none) adorned = _ :=
    eq_error_of_panic? (p := .text "boom") (by decide +kernel)
  have performed : (SessionOperation.shutdown.perform (H.recorded none) s).after adorned =
      (s.shutdown (H.recorded none)).after adorned := after_of_error (bind_of_error shut _)
  obtain ⟨subscription', lives⟩ := coordinators _ coordinator installed rfl
  obtain ⟨-, c, w₁, told, -⟩ := lives 0 coordinator installed .start
  obtain ⟨-, c', w₂, told', -⟩ := lives 1 c w₁ (.uninstall .start told)
  obtain ⟨-, c'', w₃, told'', used⟩ := lives 2 c' w₂ (.uninstall (.uninstall .start told) told')
  exact ⟨⟨_, shut, _, subscription, performed ▸ ends .shutdown rfl _ .start⟩,
    ⟨_, dropped, _, subscription, ends .drop rfl _ .start⟩,
    c, w₁, c', w₂, c'', w₃, told, told', told'', _, subscription', used⟩

end OutlineBar
