/-
A host that follows a script.

The objects of a stage belong to owners.  An owner has a log, in which the calls to
its objects are noted, and knobs.  A knob that is set makes certain calls fail, panic
or do more than usual, either every time or only a few times.  Apart from its knobs
the stage is faithful: a slot takes a bar when it is empty, shows it, and is empty
again when it is removed.
-/
import OutlineBar.Host.Call
import OutlineBar.Scripted.Note

namespace OutlineBar

/-! ## Objects -/

/-- What a knob is set to. -/
inductive KnobSetting where
  | number (n : Int)
  | text (s : String)
  | numbers (ns : List Nat)
  | other
  deriving DecidableEq, Repr, Inhabited

structure Knob where
  setting : KnobSetting
  /-- How often it can still be used, if there is a bound. -/
  uses : Option Nat := none
  deriving DecidableEq, Repr, Inhabited

/-- Who a group of objects belongs to. -/
structure Owner where
  knobs : List (String × Knob) := []
  log : List Note := []

instance : Inhabited Owner := ⟨{}⟩

/-- A window shell with its bar slot. -/
structure Shell where
  owner : OwnerId := ⟨0⟩
  primary : ViewId := ⟨1⟩
  secondary : Option ViewId := none
  slot : BarSlotId := ⟨1⟩
  bar : Option ClientId := none
  deriving Inhabited

/-- A factory of bar clients. -/
structure ClientFactory where
  owner : OwnerId := ⟨0⟩
  made : Nat := 0
  deriving Inhabited

structure FilterSet where
  owner : OwnerId := ⟨0⟩
  /-- Plain filters have an idle hook that does nothing. -/
  plain : Bool := false
  /-- The roster from which the idle hook can remove windows. -/
  roster : RosterId := ⟨0⟩
  deriving Inhabited

/-- An idle source: how often it still allows to go on, and how often it was asked. -/
structure IdleBudget where
  left : Option Nat := none
  checks : Nat := 0
  deriving Inhabited

/-- All objects of the host. -/
structure Stage where
  owners : Store .owner Owner := .empty
  texts : Store .buffer Snapshot := .empty
  shells : Store .shell Shell := .empty
  factories : Store .factory ClientFactory := .empty
  filters : Store .filters FilterSet := .empty
  /-- The owners of the outliners that the host keeps. -/
  outliners : Store .outliner OwnerId := .empty
  sources : Store .idleSource IdleBudget := .empty
  subscriptions : List (SubscriptionId × IdleRound) := []
  nextSubscription : Nat := 0
  /-- Notes of subscriptions, which belong to no owner. -/
  log : List Note := []

namespace Owner

/-- The knob of a name, if it can still be used, and the owner after that use. -/
def consult (name : String) (owner : Owner) : Option KnobSetting × Owner :=
  match owner.knobs.lookup name with
  | none => (none, owner)
  | some { setting, uses := none } => (some setting, owner)
  | some { uses := some 0, .. } => (none, owner)
  | some { setting, uses := some (left + 1) } =>
    (some setting, { owner with
      knobs := owner.knobs.map fun entry =>
        if entry.1 = name then (name, { setting, uses := some left }) else entry })

def setKnob (name : String) (knob : Option Knob) (owner : Owner) : Owner :=
  let others := owner.knobs.filter fun entry => entry.1 != name
  match knob with
  | some knob => { owner with knobs := others ++ [(name, knob)] }
  | none => { owner with knobs := others }

end Owner

/-- The answer of an idle source, and the source after it was asked. -/
def IdleBudget.ask (b : IdleBudget) : Bool × IdleBudget :=
  match b.left with
  | none => (true, { b with checks := b.checks + 1 })
  | some 0 => (false, { b with checks := b.checks + 1 })
  | some (left + 1) => (true, { left := some left, checks := b.checks + 1 })

namespace Stage

/-! ## Notes and knobs -/

def note (owner : OwnerId) (items : List Note) : Action Stage Unit :=
  modify fun s => { s with
    owners := s.owners.modify owner fun o => { o with log := o.log ++ [.list items] } }

def noteSubscription (what : String) (id : SubscriptionId) : Action Stage Unit :=
  modify fun s => { s with log := s.log ++ [.list [.word what, .number id.number]] }

/-- Uses a knob. -/
def consult (owner : OwnerId) (knob : String) : Action Stage (Option KnobSetting) := fun s =>
  let (setting, changed) := (s.owners.get owner).consult knob
  .ok setting { s with owners := s.owners.set owner changed }

def failureBy (owner : OwnerId) (knob : String) (operation : HostOperation) :
    Action Stage (Option HostFailure) := do
  match ← consult owner knob with
  | some (.number code) => return some ⟨operation, Int32.ofInt code⟩
  | _ => return none

/-- Panics if a knob asks for it. -/
def explodeBy (owner : OwnerId) (knob : String) : Action Stage Unit := do
  match ← consult owner knob with
  | some (.text "static") => Action.panic (.text "static explosion")
  | some (.text "any") => Action.panic .payload
  | some (.text message) => Action.panic (.text message)
  | _ => return ()

def clientOwner (s : Stage) : ClientId → OwnerId
  | .made factory _ => (s.factories.get factory).owner
  | .foreign tag => ⟨tag⟩

def clientNumber : ClientId → Int
  | .made _ serial => serial
  | .foreign _ => -1

/-! ## Calls -/

def primaryView (shell : ShellId) : Action Stage (Except HostFailure ViewId) := do
  let s := (← get).shells.get shell
  note s.owner [.word "primary_view"]
  match ← failureBy s.owner "primary" .primaryView with
  | some failure => return .error failure
  | none => return .ok s.primary

def secondaryView (shell : ShellId) : Action Stage (Except HostFailure ViewId) := do
  let s := (← get).shells.get shell
  note s.owner [.word "secondary_view"]
  match ← failureBy s.owner "secondary" .secondaryView, s.secondary with
  | some failure, _ => return .error failure
  | none, some view => return .ok view
  | none, none => return .error ⟨.secondaryView, HostFailure.notFoundCode⟩

def shellOf (bars : BarManagerId) : ShellId := ⟨bars.index⟩

def barSlot (bars : BarManagerId) : Action Stage (Except HostFailure (Option BarSlotId)) := do
  let s := (← get).shells.get (shellOf bars)
  note s.owner [.word "get_bar"]
  match ← failureBy s.owner "slot" .getBar with
  | some failure => return .error failure
  | none =>
    if s.bar.isSome then return .ok (some s.slot)
    else if (← consult s.owner "phantom").isSome then return .ok (some s.slot)
    else return .ok none

def setBar (shell : ShellId) (bar : Option ClientId) : Action Stage Unit :=
  modify fun s => { s with shells := s.shells.modify shell fun shell => { shell with bar } }

def removeBar (bars : BarManagerId) : Action Stage HostStatus := do
  let s := (← get).shells.get (shellOf bars)
  note s.owner [.word "remove_bar"]
  match ← failureBy s.owner "remove" .removeBar with
  | some failure => return .error failure
  | none =>
    setBar (shellOf bars) none
    return .ok ()

def addBar (bars : BarManagerId) (priority : Int) (client : ClientId) :
    Action Stage HostStatus := do
  let s := (← get).shells.get (shellOf bars)
  note s.owner [.word "add_bar", .number priority]
  match ← failureBy s.owner "add" .addBar with
  | some failure => return .error failure
  | none =>
    if s.bar.isSome then return .error (.general .addBar)
    else
      setBar (shellOf bars) (some client)
      return .ok ()

def createClient (factory : FactoryId) (window : WindowId) (outline : Outline) :
    Action Stage ClientId := do
  let f := (← get).factories.get factory
  note f.owner [.word "create", .number f.made, .number window.number, .ofOutline outline]
  explodeBy f.owner "create_panic"
  modify fun s => { s with
    factories := s.factories.modify factory fun f => { f with made := f.made + 1 } }
  return .made factory f.made

def updateClient (client : ClientId) (outline : Outline) : Action Stage Unit := do
  let owner := (← get).clientOwner client
  note owner [.word "update", .number (clientNumber client), .ofOutline outline]
  explodeBy owner "update_panic"

def unregisterClient (client : ClientId) : Action Stage Unit := do
  let owner := (← get).clientOwner client
  note owner [.word "unregister", .number (clientNumber client)]
  explodeBy owner "unregister_panic"

def filterKeyboard (filters : FiltersId) (view : ViewId) : Action Stage HostStatus := do
  let f := (← get).filters.get filters
  note f.owner [.word "keyboard", .number view.number]
  match ← failureBy f.owner "keyboard" .attachFilter with
  | some failure => return .error failure
  | none => return .ok ()

def filterView (filters : FiltersId) (view : ViewId) : Action Stage HostStatus := do
  let f := (← get).filters.get filters
  note f.owner [.word "view", .number view.number]
  match ← failureBy f.owner "view" .attachFilter with
  | some failure => return .error failure
  | none => return .ok ()

def parse (outliner : OutlinerId) (snapshot : Snapshot) : Action Stage Outline := do
  let owner := (← get).outliners.get outliner
  note owner [.word "parse", .number snapshot.version]
  explodeBy owner "parse_panic"
  return .ofWholeText snapshot

def requestParse (outliner : OutlinerId) (snapshot : Snapshot) : Action Stage Unit := do
  let owner := (← get).outliners.get outliner
  note owner [.word "request", .number snapshot.version, .word snapshot.text]

def subscribe (outliner : OutlinerId) : Action Stage Unit := do
  note ((← get).outliners.get outliner) [.word "subscribe"]

def mayContinue (source : IdleSourceId) : Action Stage Bool := fun s =>
  let (answer, changed) := (s.sources.get source).ask
  .ok answer { s with sources := s.sources.set source changed }

def subscribeIdle (round : IdleRound) : Action Stage SubscriptionId := do
  let id : SubscriptionId := ⟨(← get).nextSubscription⟩
  modify fun s => { s with
    subscriptions := s.subscriptions ++ [(id, round)]
    nextSubscription := s.nextSubscription + 1 }
  noteSubscription "subscribe" id
  return id

def unsubscribeIdle (id : SubscriptionId) : Action Stage Unit := do
  modify fun s => { s with subscriptions := s.subscriptions.filter fun entry => entry.1 != id }
  noteSubscription "unsubscribe" id

/-! ## The idle hook -/

def poll (source : IdleSourceId) : Nat → Action Stage (List Bool)
  | 0 => return []
  | n + 1 => do
    let answer ← mayContinue source
    return answer :: (← poll source n)

def removeAll (roster : RosterId) : List Nat → Action (Backstage Stage) Unit
  | [] => return ()
  | id :: rest => do
    let _ ← Backstage.remove roster ⟨id⟩
    removeAll roster rest

open Backstage in
def onIdle (filters : FiltersId) (source : IdleSourceId) : Action (Backstage Stage) HostStatus := do
  let f := (← get).host.filters.get filters
  if f.plain then return .ok ()
  onHost (note f.owner [.word "idle"])
  if let some (.number n) ← onHost (consult f.owner "idle_polls") then
    let answers ← onHost (poll source n.toNat)
    onHost (note f.owner [.word "polls", .list (answers.map .flag)])
  if let some (.numbers ids) ← onHost (consult f.owner "idle_unregister") then
    removeAll f.roster ids
  onHost (explodeBy f.owner "idle_panic")
  match ← onHost (failureBy f.owner "idle" .idle) with
  | some failure => return .error failure
  | none => return .ok ()

/-! ## The host -/

def answer : (call : HostCall) → Action Stage call.Answer
  | .primaryView shell => primaryView shell
  | .secondaryView shell => secondaryView shell
  | .barSlot bars => barSlot bars
  | .removeBar bars => removeBar bars
  | .addBar bars priority client => addBar bars priority client
  | .createClient factory window outline => createClient factory window outline
  | .updateClient client outline => updateClient client outline
  | .unregisterClient client => unregisterClient client
  | .filterKeyboard filters view => filterKeyboard filters view
  | .filterView filters view => filterView filters view
  | .snapshot buffer => do return (← get).texts.get buffer
  | .resolve _ _ => return .error (.missing "")
  | .parse outliner snapshot => parse outliner snapshot
  | .requestParse outliner snapshot => requestParse outliner snapshot
  | .subscribe outliner => subscribe outliner
  | .mayContinue source => mayContinue source
  | .subscribeIdle _ round => subscribeIdle round
  | .unsubscribeIdle _ id => unsubscribeIdle id

/-- The host that follows the script. -/
def host : Host Stage := { answer, onIdle }

end Stage

end OutlineBar
