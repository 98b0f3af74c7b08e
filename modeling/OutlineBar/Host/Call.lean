/-
The host: everything the library calls but does not own.

Text views, bar managers, bar clients, filters, outliners that the host installed
and its idle ticks are reached through calls.  A host with states `η` answers each
call, may change its state and may panic; nothing else is assumed.  One call is
different: the idle hook of a window may also change the rosters, so it acts on a
`Backstage`, which holds both.
-/
import OutlineBar.Event
import OutlineBar.Outline.Grammar
import OutlineBar.Outliner.Resolver
import OutlineBar.Roster
import OutlineBar.Store

namespace OutlineBar

/-- What an idle tick does: visit the windows of a roster, at most as many as the cap
says. -/
structure IdleRound where
  roster : RosterId
  cap : Option Nat
  deriving DecidableEq, Repr, Inhabited

inductive HostCall where
  | primaryView (shell : ShellId)
  | secondaryView (shell : ShellId)
  | barSlot (bars : BarManagerId)
  | removeBar (bars : BarManagerId)
  | addBar (bars : BarManagerId) (priority : Int) (client : ClientId)
  | createClient (factory : FactoryId) (window : WindowId) (outline : Outline)
  | updateClient (client : ClientId) (outline : Outline)
  | unregisterClient (client : ClientId)
  | filterKeyboard (filters : FiltersId) (view : ViewId)
  | filterView (filters : FiltersId) (view : ViewId)
  | snapshot (buffer : BufferId)
  | resolve (resolver : ResolverId) (buffer : BufferId)
  | parse (outliner : OutlinerId) (snapshot : Snapshot)
  | requestParse (outliner : OutlinerId) (snapshot : Snapshot)
  | subscribe (outliner : OutlinerId)
  | mayContinue (source : IdleSourceId)
  | subscribeIdle (idleHost : IdleHostId) (round : IdleRound)
  | unsubscribeIdle (idleHost : IdleHostId) (subscription : SubscriptionId)

/-- What a call answers. -/
@[reducible] def HostCall.Answer : HostCall → Type
  | primaryView _ => Except HostFailure ViewId
  | secondaryView _ => Except HostFailure ViewId
  | barSlot _ => Except HostFailure (Option BarSlotId)
  | removeBar _ => HostStatus
  | addBar .. => HostStatus
  | createClient .. => ClientId
  | updateClient .. => Unit
  | unregisterClient _ => Unit
  | filterKeyboard .. => HostStatus
  | filterView .. => HostStatus
  | snapshot _ => Snapshot
  | resolve .. => Except ResolveError OutlinerId
  | parse .. => Outline
  | requestParse .. => Unit
  | subscribe _ => Unit
  | mayContinue _ => Bool
  | subscribeIdle .. => SubscriptionId
  | unsubscribeIdle .. => Unit

/-- What an idle hook can reach: the host, the rosters, and the log. -/
structure Backstage (η : Type) where
  host : η
  rosters : Store .roster Roster := .empty
  /-- Events in the order in which they happened. -/
  trace : List Event := []

/-- A host with states `η`. -/
structure Host (η : Type) where
  /-- Answers a call. -/
  answer : (call : HostCall) → Action η call.Answer
  /-- The idle hook of a window's filters, run with an idle source that it may ask. -/
  onIdle : FiltersId → IdleSourceId → Action (Backstage η) HostStatus

namespace Host

variable {η : Type} (H : Host η)

def primaryView (shell : ShellId) : Action η (Except HostFailure ViewId) :=
  H.answer (.primaryView shell)

def secondaryView (shell : ShellId) : Action η (Except HostFailure ViewId) :=
  H.answer (.secondaryView shell)

def barSlot (bars : BarManagerId) : Action η (Except HostFailure (Option BarSlotId)) :=
  H.answer (.barSlot bars)

def removeBar (bars : BarManagerId) : Action η HostStatus := H.answer (.removeBar bars)

def addBar (bars : BarManagerId) (priority : Int) (client : ClientId) : Action η HostStatus :=
  H.answer (.addBar bars priority client)

def createClient (factory : FactoryId) (window : WindowId) (outline : Outline) :
    Action η ClientId :=
  H.answer (.createClient factory window outline)

def updateClient (client : ClientId) (outline : Outline) : Action η Unit :=
  H.answer (.updateClient client outline)

def unregisterClient (client : ClientId) : Action η Unit := H.answer (.unregisterClient client)

def filterKeyboard (filters : FiltersId) (view : ViewId) : Action η HostStatus :=
  H.answer (.filterKeyboard filters view)

def filterView (filters : FiltersId) (view : ViewId) : Action η HostStatus :=
  H.answer (.filterView filters view)

def snapshot (buffer : BufferId) : Action η Snapshot := H.answer (.snapshot buffer)

def resolve (resolver : ResolverId) (buffer : BufferId) :
    Action η (Except ResolveError OutlinerId) :=
  H.answer (.resolve resolver buffer)

def parse (outliner : OutlinerId) (snapshot : Snapshot) : Action η Outline :=
  H.answer (.parse outliner snapshot)

def requestParse (outliner : OutlinerId) (snapshot : Snapshot) : Action η Unit :=
  H.answer (.requestParse outliner snapshot)

def subscribe (outliner : OutlinerId) : Action η Unit := H.answer (.subscribe outliner)

def mayContinue (source : IdleSourceId) : Action η Bool := H.answer (.mayContinue source)

def subscribeIdle (idleHost : IdleHostId) (round : IdleRound) : Action η SubscriptionId :=
  H.answer (.subscribeIdle idleHost round)

def unsubscribeIdle (idleHost : IdleHostId) (subscription : SubscriptionId) : Action η Unit :=
  H.answer (.unsubscribeIdle idleHost subscription)

end Host

namespace Backstage

variable {η : Type}

def emit (event : Event) : Action (Backstage η) Unit :=
  modify fun b => { b with trace := b.trace ++ [event] }

def onHost {α : Type} (act : Action η α) : Action (Backstage η) α :=
  Action.zoom (·.host) (fun host b => { b with host }) act

/-- Registers a handle under an identity; answers the handle it replaces. -/
def put (roster : RosterId) (id : WindowId) (h : Handle) :
    Action (Backstage η) (Option Handle) := do
  let (previous, r) := Roster.put id h ((← get).rosters.get roster)
  modify fun b => { b with rosters := b.rosters.set roster r }
  emit (.registered id previous.isSome)
  return previous

/-- Removes the entry of an identity; answers the handle that was there. -/
def remove (roster : RosterId) (id : WindowId) : Action (Backstage η) (Option Handle) := do
  let (previous, r) := Roster.remove id ((← get).rosters.get roster)
  modify fun b => { b with rosters := b.rosters.set roster r }
  emit (.unregistered id previous.isSome)
  return previous

def drain (roster : RosterId) : Action (Backstage η) (List Handle) := do
  let (handles, r) := Roster.drain ((← get).rosters.get roster)
  modify fun b => { b with rosters := b.rosters.set roster r }
  return handles

end Backstage

end OutlineBar
