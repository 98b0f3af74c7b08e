/-
Identities.

Windows, views, bar slots and idle subscriptions carry numbers that the host
chooses; a window's number is also the key under which it is registered.  The
objects behind them (buffers, bar managers, outliners, …) are named by a `Ref`,
which records what kind of object it names, so that a reference to one kind
cannot be passed for another.  `WindowIdSupply` hands out window identities that
differ from all it gave before.
-/
namespace OutlineBar

structure WindowId where
  number : Nat
  deriving DecidableEq, Repr, Inhabited

/-- A text view inside a window. -/
structure ViewId where
  number : Nat
  deriving DecidableEq, Repr, Inhabited

/-- The host's name for a bar slot. -/
structure BarSlotId where
  number : Nat
  deriving DecidableEq, Repr, Inhabited

/-- The host's name for a subscription to its idle ticks. -/
structure SubscriptionId where
  number : Nat
  deriving DecidableEq, Repr, Inhabited

def WindowId.label (window : WindowId) : String := "window#" ++ toString window.number

/-! ## Fresh window identities -/

/-- The next window number to give out.  Numbers start at one. -/
structure WindowIdSupply where
  next : Nat := 1
  deriving Repr, Inhabited

namespace WindowIdSupply

/-- A fresh identity, and the supply after it. -/
def take (supply : WindowIdSupply) : WindowId × WindowIdSupply :=
  (⟨supply.next⟩, ⟨supply.next + 1⟩)

/-- `count` fresh identities in the order they are given out. -/
def takeMany (supply : WindowIdSupply) : Nat → List WindowId
  | 0 => []
  | count + 1 => supply.take.1 :: supply.take.2.takeMany count

end WindowIdSupply

/-! ## Sorted lists of windows -/

def insertAscending (n : Nat) : List Nat → List Nat
  | [] => [n]
  | m :: rest =>
    if n < m then n :: m :: rest
    else if n = m then m :: rest
    else m :: insertAscending n rest

/-- The numbers of a list in ascending order, each once. -/
def ascending (numbers : List Nat) : List Nat := numbers.foldr insertAscending []

/-! ## References to objects -/

inductive Kind where
  | buffer | shell | barManager | factory | filters | outliner | resolver
  | presenter | scope | roster | idleHost | idleSource | owner
  deriving DecidableEq, Repr

/-- A reference to an object of one kind. -/
structure Ref (kind : Kind) where
  index : Nat
  deriving DecidableEq, Repr, Inhabited

abbrev BufferId := Ref .buffer
abbrev ShellId := Ref .shell
abbrev BarManagerId := Ref .barManager
abbrev FactoryId := Ref .factory
abbrev FiltersId := Ref .filters
abbrev OutlinerId := Ref .outliner
abbrev ResolverId := Ref .resolver
abbrev PresenterId := Ref .presenter
abbrev ScopeId := Ref .scope
abbrev RosterId := Ref .roster
abbrev IdleHostId := Ref .idleHost
abbrev IdleSourceId := Ref .idleSource
abbrev OwnerId := Ref .owner

/-- A bar client: the `serial`-th client of a factory, or a client that came from
elsewhere and carries only a tag. -/
inductive ClientId where
  | made (factory : FactoryId) (serial : Nat)
  | foreign (tag : Nat)
  deriving DecidableEq, Repr, Inhabited

end OutlineBar
