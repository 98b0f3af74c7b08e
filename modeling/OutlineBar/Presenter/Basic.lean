/-
Presenters: the state of one window's outline bar.

A presenter knows the host objects of its window, the outliner it listens to, and
the bar client that is attached, if any.  A `Desk` is everything that the
operations of one presenter work on: the presenter, its outliner, the properties
of its buffer, the host and the log.
-/
import OutlineBar.Bag
import OutlineBar.Host.Call
import OutlineBar.Outliner.Basic

namespace OutlineBar

/-- The properties of a buffer: the outliner it brings, the client of the bar attached
to it, and properties that the library knows nothing about. -/
inductive BufferProperty where
  | installedOutliner
  | attachedBar
  | other (name : String)
  deriving DecidableEq, Repr

@[reducible] def BufferProperty.Value : BufferProperty → Type
  | installedOutliner => OutlinerId
  | attachedBar => ClientId
  | other _ => Nat

abbrev BufferBag := Bag BufferProperty BufferProperty.Value

/-- The state of one window's outline bar. -/
structure Presenter where
  window : WindowId
  buffer : BufferId
  shell : ShellId
  bars : BarManagerId
  factory : FactoryId
  filters : FiltersId
  outliner : OutlinerId
  listener : ListenerId
  /-- The attached client. -/
  client : Option ClientId := none
  /-- The version of the outline that the attached client shows. -/
  shown : Option Nat := none
  /-- The views of the window, in the order in which they became known. -/
  views : List ViewId := []
  /-- The priority with which bars are offered. -/
  priority : Int
  deriving DecidableEq, Repr, Inhabited

def Presenter.noteView (p : Presenter) (view : ViewId) : Presenter :=
  if view ∈ p.views then p else { p with views := p.views ++ [view] }

/-- Whether a client is attached. -/
def Presenter.isAttached (p : Presenter) : Bool := p.client.isSome

/-- What the operations of one presenter work on. -/
structure Desk (η : Type) where
  presenter : Presenter
  outliner : Outliner
  bag : BufferBag
  host : η
  trace : List Event := []

namespace Desk

variable {η : Type}

def emit (event : Event) : Action (Desk η) Unit :=
  modify fun d => { d with trace := d.trace ++ [event] }

def onHost {α : Type} (act : Action η α) : Action (Desk η) α :=
  Action.zoom (·.host) (fun host d => { d with host }) act

def updatePresenter (change : Presenter → Presenter) : Action (Desk η) Unit :=
  modify fun d => { d with presenter := change d.presenter }

end Desk

end OutlineBar
