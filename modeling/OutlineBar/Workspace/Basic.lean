/-
The workspace: everything the library keeps, in one state.

Buffers, outliners, presenters, scopes and rosters are stored by reference, so
that several windows can share a buffer or an outliner.  An operation on one
presenter runs on its `Desk`, which is cut out of the workspace and put back
afterwards; `onDesk` does that, also when the operation panics.
-/
import OutlineBar.Options.Basic
import OutlineBar.Presenter.Basic

namespace OutlineBar

/-- A text buffer.  Its text belongs to the host. -/
structure Buffer where
  contentType : String := ""
  bag : BufferBag := .empty

instance : Inhabited Buffer := ⟨{}⟩

/-- What the windows opened together share: options, the roster in which they are
registered, and whether they get bars. -/
structure Scope where
  options : Options := {}
  roster : RosterId := ⟨0⟩
  enabled : Bool := true
  deriving DecidableEq, Repr, Inhabited

/-- A new scope; whether windows get bars starts as the options say. -/
def Scope.ofOptions (options : Options) (roster : RosterId) : Scope :=
  { options, roster, enabled := options.bar.enabled }

/-- Everything that the library keeps, and the host. -/
structure Workspace (η : Type) extends Backstage η where
  buffers : Store .buffer Buffer := .empty
  outliners : Store .outliner Outliner := .empty
  presenters : Store .presenter Presenter := .empty
  scopes : Store .scope Scope := .empty
  /-- The services whose loops have something to do, in the order in which they got it. -/
  due : List OutlinerId := []

namespace Workspace

variable {η : Type}

/-! ## Parts of the workspace -/

def presenterOf (w : Workspace η) (h : Handle) : Presenter := w.presenters.get h.presenter

def rosterOf (w : Workspace η) (scope : ScopeId) : Roster :=
  w.rosters.get (w.scopes.get scope).roster

def outlinerOf (w : Workspace η) (p : Presenter) : Outliner := w.outliners.get p.outliner

def scopeDescription (w : Workspace η) (scope : ScopeId) : String :=
  recordLabel "NavigationContext" [("windows", toString (w.rosterOf scope).size),
    ("enabled", boolLabel (w.scopes.get scope).enabled)]

def desk (w : Workspace η) (id : PresenterId) : Desk η :=
  let p := w.presenters.get id
  { presenter := p
    outliner := w.outlinerOf p
    bag := (w.buffers.get p.buffer).bag
    host := w.host
    trace := w.trace }

/-- The workspace after an operation of a presenter that left `d`. -/
def putDesk (id : PresenterId) (d : Desk η) (w : Workspace η) : Workspace η :=
  let p := w.presenters.get id
  { w with
    presenters := w.presenters.set id d.presenter
    outliners := w.outliners.set p.outliner d.outliner
    buffers := w.buffers.modify p.buffer fun b => { b with bag := d.bag }
    host := d.host
    trace := d.trace }

/-! ## Actions on parts of the workspace -/

def onDesk {α : Type} (id : PresenterId) (act : Action (Desk η) α) : Action (Workspace η) α :=
  Action.zoom (·.desk id) (putDesk id) act

/-- Runs an operation on the host, the rosters and the log. -/
def onBackstage {α : Type} (act : Action (Backstage η) α) : Action (Workspace η) α :=
  Action.zoom (·.toBackstage) (fun b w => { w with toBackstage := b }) act

def onHost {α : Type} (act : Action η α) : Action (Workspace η) α :=
  Action.zoom (·.host) (fun host w => { w with host }) act

def emit (event : Event) : Action (Workspace η) Unit :=
  modify fun w => { w with trace := w.trace ++ [event] }

def addScope (scope : Scope) : Action (Workspace η) ScopeId := fun w =>
  let (id, scopes) := w.scopes.add scope
  .ok id { w with scopes }

def addRoster : Action (Workspace η) RosterId := fun w =>
  let (id, rosters) := w.rosters.add {}
  .ok id { w with rosters }

/-- The workspace after an outliner got something to do.  A service that is due already
keeps its place, and what the host keeps is never due. -/
def wake (id : OutlinerId) (w : Workspace η) : Workspace η :=
  match w.outliners.get id with
  | .hosted _ => w
  | .background _ => { w with due := if w.due.contains id then w.due else w.due ++ [id] }

/-- Adds an outliner.  The loop of a new service is due at once. -/
def addOutliner (outliner : Outliner) : Action (Workspace η) OutlinerId := fun w =>
  let (id, outliners) := w.outliners.add outliner
  .ok id (wake id { w with outliners })

end Workspace

end OutlineBar
