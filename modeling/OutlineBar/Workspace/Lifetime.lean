/-
What lives how long.

A presenter lives while somebody holds a handle on it or a roster lists it, a buffer
while somebody holds it or a presenter works on it, and a roster while somebody holds
it, a handle belongs to a scope with it, or the filters of a presenter work on it.  A
roster that goes lists nothing any more.  A presenter that goes stops listening; a
service that no presenter uses and no buffer brings is told to end.  `release` says so
for everything that nobody needs, and saying it again changes nothing, so it may be
asked for at any time.

What holds itself stays: a roster that lists a handle of its own scope keeps everything
it lists.
-/
import OutlineBar.Workspace.Basic

namespace OutlineBar.Workspace

variable {η : Type}

/-- What is held from outside a workspace. -/
structure Holdings where
  handles : List Handle
  buffers : List BufferId
  rosters : List RosterId
  /-- The rosters on which filters of the host work. -/
  filtered : FiltersId → List RosterId

/-! ## Rosters -/

def registered (w : Workspace η) : List Handle :=
  w.rosters.refs.flatMap fun roster => (w.rosters.get roster).handles

def rostersOf (w : Workspace η) (filtered : FiltersId → List RosterId) (h : Handle) :
    List RosterId :=
  (w.scopes.get h.scope).roster :: filtered (w.presenterOf h).filters

def liveRosters (w : Workspace η) (held : Holdings) : List RosterId :=
  held.rosters ++ (held.handles ++ w.registered).flatMap (w.rostersOf held.filtered)

/-- Empties the rosters that nothing keeps alive.  What they listed may have kept other
rosters alive, so this is done several times. -/
def dropRosters (held : Holdings) : (times : Nat) → Workspace η → Workspace η
  | 0, w => w
  | times + 1, w =>
    let live := w.liveRosters held
    let gone := w.rosters.refs.filter fun id => !live.contains id
    dropRosters held times
      { w with rosters := gone.foldl (fun rosters id => rosters.set id {}) w.rosters }

/-! ## Presenters and outliners -/

/-- The presenters that live while the handles in `held` do. -/
def livePresenters (w : Workspace η) (held : List Handle) : List PresenterId :=
  (held ++ w.registered).map Handle.presenter

/-- The outliners that presenters use or buffers bring. -/
def liveOutliners (w : Workspace η) (presenters : List PresenterId) (buffers : List BufferId) :
    List OutlinerId :=
  let used := presenters.map w.presenters.get
  let brought := (buffers ++ used.map Presenter.buffer).filterMap fun buffer =>
    (w.buffers.get buffer).bag.get? .installedOutliner
  used.map Presenter.outliner ++ brought

/-- The outliners after every presenter that is not in `live` stopped listening. -/
def withoutListeners (w : Workspace η) (live : List PresenterId) : Store .outliner Outliner :=
  (w.presenters.refs.filter fun id => !live.contains id).foldl
    (fun outliners id =>
      let p := w.presenters.get id
      outliners.modify p.outliner (Outliner.dropListener p.listener))
    w.outliners

/-- Drops an outliner; the loop of a service is due then, to end. -/
def dropOutliner (w : Workspace η) (id : OutlinerId) : Workspace η :=
  wake id { w with outliners := w.outliners.modify id Outliner.drop }

/-- Lets everything go that nothing in `held` keeps alive. -/
def release (held : Holdings) (w : Workspace η) : Workspace η :=
  let w := w.dropRosters held w.rosters.refs.length
  let presenters := w.livePresenters held.handles
  let live := w.liveOutliners presenters held.buffers
  let w := { w with outliners := w.withoutListeners presenters }
  let gone := w.outliners.refs.filter fun id =>
    !live.contains id && (w.outliners.get id).isRunning
  gone.foldl dropOutliner w

end OutlineBar.Workspace
