/-
Walks over the registered windows.

A walk visits the handles that a roster lists when the walk begins, whatever the
visits do to the roster.  Each visit gets what the visits before it made and says
whether the walk goes on.  A walk answers how many handles were visited, the one
that ended it included.
-/
import OutlineBar.Workspace.Basic

namespace OutlineBar

namespace Handle

/-- Visits handles in order until a visit is `done`. -/
def visitEach {σ β : Type} (visit : β → Handle → Action σ (ForInStep β)) :
    β → List Handle → Action σ (Nat × β)
  | made, [] => return (0, made)
  | made, h :: rest => do
    match ← visit made h with
    | .done made => return (1, made)
    | .yield made =>
      let (visited, made) ← visitEach visit made rest
      return (visited + 1, made)

end Handle

namespace Workspace

variable {η : Type}

def walk {β : Type} (roster : RosterId) (start : β)
    (visit : β → Handle → Action (Workspace η) (ForInStep β)) :
    Action (Workspace η) (Nat × β) := do
  Handle.visitEach visit start ((← get).rosters.get roster).handles

end Workspace

end OutlineBar
