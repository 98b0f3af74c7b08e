/-
Letting the services of a workspace come to rest.

The loops that are due take their turns in the order in which they became due.  In its
first turn a loop ends, skips a request or starts a parse; parses finish when every loop
has had that turn, in the order in which they were started.  What loops do there
concerns no window, so presenters see it only in their queues.
-/
import OutlineBar.Workspace.Basic

namespace OutlineBar.Workspace

variable {η : Type}

/-- The workspace after each of the outliners had a turn. -/
def settleEach (held : Bool) : List OutlinerId → Workspace η → Workspace η
  | [], w => w
  | id :: rest, w =>
    let (outliner, events) := (w.outliners.get id).settle held
    settleEach held rest
      { w with outliners := w.outliners.set id outliner, trace := w.trace ++ events }

/-- Lets every service come to rest, so that none is due. -/
def settle : Action (Workspace η) Unit :=
  modify fun w => { settleEach false w.due (settleEach true w.due w) with due := [] }

end OutlineBar.Workspace
