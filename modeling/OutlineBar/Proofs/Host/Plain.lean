/-
A host with one buffer and nothing else to say.

Its state is the text of the buffer.  It takes every client and shows no bar of its own,
and every client it makes is the same one.  What a client does that is sent an outline is
left open.
-/
import OutlineBar.Host.Call

namespace OutlineBar

def Host.plain (update : Action Snapshot Unit) : Host Snapshot where
  answer
    | .primaryView _ | .secondaryView _ => pure (.ok ⟨0⟩)
    | .barSlot _ => pure (.ok none)
    | .removeBar _ | .addBar .. | .filterKeyboard .. | .filterView .. => pure (.ok ())
    | .createClient .. => pure (.foreign 0)
    | .updateClient .. => update
    | .unregisterClient _ | .requestParse .. | .subscribe _ | .unsubscribeIdle .. => pure ()
    | .snapshot _ => get
    | .resolve .. => pure (.ok ⟨0⟩)
    | .parse _ snapshot => pure (.empty snapshot.version snapshot.byteLength)
    | .mayContinue _ => pure true
    | .subscribeIdle .. => pure ⟨0⟩
  onIdle _ _ := pure (.ok ())

end OutlineBar
