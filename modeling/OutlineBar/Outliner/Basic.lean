/-
Outliners: what makes the outlines of a buffer.

An outliner either belongs to the host, which is then called for every parse, or is
a background service of this library.  Either way it broadcasts completions to
listeners.
-/
import OutlineBar.Outliner.Service

namespace OutlineBar

inductive Outliner where
  | hosted (broadcast : Broadcast)
  | background (service : Service)

namespace Outliner

instance : Inhabited Outliner := ⟨hosted {}⟩

def broadcast : Outliner → Broadcast
  | hosted broadcast => broadcast
  | background service => service.broadcast

def withBroadcast (outliner : Outliner) (broadcast : Broadcast) : Outliner :=
  match outliner with
  | hosted _ => hosted broadcast
  | background service => background { service with broadcast }

def subscribe (outliner : Outliner) : ListenerId × Outliner :=
  let (id, broadcast) := outliner.broadcast.subscribe
  (id, outliner.withBroadcast broadcast)

def dropListener (id : ListenerId) (outliner : Outliner) : Outliner :=
  outliner.withBroadcast (outliner.broadcast.drop id)

/-- Takes the oldest completion that a listener has not taken yet. -/
def take? (id : ListenerId) (outliner : Outliner) : Option (Completion × Outliner) :=
  (outliner.broadcast.take? id).map fun (completion, broadcast) =>
    (completion, outliner.withBroadcast broadcast)

/-- Whether an outliner is a service that was not dropped. -/
def isRunning : Outliner → Bool
  | hosted _ => false
  | background service => !service.dropped

/-- Drops a service; what the host owns stays. -/
def drop : Outliner → Outliner
  | hosted broadcast => hosted broadcast
  | background service => background service.drop

/-- Lets a service come to rest, or, while parses are held back, wait for a parse. -/
def settle (held : Bool) : Outliner → Outliner × List Event
  | hosted broadcast => (hosted broadcast, [])
  | background service =>
    let (service, events) := service.settle held
    (background service, events)

end Outliner

end OutlineBar
