/-
A session that has opened windows.

Nothing is assumed of the windows, which may share buffers and identities.  The examples of
what a session does to its windows start from here.
-/
import OutlineBar.Proofs.Host.Slotted

namespace OutlineBar.Slotted

/-- The first session that a workspace has. -/
def session : Session := ⟨⟨0⟩, ⟨⟨⟨0⟩, none⟩, ⟨0⟩, some ⟨0⟩⟩⟩

/-- The parts of a window, whose host objects are all named by `n` but for its buffer. -/
def parts (window buffer n : Nat) : WindowParts :=
  ⟨⟨window⟩, ⟨n⟩, ⟨buffer⟩, ⟨n⟩, ⟨n⟩, ⟨n⟩, ⟨n⟩, .host ⟨0⟩⟩

/-- A workspace with a session that has opened some windows. -/
def opened {η : Type} (H : Host η) (host : η) (windows : List WindowParts) : Workspace η :=
  windows.foldl (fun w parts => (session.openWindow H parts).after w)
    ((Session.start H {} ⟨0⟩).after { host })

/-- The handle that was given out for the `n`-th window. -/
def handle (window n : Nat) : Handle := ⟨⟨window⟩, ⟨0⟩, ⟨n⟩⟩

end OutlineBar.Slotted
