/-
Assembling an outline from a flat list of instructions.

The instructions work on a stack of entries: one puts a new entry on top, the
other moves the top entry into the children of the one below it.  The entry on
top at the end is the root.
-/
import OutlineBar.Outline.Basic

namespace OutlineBar

/-- One instruction of an outline assembly. -/
inductive AssemblyStep where
  | push (entry : Entry)
  | adopt
  deriving Repr

namespace AssemblyStep

/-- The stack after one instruction.  There is nothing to adopt into when fewer
than two entries are on the stack. -/
def apply (stack : List Entry) : AssemblyStep → List Entry
  | push entry => entry :: stack
  | adopt =>
    match stack with
    | child :: parent :: rest => parent.withChild child :: rest
    | _ => stack

/-- The root entry that a list of instructions leaves on top. -/
def assemble (steps : List AssemblyStep) : Option Entry := (steps.foldl apply []).head?

end AssemblyStep

end OutlineBar
