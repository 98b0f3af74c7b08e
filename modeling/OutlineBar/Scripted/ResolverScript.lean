/-
A script that resolves the outliner of one buffer twice.

Outliners with names are put on the buffer one after the other, each in the place of
the one before.  Then a resolver is asked twice, and each time the outliner that it
finds parses the same snapshot.
-/
import OutlineBar.Bag
import OutlineBar.Outliner.Resolver

namespace OutlineBar

/-- What one resolution found: the name of the outliner that was put on the buffer, or
none for a new service, and the outline it makes. -/
structure ResolvedOutline where
  name : Option String
  outline : Except Panic Outline

structure ResolverResult where
  resolutions : List (Except ResolveError ResolvedOutline)
  /-- How many properties the buffer has. -/
  properties : Nat
  /-- Whether the buffer brings an outliner. -/
  hasInstalled : Bool

namespace ResolverScript

/-- The properties of the buffer: at most the name of the outliner it brings. -/
abbrev NamedOutliner := Bag Unit fun _ => String

def install (names : List String) : NamedOutliner :=
  names.foldl (fun bag name => (bag.insert () name).2) .empty

def resolveOnce (resolver : Resolver) (contentType : String) (bag : NamedOutliner)
    (snapshot : Snapshot) : Except ResolveError ResolvedOutline :=
  (resolver.resolve contentType (bag.get? ())).map fun
    | .installed name => ⟨some name, .ok (.ofWholeText snapshot)⟩
    | .create grammar => ⟨none, grammar.outline snapshot⟩

def run (resolver : Resolver) (contentType : String) (names : List String)
    (snapshot : Snapshot) : ResolverResult :=
  let bag := install names
  let resolution := resolveOnce resolver contentType bag snapshot
  { resolutions := [resolution, resolution]
    properties := bag.size
    hasInstalled := bag.contains () }

end ResolverScript

end OutlineBar
