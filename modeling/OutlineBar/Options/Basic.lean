/-
Options of the outline bars.

The bar section says whether windows get a bar, in which slot priority, and which
content type brings its own outliner.  The idle section bounds the work of an idle
tick.  Ranges that the types do not give (a 32-bit priority, a 64-bit count) are
checked where options are read.
-/
namespace OutlineBar

structure BarOptions where
  /-- Whether windows get a bar. -/
  enabled : Bool := true
  /-- The priority with which a bar is offered to the host. -/
  priority : Int := 2
  /-- The content type whose buffers bring an outliner of their own. -/
  language : String := "powershell"
  deriving DecidableEq, Repr, Inhabited

structure IdleOptions where
  /-- How many windows one tick visits; zero means all of them. -/
  maxWindows : Nat := 0
  deriving DecidableEq, Repr, Inhabited

/-- All options.  The default is what an empty document gives. -/
structure Options where
  bar : BarOptions := {}
  idle : IdleOptions := {}
  deriving DecidableEq, Repr, Inhabited

/-- The bound on the windows of one tick, if there is one. -/
def IdleOptions.cap (idle : IdleOptions) : Option Nat :=
  if 0 < idle.maxWindows then some idle.maxWindows else none

/-- Whether nothing differs from the defaults. -/
def Options.isDefault (options : Options) : Bool := options == {}

end OutlineBar
