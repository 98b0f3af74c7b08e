/-
The place for one request.

A request stays in its place until the next one is put there, also after the loop has
read it.  Two counters tell whether there is anything new: how often a request was put
there, and how many of those the loop knows of.  The loop looks twice, once to wake up
and once to read, and either time it comes to know of every request put there so far.
-/
import OutlineBar.Snapshot

namespace OutlineBar

structure RequestSlot where
  /-- The last request. -/
  latest : Option Snapshot := none
  /-- How many requests were made. -/
  sent : Nat := 0
  /-- How many of them the loop knows of. -/
  seen : Nat := 0
  deriving DecidableEq, Repr, Inhabited

namespace RequestSlot

def put (snapshot : Snapshot) (r : RequestSlot) : RequestSlot :=
  { r with latest := some snapshot, sent := r.sent + 1 }

/-- The slot after the loop looked at it. -/
def look (r : RequestSlot) : RequestSlot := { r with seen := r.sent }

/-- Whether there is a request that the loop does not know of. -/
def hasUnseen (r : RequestSlot) : Bool := r.seen != r.sent

end RequestSlot

end OutlineBar
