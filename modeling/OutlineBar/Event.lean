/-
Log events.

Every operation records what it did as events.  An event has a level, a name and
named fields; numbers, truth values and plain texts are fields of their own kinds,
and everything else appears as text.  Events about a window carry its label in the
field `window`.
-/
import OutlineBar.Action
import OutlineBar.Host.Failure
import OutlineBar.Identity

namespace OutlineBar

structure IdleReport where
  /-- Windows whose maintenance ran. -/
  visited : Nat := 0
  /-- Visited windows whose maintenance failed or panicked. -/
  faulted : Nat := 0
  /-- Whether the tick ended before every window was visited. -/
  stoppedEarly : Bool := false
  deriving DecidableEq, Repr, Inhabited

inductive Event where
  | outlinerUnavailable (window : WindowId) (contentType reason : String)
  | created (window : WindowId) (view : ViewId)
  | staleBarNotRemoved (window : WindowId) (failure : HostFailure)
  | occupantNotRemoved (window : WindowId) (slot : BarSlotId) (failure : HostFailure)
  | attachFailed (window : WindowId) (failure : HostFailure)
  | attached (window : WindowId) (version : Nat)
  | detached (window : WindowId)
  | completionWithoutBar (window : WindowId) (version : Nat)
  | staleCompletion (window : WindowId) (version shown : Nat)
  | barsDisabled (window : WindowId)
  | registered (key : WindowId) (replaced : Bool)
  | unregistered (key : WindowId) (found : Bool)
  | idleFault (window : WindowId) (failure : HostFailure)
  | idlePanic (window : WindowId) (panic : Panic)
  | idleTick (report : IdleReport)
  | idleInstalled (subscription : SubscriptionId)
  | idleUninstalled (subscription : SubscriptionId)
  | sessionStarted (enabled : Bool)
  | toggleFailed (window : WindowId) (enabled : Bool) (failure : HostFailure)
  | toggled (enabled : Bool) (windows failed : Nat)
  | detachFailedAtEnd (window : WindowId) (failure : HostFailure)
  | sessionEnded (windows : Nat)
  | outlinerCreated (contentType : String)
  | loopStarted
  | loopEnded
  | parseRequested (version : Nat)
  | olderSkipped (version last : Nat)
  | parseCompleted (version listeners : Nat)
  | parsePanicked (version : Nat) (panic : Panic)
  deriving DecidableEq, Repr

inductive EventLevel where
  | error | warn | info | debug | trace
  deriving DecidableEq, Repr

def EventLevel.label : EventLevel → String
  | .error => "ERROR"
  | .warn => "WARN"
  | .info => "INFO"
  | .debug => "DEBUG"
  | .trace => "TRACE"

/-- The value of an event's field. -/
inductive FieldValue where
  | number (n : Nat)
  | flag (b : Bool)
  | text (s : String)
  deriving DecidableEq, Repr

def boolLabel (b : Bool) : String := if b then "true" else "false"

/-- A record in a text: its name, then each field with its value between braces. -/
def recordLabel (name : String) (fields : List (String × String)) : String :=
  name ++ " \x7b " ++ ", ".intercalate (fields.map fun (field, value) => field ++ ": " ++ value) ++
    " \x7d"

def IdleReport.label (report : IdleReport) : String :=
  recordLabel "IdleReport" [("visited", toString report.visited),
    ("faulted", toString report.faulted), ("stopped_early", boolLabel report.stoppedEarly)]

def wrapped (name : String) (n : Nat) : String := name ++ "(" ++ toString n ++ ")"

namespace Event

def level : Event → EventLevel
  | outlinerUnavailable .. => .error
  | created .. | staleBarNotRemoved .. | attached .. | detached .. | barsDisabled ..
  | idleInstalled .. | idleUninstalled .. | outlinerCreated .. | loopStarted | loopEnded
  | parseCompleted .. => .debug
  | occupantNotRemoved .. | attachFailed .. | idleFault .. | idlePanic .. | toggleFailed ..
  | detachFailedAtEnd .. | parsePanicked .. => .warn
  | sessionStarted .. | toggled .. | sessionEnded .. => .info
  | completionWithoutBar .. | staleCompletion .. | registered .. | unregistered .. | idleTick ..
  | parseRequested .. | olderSkipped .. => .trace

def name : Event → String
  | outlinerUnavailable .. => "navbar.tokenizer_unavailable"
  | created .. => "navbar.controller.created"
  | staleBarNotRemoved .. => "navbar.attach.stale_bar_remove_failed"
  | occupantNotRemoved .. => "navbar.attach.remove_existing_failed"
  | attachFailed .. => "navbar.attach.failed"
  | attached .. => "navbar.attach"
  | detached .. => "navbar.detach"
  | completionWithoutBar .. => "navbar.completion.detached"
  | staleCompletion .. => "navbar.stale_completion"
  | barsDisabled .. => "navbar.adorn.disabled"
  | registered .. => "navbar.registry.put"
  | unregistered .. => "navbar.registry.remove"
  | idleFault .. => "navbar.idle.fault"
  | idlePanic .. => "navbar.idle.panic"
  | idleTick .. => "navbar.idle.tick"
  | idleInstalled .. => "navbar.idle.installed"
  | idleUninstalled .. => "navbar.idle.uninstalled"
  | sessionStarted .. => "navbar.session.start"
  | toggleFailed .. => "navbar.toggle.failed"
  | toggled .. => "navbar.toggle"
  | detachFailedAtEnd .. => "navbar.shutdown.detach_failed"
  | sessionEnded .. => "navbar.session.shutdown"
  | outlinerCreated .. => "syntax.tokenizer.create"
  | loopStarted => "syntax.parse_loop.spawn"
  | loopEnded => "syntax.parse_loop.exit"
  | parseRequested .. => "syntax.parse.requested"
  | olderSkipped .. => "syntax.parse.skip_older"
  | parseCompleted .. => "syntax.parse.completed"
  | parsePanicked .. => "Background outline parse panicked"

def window? : Event → Option WindowId
  | outlinerUnavailable window .. | created window .. | staleBarNotRemoved window ..
  | occupantNotRemoved window .. | attachFailed window .. | attached window ..
  | detached window | completionWithoutBar window .. | staleCompletion window ..
  | barsDisabled window | registered window .. | unregistered window .. | idleFault window ..
  | idlePanic window .. | toggleFailed window .. | detachFailedAtEnd window .. => some window
  | _ => none

def details : Event → List (String × FieldValue)
  | outlinerUnavailable _ contentType reason =>
    [("content_type", .text contentType), ("error", .text reason)]
  | created _ view => [("view", .text (wrapped "ViewId" view.number))]
  | staleBarNotRemoved _ failure => [("error", .text failure.message)]
  | occupantNotRemoved _ slot failure =>
    [("slot", .text (wrapped "BarSlotId" slot.number)), ("error", .text failure.message)]
  | attachFailed _ failure => [("error", .text failure.message)]
  | attached _ version => [("version", .number version)]
  | detached _ => []
  | completionWithoutBar _ version => [("version", .number version)]
  | staleCompletion _ version shown =>
    [("version", .number version), ("shown", .text (wrapped "Some" shown))]
  | barsDisabled _ => []
  | registered _ replaced => [("replaced", .flag replaced)]
  | unregistered _ found => [("found", .flag found)]
  | idleFault _ failure => [("error", .text failure.message)]
  | idlePanic _ panic => [("panic", .text panic.reason)]
  | idleTick report => [("report", .text report.label)]
  | idleInstalled subscription =>
    [("subscription", .text (wrapped "SubscriptionId" subscription.number))]
  | idleUninstalled subscription =>
    [("subscription", .text (wrapped "SubscriptionId" subscription.number))]
  | sessionStarted enabled => [("enabled", .flag enabled)]
  | toggleFailed _ enabled failure =>
    [("enabled", .flag enabled), ("error", .text failure.message)]
  | toggled enabled windows failed =>
    [("enabled", .flag enabled), ("windows", .number windows), ("failed", .number failed)]
  | detachFailedAtEnd _ failure => [("error", .text failure.message)]
  | sessionEnded windows => [("windows", .number windows)]
  | outlinerCreated contentType => [("content_type", .text contentType)]
  | loopStarted | loopEnded => []
  | parseRequested version => [("version", .number version)]
  | olderSkipped version last =>
    [("version", .number version), ("last_version", .text (wrapped "Some" last))]
  | parseCompleted version listeners =>
    [("version", .number version), ("listeners", .number listeners)]
  | parsePanicked version panic =>
    [("version", .number version), ("error", .text panic.reason)]

def fields (event : Event) : List (String × FieldValue) :=
  match event.window? with
  | some window => ("window", .text window.label) :: event.details
  | none => event.details

/-- An event about a window at its place among events by window number. -/
def insertByWindow (event : WindowId × Event) :
    List (WindowId × Event) → List (WindowId × Event)
  | [] => [event]
  | other :: rest =>
    if event.1.number ≤ other.1.number then event :: other :: rest
    else other :: insertByWindow event rest

/-- Events in the order of a report: first those about windows by window number, then
the others, and each in the order in which they happened. -/
def reported (events : List Event) : List Event :=
  let aboutWindows := events.filterMap fun event => event.window?.map fun window => (window, event)
  (aboutWindows.foldr insertByWindow []).map Prod.snd ++
    events.filter fun event => event.window?.isNone

end Event

end OutlineBar
