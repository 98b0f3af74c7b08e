/-
Scripts over one background service.

A script makes calls on a service and on named listeners of it.  The loop of the
service moves only when the script lets it settle, and parses can be held back.
-/
import OutlineBar.Outliner.Service

namespace OutlineBar

inductive ServiceStep where
  | subscribe (name : String)
  | unsubscribe (name : String)
  | request (snapshot : Snapshot)
  | settle
  | hold
  | release
  | drain (name : String)
  | tryNext (name : String)
  | next (name : String)
  | parse (snapshot : Snapshot)
  | completed
  | listeners
  | started
  | shutdown
  | drop
  | other

inductive ServiceReply where
  | nothing
  | noService
  | noListener
  | count (n : Nat)
  | completions (all : List Completion)
  | completion (one : Option Completion)
  | pending
  | closed
  | outline (outline : Outline)
  | panicked (panic : Panic)

/-- A service under a script, with the listeners that have names. -/
structure ServiceScript where
  service : Service
  named : List (String × ListenerId) := []
  held : Bool := false
  /-- Events since the last step. -/
  events : List Event := []

namespace ServiceScript

def start (grammar : Grammar) : ServiceScript :=
  { service := .start grammar, events := [.loopStarted] }

def forget (script : ServiceScript) (name : String) : ServiceScript :=
  match script.named.lookup name with
  | some id =>
    { script with
      service := script.service.dropListener id
      named := script.named.filter fun entry => entry.1 != name }
  | none => script

def onService (script : ServiceScript) (call : Service → ServiceReply × Service) :
    ServiceReply × ServiceScript :=
  if script.service.dropped then (.noService, script)
  else
    let (reply, service) := call script.service
    (reply, { script with service })

/-- Makes a call on a named listener, if there is one of that name. -/
def onListener (script : ServiceScript) (name : String)
    (call : ListenerId → Service → ServiceReply × Service) : ServiceReply × ServiceScript :=
  match script.named.lookup name with
  | some id =>
    let (reply, service) := call id script.service
    (reply, { script with service })
  | none => (.noListener, script)

def step (script : ServiceScript) : ServiceStep → ServiceReply × ServiceScript
  | .subscribe name =>
    if script.service.dropped then (.noService, script)
    else
      let script := script.forget name
      let (id, service) := script.service.subscribe
      (.nothing, { script with service, named := script.named ++ [(name, id)] })
  | .unsubscribe name => (.nothing, script.forget name)
  | .request snapshot =>
    if script.service.dropped then (.noService, script)
    else (.nothing, { script with
      service := script.service.request snapshot
      events := script.events ++ [.parseRequested snapshot.version] })
  | .settle =>
    let (service, events) := script.service.settle script.held
    (.nothing, { script with service, events := script.events ++ events })
  | .hold => (.nothing, { script with held := true })
  | .release => (.nothing, { script with held := false })
  | .drain name => script.onListener name fun id service =>
    let (all, broadcast) := service.broadcast.takeAll id
    (.completions all, { service with broadcast })
  | .tryNext name => script.onListener name fun id service =>
    match service.broadcast.take? id with
    | some (completion, broadcast) => (.completion (some completion), { service with broadcast })
    | none => (.completion none, service)
  | .next name => script.onListener name fun id service =>
    match service.next id with
    | (.completion completion, service) => (.completion (some completion), service)
    | (.pending, service) => (.pending, service)
    | (.closed, service) => (.closed, service)
  | .parse snapshot => script.onService fun service =>
    match service.parseNow snapshot with
    | (.ok outline, service) => (.outline outline, service)
    | (.error panic, service) => (.panicked panic, service)
  | .completed => script.onService fun service => (.count service.completed, service)
  | .listeners => script.onService fun service =>
    let (n, service) := service.listenerCount
    (.count n, service)
  | .started => (.count script.service.started, script)
  | .shutdown => script.onService fun service => (.nothing, service.shutdown)
  | .drop => (.nothing, { script with service := script.service.drop })
  | .other => (.nothing, script)

/-- Performs the steps in order.  Each reply comes with the events up to the end of its
step. -/
def run (script : ServiceScript) : List ServiceStep → List (ServiceReply × List Event)
  | [] => []
  | s :: rest =>
    let (reply, script) := script.step s
    (reply, Event.reported script.events) :: { script with events := [] }.run rest

/-- Requests one parse after the other and waits for each completion. -/
def requestInTurn (service : Service) (id : ListenerId) : List Snapshot → List Completion
  | [] => []
  | snapshot :: rest =>
    let service := ((service.request snapshot).settle false).1
    let (all, broadcast) := service.broadcast.takeAll id
    all ++ requestInTurn { service with broadcast } id rest

end ServiceScript

end OutlineBar
