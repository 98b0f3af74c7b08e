/-
Panics, and actions that may end in one.

Every operation of this library that calls the host is an `Action`: it reads and
changes a state and either returns a value or ends in a `Panic`.  The state a
panic leaves behind is the state at the moment of the panic, because the host
calls made before it have happened and nothing takes them back.  `attempt` turns
a panic into a value, `onPanic` runs a clean-up before the panic goes on, and
`zoom` runs an action on a part of a larger state.
-/
namespace OutlineBar

/-- What unwinds out of a host call or a grammar: a text, or a payload that is
not a text. -/
inductive Panic where
  | text (message : String)
  | payload
  deriving DecidableEq, Repr, Inhabited

def Panic.reason : Panic → String
  | .text message => message
  | .payload => "<non-string panic payload>"

/-- An operation on a state `σ` that returns an `α` or panics, and keeps the
state it had reached either way. -/
abbrev Action (σ α : Type) := EStateM Panic σ α

namespace Action

/-- Ends in the given panic, leaving the state alone. -/
def panic {σ α : Type} (p : Panic) : Action σ α := fun s => .error p s

/-- Runs `act` and returns its panic as a value. -/
def attempt {σ α : Type} (act : Action σ α) : Action σ (Except Panic α) := fun s =>
  match act s with
  | .ok a s' => .ok (.ok a) s'
  | .error p s' => .ok (.error p) s'

/-- Runs `act`.  If it panics, `cleanUp` runs in the state left behind and the
panic goes on, whatever became of the clean-up. -/
def onPanic {σ α : Type} (act : Action σ α) (cleanUp : Action σ Unit) : Action σ α := fun s =>
  match act s with
  | .ok a s' => .ok a s'
  | .error p s' =>
    match cleanUp s' with
    | .ok _ s'' => .error p s''
    | .error _ s'' => .error p s''

/-- Runs an action on the part of the state that `view` reads and `put` writes. -/
def zoom {σ τ α : Type} (view : σ → τ) (put : τ → σ → σ) (act : Action τ α) : Action σ α := fun s =>
  match act (view s) with
  | .ok a t => .ok a (put t s)
  | .error p t => .error p (put t s)

/-- The value of a computation without state, or its panic. -/
def ofExcept {σ α : Type} : Except Panic α → Action σ α
  | .ok a => pure a
  | .error p => panic p

theorem attempt_apply {σ α : Type} (act : Action σ α) (s : σ) :
    attempt act s =
      match act s with
      | .ok a s' => .ok (.ok a) s'
      | .error p s' => .ok (.error p) s' := rfl

theorem zoom_apply {σ τ α : Type} (view : σ → τ) (put : τ → σ → σ) (act : Action τ α) (s : σ) :
    zoom view put act s =
      match act (view s) with
      | .ok a t => .ok a (put t s)
      | .error p t => .error p (put t s) := rfl

/-- Sequencing runs the second action in the state the first one reached, and
not at all after a panic. -/
theorem bind_apply {σ α β : Type} (act : Action σ α) (next : α → Action σ β) (s : σ) :
    (act >>= next) s =
      match act s with
      | .ok a s' => next a s'
      | .error p s' => .error p s' := by
  show EStateM.bind act next s = _
  unfold EStateM.bind
  cases act s <;> rfl

theorem pure_apply {σ α : Type} (a : α) (s : σ) : (pure a : Action σ α) s = .ok a s := rfl

end Action

end OutlineBar
