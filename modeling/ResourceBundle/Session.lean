import ResourceBundle.Event

/-! # Actions

An action changes a state, records events, and either gives a value or fails. What was changed and
recorded before a failure stays. -/

namespace ResourceBundle

/-- A state together with the events recorded so far, in order. -/
structure Session (σ : Type) where
  state : σ
  events : List Event

/-- An action on a state. -/
abbrev Action (σ : Type) := EStateM Failure (Session σ)

namespace Action

variable {σ τ α : Type}

/-- Records an event. -/
def record (event : Event) : Action σ Unit :=
  modify fun session => { session with events := session.events ++ [event] }

def report (d : Diagnostic) : Action σ Unit := record (.diagnostic d)

def note (text : String) : Action σ Unit := report (.note text)

/-- Tells the host the failure, and fails. -/
def fail (failure : Failure) (subject : Subject) : Action σ α := do
  report ⟨.error, failure.message, subject⟩
  throw failure

def ofExcept : Except Failure α → Action σ α
  | .ok a => pure a
  | .error failure => throw failure

/-- The action itself, where a failure is reported with a subject before it goes on. -/
def reporting (subject : Subject) (action : Action σ α) : Action σ α :=
  tryCatch action fun failure => fail failure subject

def getState : Action σ σ := do return (← get).state

def setState (state : σ) : Action σ Unit := modify fun session => { session with state := state }

/-- Runs an action on a part of the state. What it changed and recorded stays whether it succeeds or
fails. -/
def zoom (part : σ → τ) (withPart : τ → σ → σ) (action : Action τ α) : Action σ α := do
  let session ← get
  match action.run ⟨part session.state, session.events⟩ with
  | .ok value inner =>
    set (⟨withPart inner.state session.state, inner.events⟩ : Session σ)
    pure value
  | .error failure inner =>
    set (⟨withPart inner.state session.state, inner.events⟩ : Session σ)
    throw failure

/-- Runs an action on a state of its own. Its events stay whether it succeeds or fails. -/
def within (start : τ) (action : Action τ α) : Action σ (α × τ) := do
  let session ← get
  match action.run ⟨start, session.events⟩ with
  | .ok value inner =>
    set (⟨session.state, inner.events⟩ : Session σ)
    pure (value, inner.state)
  | .error failure inner =>
    set (⟨session.state, inner.events⟩ : Session σ)
    throw failure

end Action

end ResourceBundle
