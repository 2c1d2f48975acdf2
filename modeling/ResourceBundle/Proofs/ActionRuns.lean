import ResourceBundle.Session

/-! # Runs of actions

What a run of a sequence comes to is the same for all computations on a state that may fail: actions on a
session, actions on files, and scans. Then, what each action does to a session: first the primitives, one
equation each, then sequences. -/

namespace EStateM

variable {ε σ α β : Type} {x : EStateM ε σ α} {f : α → EStateM ε σ β} {s t : σ}

/-- A sequence succeeds exactly if both parts do. -/
theorem run_bind_eq_ok_iff {b : β} :
    (x >>= f).run s = .ok b t ↔ ∃ a u, x.run s = .ok a u ∧ (f a).run u = .ok b t := by
  rw [run_bind]
  cases x.run s with
  | ok a u =>
    constructor
    · exact fun h => ⟨a, u, rfl, h⟩
    · rintro ⟨_, _, heq, h⟩
      cases heq
      exact h
  | error e u => simp

/-- A sequence fails exactly if one of its parts does. -/
theorem run_bind_eq_error_iff {e : ε} :
    (x >>= f).run s = .error e t ↔
      x.run s = .error e t ∨ ∃ a u, x.run s = .ok a u ∧ (f a).run u = .error e t := by
  rw [run_bind]
  cases x.run s with
  | ok a u =>
    constructor
    · exact fun h => .inr ⟨a, u, rfl, h⟩
    · rintro (hfirst | ⟨_, _, heq, h⟩)
      · cases hfirst
      · cases heq
        exact h
  | error other u => simp

end EStateM

namespace ResourceBundle.Action

variable {σ τ α β : Type}

@[simp] theorem run_throw (failure : Failure) (s : Session σ) :
    (throw failure : Action σ α).run s = .error failure s := rfl

@[simp] theorem run_record (event : Event) (s : Session σ) :
    (record event).run s = .ok () ⟨s.state, s.events ++ [event]⟩ := rfl

@[simp] theorem run_report (d : Diagnostic) (s : Session σ) :
    (report d).run s = .ok () ⟨s.state, s.events ++ [.diagnostic d]⟩ := rfl

@[simp] theorem run_note (text : String) (s : Session σ) :
    (note text).run s = .ok () ⟨s.state, s.events ++ [.diagnostic (.note text)]⟩ := rfl

@[simp] theorem run_getState (s : Session σ) : (getState : Action σ σ).run s = .ok s.state s := rfl

@[simp] theorem run_setState (state : σ) (s : Session σ) :
    (setState state).run s = .ok () ⟨state, s.events⟩ := rfl

@[simp] theorem run_ofExcept_ok (a : α) (s : Session σ) :
    (ofExcept (.ok a)).run s = .ok a s := rfl

@[simp] theorem run_ofExcept_error (failure : Failure) (s : Session σ) :
    (ofExcept (.error failure) : Action σ α).run s = .error failure s := rfl

theorem run_tryCatch (action : Action σ α) (handler : Failure → Action σ α) (s : Session σ) :
    (tryCatch action handler).run s = match action.run s with
      | .ok a t => .ok a t
      | .error failure t => (handler failure).run t := by
  change EStateM.tryCatch action handler s = _
  unfold EStateM.tryCatch EStateM.run
  cases action s <;> rfl

theorem run_reporting (subject : Subject) (action : Action σ α) (s : Session σ) :
    (reporting subject action).run s = match action.run s with
      | .ok a t => .ok a t
      | .error failure t =>
        .error failure ⟨t.state, t.events ++ [.diagnostic ⟨.error, failure.message, subject⟩]⟩ := by
  unfold reporting
  rw [run_tryCatch]
  cases action.run s <;> rfl

theorem run_zoom (part : σ → τ) (withPart : τ → σ → σ) (action : Action τ α) (s : Session σ) :
    (zoom part withPart action).run s = match action.run ⟨part s.state, s.events⟩ with
      | .ok a t => .ok a ⟨withPart t.state s.state, t.events⟩
      | .error failure t => .error failure ⟨withPart t.state s.state, t.events⟩ := by
  simp only [zoom, EStateM.run_bind, EStateM.run_get]
  cases action.run ⟨part s.state, s.events⟩ <;> rfl

theorem run_within (start : τ) (action : Action τ α) (s : Session σ) :
    (within start action : Action σ (α × τ)).run s = match action.run ⟨start, s.events⟩ with
      | .ok a t => .ok (a, t.state) ⟨s.state, t.events⟩
      | .error failure t => .error failure ⟨s.state, t.events⟩ := by
  simp only [within, EStateM.run_bind, EStateM.run_get]
  cases action.run ⟨start, s.events⟩ <;> rfl

/-- A sequence succeeds exactly if both parts do. -/
theorem run_bind_eq_ok_iff {action : Action σ α} {next : α → Action σ β} {s t : Session σ} {b : β} :
    (action >>= next).run s = .ok b t ↔
      ∃ a u, action.run s = .ok a u ∧ (next a).run u = .ok b t := EStateM.run_bind_eq_ok_iff

/-- A sequence fails exactly if one of its parts does. -/
theorem run_bind_eq_error_iff {action : Action σ α} {next : α → Action σ β} {s t : Session σ}
    {failure : Failure} :
    (action >>= next).run s = .error failure t ↔
      action.run s = .error failure t ∨
        ∃ a u, action.run s = .ok a u ∧ (next a).run u = .error failure t :=
  EStateM.run_bind_eq_error_iff

theorem run_ofExcept_eq_ok_iff {result : Except Failure α} {s t : Session σ} {a : α} :
    (ofExcept result).run s = .ok a t ↔ result = .ok a ∧ t = s := by
  cases result with
  | ok b => simp [eq_comm]
  | error failure => simp

theorem run_reporting_eq_ok_iff {subject : Subject} {action : Action σ α} {s t : Session σ} {a : α} :
    (reporting subject action).run s = .ok a t ↔ action.run s = .ok a t := by
  rw [run_reporting]
  cases action.run s <;> simp

theorem run_within_eq_ok_iff {start : τ} {action : Action τ α} {s t : Session σ} {result : α × τ} :
    (within start action).run s = .ok result t ↔
      action.run ⟨start, s.events⟩ = .ok result.1 ⟨result.2, t.events⟩ ∧ t.state = s.state := by
  rw [run_within]
  obtain ⟨a, inner⟩ := result
  obtain ⟨state, events⟩ := t
  cases action.run ⟨start, s.events⟩ with
  | ok b u =>
    obtain ⟨last, further⟩ := u
    simp only [EStateM.Result.ok.injEq, Prod.mk.injEq, Session.mk.injEq]
    grind
  | error failure u => simp

end ResourceBundle.Action
