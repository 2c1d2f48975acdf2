import ResourceBundle.Proofs.ActionRuns

/-! # Silent actions and actions that report their failures

An action is silent if it tells the host nothing, whatever comes of it. An action reports its failures if
a processing failure is the last thing that the host is told, and the only error. A handler that reports
makes the one out of the other. -/

namespace ResourceBundle

variable {σ τ α β : Type}

theorem diagnosticsOf_append (first second : List Event) :
    diagnosticsOf (first ++ second) = diagnosticsOf first ++ diagnosticsOf second :=
  List.filterMap_append

/-- Whether none of the diagnostics among some events is an error. -/
def Quiet (events : List Event) : Prop := ∀ d ∈ diagnosticsOf events, d.severity ≠ .error

theorem quiet_of_diagnosticsOf {events : List Event} (h : diagnosticsOf events = []) :
    Quiet events := by
  intro d hd
  rw [h] at hd
  cases hd

theorem quiet_nil : Quiet [] := quiet_of_diagnosticsOf rfl

theorem Quiet.append {first second : List Event} (h : Quiet first) (h' : Quiet second) :
    Quiet (first ++ second) := by
  intro d hd
  rw [diagnosticsOf_append] at hd
  exact (List.mem_append.mp hd).elim (h d) (h' d)

namespace Action

def eventsOf : EStateM.Result Failure (Session σ) α → List Event
  | .ok _ t => t.events
  | .error _ t => t.events

/-- Whether an action tells the host nothing. -/
structure Silent (x : Action σ α) : Prop where
  run : ∀ s, ∃ told, diagnosticsOf told = [] ∧ eventsOf (x.run s) = s.events ++ told

namespace Silent

theorem of_events_eq {x : Action σ α} (h : ∀ s, eventsOf (x.run s) = s.events) : Silent x :=
  ⟨fun s => ⟨[], rfl, by rw [h, List.append_nil]⟩⟩

theorem pure (a : α) : Silent (pure a : Action σ α) := of_events_eq fun _ => rfl

theorem throw (failure : Failure) : Silent (throw failure : Action σ α) := of_events_eq fun _ => rfl

theorem getState : Silent (getState : Action σ σ) := of_events_eq fun _ => rfl

theorem setState (state : σ) : Silent (setState state) := of_events_eq fun _ => rfl

theorem ofExcept (result : Except Failure α) : Silent (ofExcept result : Action σ α) := by
  cases result with
  | ok a => exact pure a
  | error failure => exact throw failure

theorem record {event : Event} (h : event.diagnostic? = none) :
    Silent (record event : Action σ Unit) := by
  refine ⟨fun s => ⟨[event], ?_, rfl⟩⟩
  rw [diagnosticsOf, List.filterMap_cons_none h, List.filterMap_nil]

theorem bind {x : Action σ α} {f : α → Action σ β} (h : Silent x) (hnext : ∀ a, Silent (f a)) :
    Silent (x >>= f) := by
  refine ⟨fun s => ?_⟩
  obtain ⟨told, htold, hevents⟩ := h.run s
  rw [EStateM.run_bind]
  cases hrun : x.run s with
  | error failure t =>
    rw [hrun] at hevents
    exact ⟨told, htold, hevents⟩
  | ok a t =>
    rw [hrun] at hevents
    obtain ⟨further, hfurther, hlast⟩ := (hnext a).run t
    have ht : t.events = s.events ++ told := hevents
    refine ⟨told ++ further, ?_, ?_⟩
    · rw [diagnosticsOf_append, htold, hfurther, List.append_nil]
    · rw [hlast, ht, List.append_assoc]

theorem zoom {part : σ → τ} {withPart : τ → σ → σ} {x : Action τ α} (h : Silent x) :
    Silent (zoom part withPart x) := by
  refine ⟨fun s => ?_⟩
  obtain ⟨told, htold, hevents⟩ := h.run ⟨part s.state, s.events⟩
  rw [run_zoom]
  cases hrun : x.run ⟨part s.state, s.events⟩ <;> rw [hrun] at hevents <;>
    exact ⟨told, htold, hevents⟩

theorem within {x : Action τ α} (h : Silent x) (start : τ) :
    Silent (within start x : Action σ (α × τ)) := by
  refine ⟨fun s => ?_⟩
  obtain ⟨told, htold, hevents⟩ := h.run ⟨start, s.events⟩
  rw [run_within]
  cases hrun : x.run ⟨start, s.events⟩ <;> rw [hrun] at hevents <;>
    exact ⟨told, htold, hevents⟩

end Silent

/-- Whether an outcome was reported, after some events. With a value, no error was told. With a
processing failure, the last thing told is an error with this wording, and no other one was told. -/
def Reported (wording : Failure → String) (before : List Event) :
    EStateM.Result Failure (Session σ) α → Prop
  | .ok _ t => ∃ told, Quiet told ∧ t.events = before ++ told
  | .error failure t => failure.isProcessing = true → ∃ told d, Quiet told ∧
      t.events = before ++ told ++ [.diagnostic d] ∧ d.severity = .error ∧ d.text = wording failure

/-- What was told quietly before does not count. -/
theorem Reported.after {wording : Failure → String} {before told : List Event} (h : Quiet told)
    {result : EStateM.Result Failure (Session σ) α}
    (hresult : Reported wording (before ++ told) result) : Reported wording before result := by
  cases result with
  | ok a t =>
    obtain ⟨further, hfurther, ht⟩ := hresult
    exact ⟨told ++ further, h.append hfurther, by rw [ht, List.append_assoc]⟩
  | error failure t =>
    intro hprocessing
    obtain ⟨further, d, hfurther, ht, hd⟩ := hresult hprocessing
    exact ⟨told ++ further, d, h.append hfurther, by rw [ht, List.append_assoc before], hd⟩

/-- Whether an action reports its failures with a wording. -/
structure Reports (wording : Failure → String) (x : Action σ α) : Prop where
  run : ∀ s, Reported wording s.events (x.run s)

namespace Reports

variable {wording : Failure → String}

theorem pure (a : α) : Reports wording (pure a : Action σ α) :=
  ⟨fun _ => ⟨[], quiet_nil, (List.append_nil _).symm⟩⟩

theorem record {event : Event} (h : Quiet [event]) : Reports wording (record event : Action σ Unit) :=
  ⟨fun _ => ⟨[event], h, rfl⟩⟩

theorem note (text : String) : Reports wording (note text : Action σ Unit) := by
  refine record fun d hd => ?_
  rw [List.mem_singleton.mp hd]
  exact Severity.noConfusion

theorem throw {failure : Failure} (h : failure.isProcessing = false) :
    Reports wording (throw failure : Action σ α) := by
  refine ⟨fun s hprocessing => ?_⟩
  rw [h] at hprocessing
  cases hprocessing

theorem fail {failure : Failure} (h : failure.message = wording failure) (subject : Subject) :
    Reports wording (fail failure subject : Action σ α) :=
  ⟨fun _ _ => ⟨[], _, quiet_nil, by rw [List.append_nil], rfl, h⟩⟩

theorem bind {x : Action σ α} {f : α → Action σ β} (h : Reports wording x)
    (hnext : ∀ a, Reports wording (f a)) : Reports wording (x >>= f) := by
  refine ⟨fun s => ?_⟩
  have hx := h.run s
  rw [EStateM.run_bind]
  cases hrun : x.run s with
  | error failure t =>
    rw [hrun] at hx
    exact hx
  | ok a t =>
    rw [hrun] at hx
    obtain ⟨told, htold, ht⟩ := hx
    exact .after htold (ht ▸ (hnext a).run t)

theorem ofExcept {result : Except Failure α}
    (h : ∀ failure, result = .error failure → failure.isProcessing = false) :
    Reports wording (ofExcept result : Action σ α) := by
  cases result with
  | ok a => exact pure a
  | error failure => exact throw (h failure rfl)

/-- An action that tells nothing itself leaves its failures to a handler. -/
theorem tryCatch {x : Action σ α} {handler : Failure → Action σ α} (h : Silent x)
    (hhandler : ∀ failure, Reports wording (handler failure)) :
    Reports wording (tryCatch x handler) := by
  refine ⟨fun s => ?_⟩
  obtain ⟨told, htold, hevents⟩ := h.run s
  have hquiet := quiet_of_diagnosticsOf htold
  rw [run_tryCatch]
  cases hrun : x.run s with
  | ok a t =>
    rw [hrun] at hevents
    exact ⟨told, hquiet, hevents⟩
  | error failure t =>
    rw [hrun] at hevents
    have ht : t.events = s.events ++ told := hevents
    exact .after hquiet (ht ▸ (hhandler failure).run t)

theorem reporting {x : Action σ α} (h : Silent x) (subject : Subject) :
    Reports Failure.message (reporting subject x) :=
  tryCatch h fun _ => fail rfl subject

theorem within {x : Action τ α} (h : Reports wording x) (start : τ) :
    Reports wording (within start x : Action σ (α × τ)) := by
  refine ⟨fun s => ?_⟩
  have hx := h.run ⟨start, s.events⟩
  rw [run_within]
  cases hrun : x.run ⟨start, s.events⟩ <;> rw [hrun] at hx <;> exact hx

end Reports

end Action

end ResourceBundle
