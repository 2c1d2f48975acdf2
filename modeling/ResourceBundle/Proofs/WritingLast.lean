import ResourceBundle.Proofs.Preparation

/-! # Nothing is written before everything is prepared

A round that has nothing to do, or that fails before the generation, asks the sink for nothing. The
requests of a round are seen by a sink that keeps them beside its own state. -/

namespace ResourceBundle

variable {σ ρ α β : Type}

namespace Action

/-- Whether an action has this value whenever it succeeds. -/
structure Yields (x : Action σ α) (a : α) : Prop where
  eq : ∀ {s t b}, x.run s = .ok b t → b = a

theorem Yields.pure (a : α) : Yields (pure a : Action σ α) a := by
  refine ⟨fun h => ?_⟩
  cases h
  rfl

theorem Yields.bind {x : Action σ α} {f : α → Action σ β} {b : β} (h : ∀ a, Yields (f a) b) :
    Yields (x >>= f) b := by
  refine ⟨fun hrun => ?_⟩
  obtain ⟨a, _, _, hnext⟩ := run_bind_eq_ok_iff.mp hrun
  exact (h a).eq hnext

/-- Whether an action has only such failures whenever it fails. -/
structure OnlyFails (P : Failure → Prop) (x : Action σ α) : Prop where
  failure : ∀ {s t failure}, x.run s = .error failure t → P failure

namespace OnlyFails

variable {P : Failure → Prop}

theorem pure (a : α) : OnlyFails P (pure a : Action σ α) := ⟨nofun⟩

theorem note (text : String) : OnlyFails P (note text : Action σ Unit) := ⟨nofun⟩

theorem bind {x : Action σ α} {f : α → Action σ β} (h : OnlyFails P x)
    (hnext : ∀ a, OnlyFails P (f a)) : OnlyFails P (x >>= f) := by
  refine ⟨fun hrun => ?_⟩
  rcases run_bind_eq_error_iff.mp hrun with hfails | ⟨a, _, _, hfails⟩
  · exact h.failure hfails
  · exact (hnext a).failure hfails

end OnlyFails

end Action

open ResourceBundle.Action (Yields OnlyFails)

namespace Sink

/-- A request for a resource. -/
structure Request where
  output : Output
  path : String
  elements : List Element
deriving DecidableEq, Repr

/-- The sink that keeps all requests for resources, granted or not, beside its own state. -/
def listening (sink : Sink σ ρ) : Sink (σ × List Request) ρ where
  create output path elements := do
    modify fun s => (s.1, s.2 ++ [⟨output, path, elements⟩])
    beside (sink.create output path elements)
  uri resource := beside (sink.uri resource)
  write resource bytes := beside (sink.write resource bytes)

end Sink

namespace Generation

/-- Whether a failure is that of a bundle which cannot be written. -/
def Unwritten (failure : Failure) : Prop := ∃ name cause, failure = .unwrittenBundle name cause

theorem step_onlyFails (name : String) (action : EStateM String σ α) :
    OnlyFails Unwritten (step name action) := by
  refine ⟨fun {s _ _} h => ?_⟩
  rw [run_step] at h
  cases haction : action.run s.state with
  | ok a state =>
    rw [haction] at h
    cases h
  | error reason state =>
    rw [haction] at h
    cases h
    exact ⟨name, reason, rfl⟩

theorem write_onlyFails (sink : Sink σ ρ) (output : Output) (path : String) (bytes : List UInt8)
    (elements : List Element) : OnlyFails Unwritten (write sink output path bytes elements) :=
  (step_onlyFails ..).bind fun _ => (step_onlyFails ..).bind fun _ => (OnlyFails.note _).bind fun _ =>
    (step_onlyFails ..).bind fun _ => .pure _

/-- A generation only fails for a bundle that cannot be written. -/
theorem writeAll_onlyFails (sink : Sink σ ρ) (elements : List Element) (tasks : List Task) :
    OnlyFails Unwritten (writeAll sink elements tasks) := by
  induction tasks with
  | nil => exact .pure _
  | cons task rest ih => exact (write_onlyFails ..).bind fun _ => ih.bind fun _ => .pure _

end Generation

/-- Whether there is nothing in a round that could be processed: no message, no text and no marker. -/
def Round.IsBare (round : Round) : Prop :=
  (∀ element ∈ round.elements, element.message = none ∧ element.texts = []) ∧
    round.messagePrefix = [] ∧ round.baseBundleName = [] ∧ round.useAdditionalTexts = []

theorem Round.markNames_eq_nil_iff (round : Round) : round.markNames = [] ↔ round.IsBare := by
  have hpresent (holds : Bool) (name : String) :
      (if holds then [name] else []) = [] ↔ holds = false := by
    cases holds <;> simp
  have htexts (element : Element) : element.texts = [] ↔
      element.texts.length ≠ 1 ∧ ¬ 1 < element.texts.length := by
    rw [List.eq_nil_iff_length_eq_zero]
    omega
  simp only [markNames, IsBare, List.append_eq_nil_iff, hpresent, Bool.not_eq_false',
    List.isEmpty_iff, List.any_eq_false, Option.not_isSome_iff_eq_none, beq_iff_eq,
    decide_eq_true_eq, htexts]
  constructor
  · rintro ⟨⟨⟨⟨⟨hbase, hmessage⟩, hmarkers⟩, hone⟩, hmany⟩, huse⟩
    exact ⟨fun element h => ⟨hmessage element h, hone element h, hmany element h⟩, hmarkers, hbase, huse⟩
  · rintro ⟨helements, hmarkers, hbase, huse⟩
    exact ⟨⟨⟨⟨⟨hbase, fun element h => (helements element h).1⟩, hmarkers⟩,
      fun element h => (helements element h).2.1⟩, fun element h => (helements element h).2.2⟩, huse⟩

namespace Processing

theorem isDue_eq_false_iff (round : Round) :
    isDue round = false ↔ round.errorRaised = true ∨ round.IsBare := by
  rw [← round.markNames_eq_nil_iff, isDue, Bool.and_eq_false_iff, Bool.not_eq_false', Bool.not_eq_false',
    List.isEmpty_iff]

theorem run_process_of_not_due {processor : Processor σ ρ} {files : LinkedTree} {round : Round}
    (h : isDue round = false) (s : Session σ) :
    (process processor files round).run s =
      .ok false ⟨s.state, s.events ++ [.diagnostic (.note (announcement round.markNames))]⟩ := by
  simp only [process, h, EStateM.run_bind, Action.run_note, Bool.false_eq_true, if_false,
    EStateM.run_pure]

/-- If there is something to do in a round, it is not passed over. -/
theorem process_yields {processor : Processor σ ρ} {files : LinkedTree} {round : Round}
    (hdue : isDue round = true) : Yields (process processor files round) true := by
  unfold process
  simp only [hdue, if_true]
  exact .bind fun _ => .bind fun _ => .bind fun _ => .bind fun _ => .bind fun _ => .bind fun _ =>
    .bind fun _ => .bind fun _ => .pure true

/-- A round that is passed over, or that fails for another reason than a bundle that cannot be written,
leaves the sink as it was, and a sink that listens has heard of no request. If the sink writes into a file
tree, its state is the tree, so no file was touched. A round is passed over exactly if an error was raised
before or there is nothing in it; then the host is told one note, and nothing else happens. -/
theorem process_writes_last (processor : Processor σ ρ) (files : LinkedTree) (round : Round)
    (s : Session σ) :
    (match (process processor files round).run s with
      | .ok true _ => True
      | .ok false s' => s'.state = s.state ∧
          (process (processor.withSink processor.sink.listening) files round).run
            ⟨(s.state, []), s.events⟩ = .ok false ⟨(s.state, []), s'.events⟩
      | .error failure s' => (∀ name cause, failure ≠ .unwrittenBundle name cause) →
          s'.state = s.state ∧
          (process (processor.withSink processor.sink.listening) files round).run
            ⟨(s.state, []), s.events⟩ = .error failure ⟨(s.state, []), s'.events⟩) ∧
    ((∃ s', (process processor files round).run s = .ok false s') ↔
      round.errorRaised = true ∨ round.IsBare) ∧
    (round.errorRaised = true ∨ round.IsBare → (process processor files round).run s =
      .ok false ⟨s.state, s.events ++ [.diagnostic (.note (announcement round.markNames))]⟩) := by
  refine ⟨?_, ?_, fun h => run_process_of_not_due ((isDue_eq_false_iff round).mpr h) s⟩
  · -- Both runs have the same preparation, and only the generation asks the sink.
    cases hprepare : (prepare processor.settings processor.places files round).run ⟨(), s.events⟩ with
    | error failure t =>
      rw [run_process_of_error hprepare]
      exact fun _ => ⟨rfl, run_process_of_error hprepare⟩
    | ok prepared t =>
      cases prepared with
      | none =>
        rw [run_process_of_none hprepare]
        exact ⟨rfl, run_process_of_none hprepare⟩
      | some generating =>
        simp only [run_process, hprepare]
        cases hgenerate : (Generation.generate generating.1 processor.sink Output.all generating.2
          round.markedElements).run ⟨s.state, t.events⟩ with
        | ok uris u => trivial
        | error failure u =>
          obtain ⟨name, cause, rfl⟩ := (Generation.writeAll_onlyFails ..).failure hgenerate
          exact fun hother => absurd rfl (hother name cause)
  · rw [← isDue_eq_false_iff]
    constructor
    · rintro ⟨s', h⟩
      by_contra hdue
      cases (process_yields (Bool.not_eq_false _ ▸ hdue)).eq h
    · exact fun hdue => ⟨_, run_process_of_not_due hdue s⟩

end Processing

end ResourceBundle
