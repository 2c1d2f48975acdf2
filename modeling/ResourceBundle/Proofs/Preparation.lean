import ResourceBundle.Proofs.ProcessingRuns

/-! # The preparation of a round

All that is done in a round before bundles are generated is done apart from the sink: it goes the same
way from every state of every sink, and leaves the state as it is. The whole processing is a
preparation followed by a generation. -/

namespace ResourceBundle

variable {σ ρ α β : Type}

namespace Action

/-- Whether an action runs as one does that has no state, and leaves its state alone. -/
structure Apart (x : Action σ α) (y : Action Unit α) : Prop where
  run_eq : ∀ s : Session σ, x.run s = match y.run ⟨(), s.events⟩ with
    | .ok a t => .ok a ⟨s.state, t.events⟩
    | .error failure t => .error failure ⟨s.state, t.events⟩

namespace Apart

theorem pure (a : α) : Apart (pure a : Action σ α) (pure a) := ⟨fun _ => rfl⟩

theorem throw (failure : Failure) : Apart (throw failure : Action σ α) (throw failure) :=
  ⟨fun _ => rfl⟩

theorem record (event : Event) : Apart (record event : Action σ Unit) (record event) :=
  ⟨fun _ => rfl⟩

theorem report (d : Diagnostic) : Apart (report d : Action σ Unit) (report d) := record _

theorem note (text : String) : Apart (note text : Action σ Unit) (note text) := report _

theorem fail (failure : Failure) (subject : Subject) :
    Apart (fail failure subject : Action σ α) (fail failure subject) := ⟨fun _ => rfl⟩

theorem ofExcept (result : Except Failure α) :
    Apart (ofExcept result : Action σ α) (ofExcept result) := by
  cases result with
  | ok a => exact pure a
  | error failure => exact throw failure

theorem bind {x : Action σ α} {y : Action Unit α} {f : α → Action σ β} {g : α → Action Unit β}
    (h : Apart x y) (hnext : ∀ a, Apart (f a) (g a)) : Apart (x >>= f) (y >>= g) := by
  refine ⟨fun s => ?_⟩
  rw [EStateM.run_bind, EStateM.run_bind, h.run_eq s]
  cases y.run ⟨(), s.events⟩ with
  | ok a t => exact (hnext a).run_eq ⟨s.state, t.events⟩
  | error failure t => rfl

theorem tryCatch {x : Action σ α} {y : Action Unit α} {f : Failure → Action σ α}
    {g : Failure → Action Unit α} (h : Apart x y) (hnext : ∀ failure, Apart (f failure) (g failure)) :
    Apart (tryCatch x f) (tryCatch y g) := by
  refine ⟨fun s => ?_⟩
  rw [run_tryCatch, run_tryCatch, h.run_eq s]
  cases y.run ⟨(), s.events⟩ with
  | ok a t => rfl
  | error failure t => exact (hnext failure).run_eq ⟨s.state, t.events⟩

theorem reporting {x : Action σ α} {y : Action Unit α} (h : Apart x y) (subject : Subject) :
    Apart (reporting subject x) (reporting subject y) :=
  h.tryCatch fun failure => fail failure subject

theorem within {τ : Type} (start : τ) (action : Action τ α) :
    Apart (within start action : Action σ (α × τ)) (within start action) := by
  refine ⟨fun s => ?_⟩
  rw [run_within, run_within]
  cases action.run ⟨start, s.events⟩ <;> rfl

end Apart

end Action

open ResourceBundle.Action (Apart)

namespace Lookup

theorem inFolder_apart (files : LinkedTree) (homes : Homes) (folder source : String) :
    Apart (inFolder files homes folder source : Action σ _) (inFolder files homes folder source) := by
  unfold inFolder
  refine (Apart.ofExcept _).bind fun folder => (Apart.ofExcept _).bind fun isDirectory => ?_
  split
  · exact .pure _
  · dsimp only
    split
    · exact .pure _
    · split
      · exact (Apart.note _).bind fun _ => .pure _
      · exact .throw _
    · refine (Apart.ofExcept _).bind fun isFile => ?_
      split
      · exact (Apart.note _).bind fun _ => .pure _
      · exact (Apart.note _).bind fun _ => .pure _

theorem inFolder?_apart (files : LinkedTree) (homes : Homes) (folder : Option String)
    (source : String) :
    Apart (inFolder? files homes folder source : Action σ _)
      (inFolder? files homes folder source) := by
  unfold inFolder?
  split
  · exact .pure _
  · split
    · exact .pure _
    · exact inFolder_apart ..

theorem inRoots_apart (files : LinkedTree) (roots : List Path) :
    Apart (inRoots files roots : Action σ _) (inRoots files roots) := by
  induction roots with
  | nil => exact .pure _
  | cons root roots ih =>
    rw [inRoots, inRoots]
    refine (Apart.ofExcept _).bind fun isFile => ?_
    split
    · exact ih
    · split
      · exact .fail ..
      · exact (Apart.ofExcept _).bind fun _ => (Apart.note _).bind fun _ => .pure _

theorem locate_apart (files : LinkedTree) (places : Places) (provided : Option String) :
    Apart (locate files places provided : Action σ _) (locate files places provided) := by
  unfold locate
  refine (inFolder?_apart ..).bind fun found => ?_
  cases found with
  | some path => exact .pure _
  | none =>
    refine (inFolder?_apart ..).bind fun found => ?_
    cases found with
    | some path => exact .pure _
    | none => exact inRoots_apart ..

end Lookup

namespace Processing

/-- What is done in a round before additional texts are merged. If there is something to do, it gives
the configuration, the store of the elements, and the file to be merged. -/
def gather (settings : Settings) (places : Places) (files : LinkedTree) (round : Round) :
    Action σ (Option (Configuration × Store × Option Path)) := do
  Action.note (announcement round.markNames)
  if isDue round then
    let configuration ← Action.reporting .nothing (Action.ofExcept (configure settings round))
    let store ← collect configuration.messagePrefix round.markedElements
    let provided ← Action.reporting .nothing (Action.ofExcept (providedFolder round))
    Action.note "Generate ResourceBundles"
    let found ← Lookup.locate files places provided
    pure (some (configuration, store, found))
  else
    pure none

/-- What is done in a round before bundles are generated. If there is something to do, it gives the
configuration and the store that they are generated from. -/
def prepare (settings : Settings) (places : Places) (files : LinkedTree) (round : Round) :
    Action σ (Option (Configuration × Store)) := do
  match ← gather settings places files round with
  | none => pure none
  | some (configuration, store, found) =>
    let store ← mergeFound files store found
    pure (some (configuration, store))

/-- Processing a round is a preparation, and then a generation if there is something to do. -/
theorem process_eq_prepare (processor : Processor σ ρ) (files : LinkedTree) (round : Round) :
    process processor files round =
      (prepare processor.settings processor.places files round >>= fun prepared =>
        match prepared with
        | none => pure false
        | some (configuration, store) => do
          let _ ← Generation.generate configuration processor.sink Output.all store
            round.markedElements
          pure true) := by
  unfold process prepare gather
  by_cases hdue : isDue round = true
  · simp only [hdue, if_true, bind_assoc, pure_bind]
  · simp only [hdue, Bool.false_eq_true, if_false, bind_assoc, pure_bind]

theorem collect_apart (messagePrefix : String) (elements : List Element) :
    Apart (collect messagePrefix elements : Action σ _) (collect messagePrefix elements) :=
  (Apart.within _ _).bind fun _ => (Apart.record _).bind fun _ => .pure _

theorem gather_apart (settings : Settings) (places : Places) (files : LinkedTree) (round : Round) :
    Apart (gather settings places files round : Action σ _) (gather settings places files round) := by
  unfold gather
  refine (Apart.note _).bind fun _ => ?_
  split
  · refine ((Apart.ofExcept _).reporting _).bind fun configuration => ?_
    refine (collect_apart ..).bind fun store => ?_
    refine ((Apart.ofExcept _).reporting _).bind fun provided => ?_
    exact (Apart.note _).bind fun _ => (Lookup.locate_apart ..).bind fun _ => .pure _
  · exact .pure _

theorem merge_apart (files : LinkedTree) (path : Path) (store : Store) :
    Apart (merge files path store : Action σ _) (merge files path store) := by
  unfold merge
  cases files.read path with
  | error fault => exact .fail ..
  | ok bytes =>
    refine ((Apart.within _ _).tryCatch fun failure => ?_).bind fun _ => .pure _
    split
    · exact (Apart.report _).bind fun _ => .throw _
    · exact .throw _

theorem mergeFound_apart (files : LinkedTree) (store : Store) (found : Option Path) :
    Apart (mergeFound files store found : Action σ _) (mergeFound files store found) := by
  cases found with
  | none => exact .pure _
  | some path => exact merge_apart ..

theorem prepare_apart (settings : Settings) (places : Places) (files : LinkedTree) (round : Round) :
    Apart (prepare settings places files round : Action σ _)
      (prepare settings places files round) := by
  refine (gather_apart ..).bind fun gathered => ?_
  cases gathered with
  | none => exact .pure _
  | some found => exact (mergeFound_apart ..).bind fun _ => .pure _

/-- How a round ends is decided by its preparation, which knows nothing of the sink, unless it comes to
the generation. -/
theorem run_process (processor : Processor σ ρ) (files : LinkedTree) (round : Round) (s : Session σ) :
    (process processor files round).run s =
      match (prepare processor.settings processor.places files round).run ⟨(), s.events⟩ with
      | .error failure t => .error failure ⟨s.state, t.events⟩
      | .ok none t => .ok false ⟨s.state, t.events⟩
      | .ok (some (configuration, store)) t =>
        match (Generation.generate configuration processor.sink Output.all store
            round.markedElements).run ⟨s.state, t.events⟩ with
        | .ok _ u => .ok true u
        | .error failure u => .error failure u := by
  rw [process_eq_prepare, EStateM.run_bind, (prepare_apart ..).run_eq s]
  cases (prepare processor.settings processor.places files round).run ⟨(), s.events⟩ with
  | error failure t => rfl
  | ok prepared t =>
    cases prepared with
    | none => rfl
    | some generating =>
      simp only [EStateM.run_bind]
      cases (Generation.generate generating.1 processor.sink Output.all generating.2
        round.markedElements).run ⟨s.state, t.events⟩ <;> rfl

theorem run_process_of_none {processor : Processor σ ρ} {files : LinkedTree} {round : Round}
    {s : Session σ} {t : Session Unit}
    (h : (prepare processor.settings processor.places files round).run ⟨(), s.events⟩ = .ok none t) :
    (process processor files round).run s = .ok false ⟨s.state, t.events⟩ := by
  rw [run_process, h]

theorem run_process_of_error {processor : Processor σ ρ} {files : LinkedTree} {round : Round}
    {s : Session σ} {failure : Failure} {t : Session Unit}
    (h : (prepare processor.settings processor.places files round).run ⟨(), s.events⟩ =
      .error failure t) :
    (process processor files round).run s = .error failure ⟨s.state, t.events⟩ := by
  rw [run_process, h]

end Processing

end ResourceBundle
