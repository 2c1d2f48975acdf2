import ResourceBundle.Generation
import ResourceBundle.Proofs.ActionRuns

/-! # What a sink is given

A sink is recorded by keeping, beside its own state, the bundles that were written to it, in order. A
generation writes its tasks from the first one on; if it succeeds, it has written all of them. -/

namespace ResourceBundle

namespace Sink

variable {σ ρ α : Type}

/-- A step of a sink, beside which a record is kept. -/
def beside {τ : Type} (action : EStateM String σ α) : EStateM String (σ × τ) α := fun s =>
  match action.run s.1 with
  | .ok a state => .ok a (state, s.2)
  | .error reason state => .error reason (state, s.2)

/-- The sink with a record of the bundles that were written to it. -/
def recording (sink : Sink σ ρ) :
    Sink (σ × List Generation.Task) (ρ × Output × String) where
  create output path elements := do
    let resource ← beside (sink.create output path elements)
    pure (resource, output, path)
  uri resource := beside (sink.uri resource.1)
  write resource bytes := do
    beside (sink.write resource.1 bytes)
    modify fun s => (s.1, s.2 ++ [⟨resource.2.1, resource.2.2, bytes⟩])

theorem run_beside {τ : Type} (action : EStateM String σ α) (s : σ × τ) :
    (beside action).run s = match action.run s.1 with
      | .ok a state => .ok a (state, s.2)
      | .error reason state => .error reason (state, s.2) := rfl

/-- The steps of writing a bundle, without what is told to the host. -/
def attempt (sink : Sink σ ρ) (output : Output) (path : String) (bytes : List UInt8)
    (elements : List Element) : EStateM String σ String := do
  let resource ← sink.create output path elements
  let uri ← sink.uri resource
  sink.write resource bytes
  pure uri

/-- A recorded attempt goes as it would without a record, and is recorded if it succeeds. -/
theorem run_attempt_recording (sink : Sink σ ρ) (output : Output) (path : String)
    (bytes : List UInt8) (elements : List Element) (s : σ × List Generation.Task) :
    (sink.recording.attempt output path bytes elements).run s =
      match (sink.attempt output path bytes elements).run s.1 with
      | .ok uri state => .ok uri (state, s.2 ++ [⟨output, path, bytes⟩])
      | .error reason state => .error reason (state, s.2) := by
  simp only [attempt, recording, EStateM.run_bind, run_beside]
  cases (sink.create output path elements).run s.1 with
  | error reason state => rfl
  | ok resource state =>
    simp only [EStateM.run_pure]
    cases (sink.uri resource).run state with
    | error reason state => rfl
    | ok uri state =>
      simp only
      cases (sink.write resource bytes).run state <;> rfl

end Sink

namespace Generation

variable {σ ρ α : Type}

theorem run_step (name : String) (action : EStateM String σ α) (s : Session σ) :
    (step name action).run s = match action.run s.state with
      | .ok a state => .ok a ⟨state, s.events⟩
      | .error reason state => .error (.unwrittenBundle name reason)
          ⟨state, s.events ++
            [.diagnostic (.error (Failure.unwrittenBundle name reason).message)]⟩ := by
  simp only [step, EStateM.run_bind, EStateM.run_get]
  cases action.run s.state <;> rfl

/-- Writing a bundle succeeds exactly if the attempt does, and changes the sink as the attempt does. -/
theorem run_write (sink : Sink σ ρ) (output : Output) (path : String) (bytes : List UInt8)
    (elements : List Element) (s : Session σ) :
    ∃ events, match (sink.attempt output path bytes elements).run s.state with
    | .ok uri state => (write sink output path bytes elements).run s = .ok uri ⟨state, events⟩
    | .error _ state => ∃ failure,
        (write sink output path bytes elements).run s = .error failure ⟨state, events⟩ := by
  simp only [Sink.attempt, write, EStateM.run_bind, run_step]
  cases (sink.create output path elements).run s.state with
  | error reason state => exact ⟨_, _, rfl⟩
  | ok resource state =>
    simp only
    cases (sink.uri resource).run state with
    | error reason state => exact ⟨_, _, rfl⟩
    | ok uri state =>
      simp only [Action.run_note]
      cases (sink.write resource bytes).run state with
      | error reason state => exact ⟨_, _, rfl⟩
      | ok _ state => exact ⟨_, rfl⟩

/-- A bundle stands in the record exactly if it was written. -/
theorem record_write (sink : Sink σ ρ) (output : Output) (path : String) (bytes : List UInt8)
    (elements : List Element) (s : Session (σ × List Task)) :
    match (write sink.recording output path bytes elements).run s with
    | .ok _ t => t.state.2 = s.state.2 ++ [⟨output, path, bytes⟩]
    | .error _ t => t.state.2 = s.state.2 := by
  obtain ⟨events, hwrite⟩ := run_write sink.recording output path bytes elements s
  rw [Sink.run_attempt_recording] at hwrite
  cases hattempt : (sink.attempt output path bytes elements).run s.state.1 with
  | ok uri state =>
    rw [hattempt] at hwrite
    rw [hwrite]
  | error reason state =>
    rw [hattempt] at hwrite
    obtain ⟨failure, hwrite⟩ := hwrite
    rw [hwrite]

/-- The record of a run grows by the tasks from the first one on, and by all of them on success. -/
theorem record_writeAll (sink : Sink σ ρ) (elements : List Element) (tasks : List Task)
    (s : Session (σ × List Task)) :
    match (writeAll sink.recording elements tasks).run s with
    | .ok _ t => t.state.2 = s.state.2 ++ tasks
    | .error _ t => ∃ done, done <+: tasks ∧ t.state.2 = s.state.2 ++ done := by
  induction tasks generalizing s with
  | nil => simp [writeAll]
  | cons task rest ih =>
    have hwrite := record_write sink task.output task.path task.bytes elements s
    simp only [writeAll, EStateM.run_bind]
    cases hrun : (write sink.recording task.output task.path task.bytes elements).run s with
    | error failure t =>
      rw [hrun] at hwrite
      exact ⟨[], List.nil_prefix, by simpa using hwrite⟩
    | ok uri t =>
      rw [hrun] at hwrite
      have hrest := ih t
      simp only
      cases hrun' : (writeAll sink.recording elements rest).run t with
      | error failure u =>
        rw [hrun'] at hrest
        obtain ⟨done, hprefix, hstate⟩ := hrest
        refine ⟨task :: done, List.cons_prefix_cons.mpr ⟨rfl, hprefix⟩, ?_⟩
        rw [hstate, hwrite, List.append_assoc]
        rfl
      | ok uris u =>
        rw [hrun'] at hrest
        simp only [EStateM.run_pure]
        rw [hrest, hwrite, List.append_assoc]
        rfl

theorem record_generate {configuration : Configuration} {sink : Sink σ ρ} {outputs : List Output}
    {store : Store} {elements : List Element} {s t : Session (σ × List Task)} {uris : List String}
    (h : (generate configuration sink.recording outputs store elements).run s = .ok uris t) :
    t.state.2 = s.state.2 ++ tasks configuration outputs store := by
  have hrecord := record_writeAll sink elements (tasks configuration outputs store) s
  unfold generate at h
  rw [h] at hrecord
  exact hrecord

/-- The bundles that a generation writes, in order, whether it succeeds or fails. -/
def written (configuration : Configuration) (sink : Sink σ ρ) (outputs : List Output)
    (store : Store) (elements : List Element) (s : Session σ) : List Task :=
  match (generate configuration sink.recording outputs store elements).run
      ⟨(s.state, []), s.events⟩ with
  | .ok _ t => t.state.2
  | .error _ t => t.state.2

theorem written_prefix_tasks (configuration : Configuration) (sink : Sink σ ρ)
    (outputs : List Output) (store : Store) (elements : List Element) (s : Session σ) :
    written configuration sink outputs store elements s <+: tasks configuration outputs store := by
  have h := record_writeAll sink elements (tasks configuration outputs store)
    ⟨(s.state, []), s.events⟩
  unfold written generate
  cases hrun : (writeAll sink.recording elements (tasks configuration outputs store)).run
      ⟨(s.state, []), s.events⟩ with
  | ok uris t =>
    rw [hrun] at h
    simp only [List.nil_append] at h
    simp [h]
  | error failure t =>
    rw [hrun] at h
    obtain ⟨done, hprefix, hstate⟩ := h
    simpa [hstate] using hprefix

/-- Every bundle that a generation writes is that of one of the locales of the store. -/
theorem locale_of_mem_written {configuration : Configuration} {sink : Sink σ ρ}
    {outputs : List Output} {store : Store} {elements : List Element} {s : Session σ} {task : Task}
    (h : task ∈ written configuration sink outputs store elements s) :
    ∃ locale ∈ store.locales,
      task.path = Bundle.path configuration.baseName locale configuration.defaultLocale ∧
      task.bytes = Bundle.payload (store.entriesFor locale) ∧ task.output ∈ outputs := by
  have hmem := (written_prefix_tasks configuration sink outputs store elements s).subset h
  obtain ⟨locale, hlocale, hmem⟩ := List.mem_flatMap.mp hmem
  obtain ⟨output, houtput, rfl⟩ := List.mem_map.mp hmem
  exact ⟨locale, hlocale, rfl, rfl, houtput⟩

end Generation

end ResourceBundle
