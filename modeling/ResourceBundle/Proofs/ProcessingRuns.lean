import ResourceBundle.Proofs.ProcessingAgreement

/-! # What a processed round went through

A round that was processed to its end passed each stage, and its stages say which store the bundles
were generated from: the contributions of the elements, and behind them those of the additional texts.
What the sink was given is read off the record of the same run. -/

namespace ResourceBundle

open ResourceBundle.Action (Agree)

variable {σ τ ρ π : Type} {S : σ → τ → Prop}

namespace Generation

theorem tasks_congr {a b : Store} (h : a.SameEntries b) (configuration : Configuration)
    (outputs : List Output) : tasks configuration outputs a = tasks configuration outputs b := by
  rw [tasks, tasks, Store.locales_congr h]
  simp only [Store.entriesFor_congr h]

/-- Bundles are written alike if each of them is. -/
theorem writeAll_agree {sink : Sink σ ρ} {sink' : Sink τ π} {elements others : List Element}
    (hwrite : ∀ task : Task, Agree S (fun _ _ => True)
      (write sink task.output task.path task.bytes elements)
      (write sink' task.output task.path task.bytes others)) (tasks : List Task) :
    Agree S (fun _ _ => True) (writeAll sink elements tasks) (writeAll sink' others tasks) := by
  induction tasks with
  | nil => exact .pure trivial
  | cons task rest ih => exact (hwrite task).bind fun _ _ _ => ih.bind fun _ _ _ => .pure trivial

/-- A recorded bundle is written like one that is not recorded. -/
theorem write_agree_recording (sink : Sink σ ρ) (output : Output) (path : String)
    (bytes : List UInt8) (elements : List Element) :
    Agree (fun s t => t.1 = s) (fun _ _ => True) (write sink output path bytes elements)
      (write sink.recording output path bytes elements) := by
  refine ⟨fun s t hs => ?_⟩
  obtain ⟨events, hplain⟩ := run_write sink output path bytes elements s
  obtain ⟨events', hrecorded⟩ := run_write sink.recording output path bytes elements t
  rw [Sink.run_attempt_recording, hs] at hrecorded
  cases hattempt : (sink.attempt output path bytes elements).run s.state with
  | ok uri state =>
    rw [hattempt] at hplain hrecorded
    rw [hplain, hrecorded]
    exact ⟨trivial, rfl⟩
  | error reason state =>
    rw [hattempt] at hplain hrecorded
    obtain ⟨failure, hplain⟩ := hplain
    obtain ⟨other, hrecorded⟩ := hrecorded
    rw [hplain, hrecorded]
    trivial

end Generation

/-- Where a processor looks for additional texts. -/
abbrev Processor.places (processor : Processor σ ρ) : Places :=
  ⟨processor.homes, processor.settings.additionalTextLocation, processor.sourceRoots⟩

namespace Processing

/-- A record of the sink changes nothing else. -/
theorem process_agree_recording (processor : Processor σ ρ) (files : LinkedTree) (round : Round) :
    Agree (fun s t => t.1 = s) Eq (process processor files round)
      (process (processor.withSink processor.sink.recording) files round) := by
  refine process_agree files (.refl _ _) fun configuration a b hsame => ?_
  unfold Generation.generate
  rw [Generation.tasks_congr hsame]
  exact Generation.writeAll_agree (fun _ => Generation.write_agree_recording ..) _

/-- The bundles that are written while a round is processed, in order. -/
def writes (processor : Processor σ ρ) (files : LinkedTree) (round : Round) (s : Session σ) :
    List Generation.Task :=
  match (process (processor.withSink processor.sink.recording) files round).run
      ⟨(s.state, []), s.events⟩ with
  | .ok _ t => t.state.2
  | .error _ t => t.state.2

/-- The file of additional texts that a round merges, if there is one. -/
def located (processor : Processor σ ρ) (files : LinkedTree) (round : Round) : Option Path :=
  match providedFolder round with
  | .error _ => none
  | .ok provided =>
    match (Lookup.locate files processor.places provided).run (⟨(), []⟩ : Session Unit) with
    | .ok found _ => found
    | .error _ _ => none

/-- The document element in a file, if it holds a document that is accepted. -/
def rootAt (files : LinkedTree) (path : Path) : Option Xml.Node :=
  match files.read path with
  | .ok bytes => (Xml.Document.read AdditionalText.catalog bytes).root.toOption
  | .error _ => none

def additionalRoot (processor : Processor σ ρ) (files : LinkedTree) (round : Round) :
    Option Xml.Node :=
  (located processor files round).bind (rootAt files)

def additionalContributions (processor : Processor σ ρ) (files : LinkedTree) (round : Round) :
    List Contribution :=
  match additionalRoot processor files round with
  | some root => AdditionalText.contributions AdditionalText.fileName root
  | none => []

theorem run_collect_eq_ok {messagePrefix : String} {elements : List Element} {store : Store}
    {s t : Session σ} (h : (collect messagePrefix elements).run s = .ok store t) :
    (∀ element ∈ elements, element.Collectable) ∧
      List.Forall₂ Contribution.Gives (elements.flatMap (·.contributions messagePrefix)) store.placed ∧
      t.state = s.state := by
  obtain ⟨⟨_, inner⟩, u, hwithin, hrest⟩ := Action.run_bind_eq_ok_iff.mp h
  cases hrest
  obtain ⟨hcollectAll, hstate⟩ := Action.run_within_eq_ok_iff.mp hwithin
  obtain ⟨hcollectable, hadd⟩ := Collection.run_collectAll_eq_ok_iff.mp hcollectAll
  obtain ⟨placed, hgives, hplaced⟩ := Contribution.placed_of_run_addAll hadd
  rw [Store.empty, List.nil_append] at hplaced
  exact ⟨hcollectable, hplaced ▸ hgives, hstate⟩

/-- A collection succeeds if all elements meet all demands and their contributions give entries in
different places. -/
theorem run_collect_of_gives {messagePrefix : String} {elements : List Element}
    {placed : List Placed} (hcollectable : ∀ element ∈ elements, element.Collectable)
    (hgives : List.Forall₂ Contribution.Gives
      (elements.flatMap (·.contributions messagePrefix)) placed)
    (hnodup : (placed.map Placed.slot).Nodup) (s : Session σ) :
    ∃ store t, (collect messagePrefix elements).run s = .ok store t ∧ store.placed = placed ∧
      t.state = s.state := by
  obtain ⟨t, hadd, hplaced⟩ := Contribution.run_addAll_of_gives hgives
    (s := ⟨Store.empty, s.events⟩) hnodup
  have hcollectAll := Collection.run_collectAll_eq_ok_iff.mpr ⟨hcollectable, hadd⟩
  have hwithin : (Action.within Store.empty (Collection.collectAll messagePrefix elements)).run s =
      .ok ((), t.state) ⟨s.state, t.events⟩ :=
    Action.run_within_eq_ok_iff.mpr ⟨hcollectAll, rfl⟩
  refine ⟨t.state, ⟨s.state, t.events ++ [.collected t.state.size elements.length]⟩, ?_, hplaced, rfl⟩
  rw [collect, EStateM.run_bind, hwithin]
  rfl

theorem run_locate_eq_ok {processor : Processor σ ρ} {files : LinkedTree} {round : Round}
    {provided : Option String} (hprovided : providedFolder round = .ok provided)
    {found : Option Path} {s t : Session τ}
    (h : (Lookup.locate files processor.places provided).run s = .ok found t) :
    located processor files round = found ∧ t.state = s.state := by
  have hagree : Agree (fun (state : τ) (_ : Unit) => state = s.state) Eq _ _ :=
    Lookup.locate_agree files processor.places provided
  obtain ⟨_, u, hunit, rfl, hstate⟩ := hagree.run_ok (t := ⟨(), []⟩) rfl h
  exact ⟨by simp only [located, hprovided, hunit], hstate⟩

theorem run_locate_of_located {processor : Processor σ ρ} {files : LinkedTree} {round : Round}
    {provided : Option String} (hprovided : providedFolder round = .ok provided) {path : Path}
    (h : located processor files round = some path) (s : Session σ) :
    ∃ t, (Lookup.locate files processor.places provided).run s = .ok (some path) t ∧
      t.state = s.state := by
  have hagree : Agree (fun (_ : Unit) (state : σ) => state = s.state) Eq _ _ :=
    Lookup.locate_agree files processor.places provided
  cases hunit : (Lookup.locate files processor.places provided).run (⟨(), []⟩ : Session Unit) with
  | error failure u =>
    simp only [located, hprovided, hunit] at h
    cases h
  | ok found u =>
    simp only [located, hprovided, hunit] at h
    obtain ⟨_, t, hrun, rfl, hstate⟩ := hagree.run_ok rfl hunit
    exact ⟨t, h ▸ hrun, hstate⟩

/-- A merge that succeeds has read the file and parsed all of it. -/
theorem exists_parse_of_run_merge {files : LinkedTree} {path : Path} {store after : Store}
    {s t : Session σ} (h : (merge files path store).run s = .ok after t) :
    ∃ bytes count merging, files.read path = .ok bytes ∧
      (AdditionalText.parse AdditionalText.fileName bytes).run ⟨⟨.start, store⟩, s.events⟩ =
        .ok count ⟨merging, t.events⟩ ∧
      after = merging.store ∧ t.state = s.state := by
  unfold merge at h
  cases hread : files.read path with
  | error fault =>
    rw [hread] at h
    cases h
  | ok bytes =>
    simp only [hread] at h
    obtain ⟨⟨count, merging⟩, u, hcatch, hrest⟩ := Action.run_bind_eq_ok_iff.mp h
    cases hrest
    rw [Action.run_tryCatch] at hcatch
    cases hwithin : (Action.within ⟨.start, store⟩
        (AdditionalText.parse AdditionalText.fileName bytes)).run s with
    | error failure v =>
      rw [hwithin] at hcatch
      obtain ⟨u, hfails⟩ := run_mergeHandler failure v
      cases hfails.symm.trans hcatch
    | ok result v =>
      rw [hwithin] at hcatch
      cases hcatch
      obtain ⟨hparse, hstate⟩ := Action.run_within_eq_ok_iff.mp hwithin
      exact ⟨bytes, count, merging, rfl, hparse, rfl, hstate⟩

theorem run_merge_eq_ok {files : LinkedTree} {path : Path} {store after : Store} {s t : Session σ}
    (h : (merge files path store).run s = .ok after t) :
    t.state = s.state ∧ ∃ root, rootAt files path = some root ∧
      (AdditionalText.Conforms root → ∃ placed,
        List.Forall₂ Contribution.Gives
          (AdditionalText.contributions AdditionalText.fileName root) placed ∧
        after.placed = store.placed ++ placed) := by
  obtain ⟨bytes, count, merging, hread, hparse, rfl, hstate⟩ := exists_parse_of_run_merge h
  obtain ⟨root, hroot, hplaced⟩ := AdditionalText.placed_of_run_parse hparse
  refine ⟨hstate, root, ?_, hplaced⟩
  simp only [rootAt, hread, hroot, Except.toOption]

/-- A document is merged if its contributions give entries in different places that are free. -/
theorem run_merge_of_gives {files : LinkedTree} {path : Path} {bytes : List UInt8} {root : Xml.Node}
    (hread : files.read path = .ok bytes)
    (hroot : (Xml.Document.read AdditionalText.catalog bytes).root = .ok root)
    (hblank : AdditionalText.blankKey? root = none) (hconforms : AdditionalText.Conforms root)
    {store : Store} {placed : List Placed}
    (hgives : List.Forall₂ Contribution.Gives
      (AdditionalText.contributions AdditionalText.fileName root) placed)
    (hnodup : ((store.placed ++ placed).map Placed.slot).Nodup) (s : Session σ) :
    ∃ after t, (merge files path store).run s = .ok after t ∧
      after.placed = store.placed ++ placed ∧ t.state = s.state := by
  obtain ⟨pass, hadd, hplaced⟩ := Contribution.run_addAll_of_gives hgives
    (s := ⟨store, s.events ++ AdditionalText.served bytes⟩) hnodup
  have hparse := AdditionalText.run_parse_of_conforms AdditionalText.fileName hroot hblank hconforms
    ⟨⟨.start, store⟩, s.events⟩
  rw [hadd] at hparse
  obtain ⟨reader, hrun, _⟩ := hparse
  have hwithin : (Action.within ⟨.start, store⟩
      (AdditionalText.parse AdditionalText.fileName bytes)).run s =
      .ok (reader.inserted, ⟨reader, pass.state⟩)
        ⟨s.state, pass.events ++ [.merged reader.inserted]⟩ :=
    Action.run_within_eq_ok_iff.mpr ⟨hrun, rfl⟩
  refine ⟨pass.state, ⟨s.state, pass.events ++ [.merged reader.inserted]⟩, ?_, hplaced, rfl⟩
  simp only [merge, hread, EStateM.run_bind, Action.run_tryCatch, hwithin, EStateM.run_pure]

/-- A round is processed to its end exactly if there is something to do and all stages succeed. -/
theorem run_process_eq_true_iff {processor : Processor σ ρ} {files : LinkedTree} {round : Round}
    {s s' : Session σ} :
    (process processor files round).run s = .ok true s' ↔ isDue round = true ∧
    ∃ configuration collected provided found store uris s₁ s₂ s₃,
      configure processor.settings round = .ok configuration ∧
      (collect configuration.messagePrefix round.markedElements).run
        ⟨s.state, s.events ++ [.diagnostic (.note (announcement round.markNames))]⟩ =
          .ok collected s₁ ∧
      providedFolder round = .ok provided ∧
      (Lookup.locate files processor.places provided).run
          ⟨s₁.state, s₁.events ++ [.diagnostic (.note "Generate ResourceBundles")]⟩ = .ok found s₂ ∧
      (mergeFound files collected found).run s₂ = .ok store s₃ ∧
      (Generation.generate configuration processor.sink Output.all store round.markedElements).run
        s₃ = .ok uris s' := by
  unfold process
  rw [EStateM.run_bind, Action.run_note]
  by_cases hdue : isDue round = true
  · rw [if_pos hdue]
    simp only [hdue, true_and]
    constructor
    · intro h
      obtain ⟨configuration, t, hconfigure, hcollecting⟩ := Action.run_bind_eq_ok_iff.mp h
      obtain ⟨hconfiguration, ht⟩ :=
        Action.run_ofExcept_eq_ok_iff.mp (Action.run_reporting_eq_ok_iff.mp hconfigure)
      obtain ⟨collected, s₁, hcollect, hproviding⟩ := Action.run_bind_eq_ok_iff.mp hcollecting
      obtain ⟨provided, u, hfolder, hnoting⟩ := Action.run_bind_eq_ok_iff.mp hproviding
      obtain ⟨hprovided, hu⟩ :=
        Action.run_ofExcept_eq_ok_iff.mp (Action.run_reporting_eq_ok_iff.mp hfolder)
      rw [hu, EStateM.run_bind, Action.run_note] at hnoting
      obtain ⟨found, s₂, hlocate, hmerging⟩ := Action.run_bind_eq_ok_iff.mp hnoting
      obtain ⟨store, s₃, hmerge, hgenerating⟩ := Action.run_bind_eq_ok_iff.mp hmerging
      obtain ⟨uris, s₄, hgenerate, hlast⟩ := Action.run_bind_eq_ok_iff.mp hgenerating
      cases hlast
      rw [ht] at hcollect
      exact ⟨configuration, collected, provided, found, store, uris, s₁, s₂, s₃, hconfiguration,
        hcollect, hprovided, hlocate, hmerge, hgenerate⟩
    · rintro ⟨configuration, collected, provided, found, store, uris, s₁, s₂, s₃, hconfiguration,
        hcollect, hprovided, hlocate, hmerge, hgenerate⟩
      simp only [EStateM.run_bind, hconfiguration, Action.run_reporting, Action.run_ofExcept_ok,
        hcollect, hprovided, Action.run_note, hlocate, hmerge, hgenerate, EStateM.run_pure]
  · rw [if_neg hdue]
    constructor
    · rintro ⟨⟩
    · exact fun h => absurd h.1 hdue

/-- A round that was processed to its end was configured, all its elements met all demands, a file of
additional texts that was found was accepted, and the bundles were generated from a store that holds
exactly the contributions. -/
theorem run_process_eq_true {processor : Processor σ ρ} {files : LinkedTree} {round : Round}
    {s s' : Session σ} (h : (process processor files round).run s = .ok true s')
    (hconforms : ∀ root, additionalRoot processor files round = some root →
      AdditionalText.Conforms root) :
    ∃ configuration store t uris, configure processor.settings round = .ok configuration ∧
      (∀ element ∈ round.markedElements, element.Collectable) ∧
      (located processor files round).isSome = (additionalRoot processor files round).isSome ∧
      List.Forall₂ Contribution.Gives
        (round.elements.flatMap (·.contributions configuration.messagePrefix) ++
          additionalContributions processor files round) store.placed ∧
      t.state = s.state ∧
      (Generation.generate configuration processor.sink Output.all store round.markedElements).run t =
        .ok uris s' := by
  obtain ⟨_, configuration, collected, provided, found, store, uris, s₁, s₂, s₃, hconfiguration,
    hcollect, hprovided, hlocate, hmerge, hgenerate⟩ := run_process_eq_true_iff.mp h
  obtain ⟨hcollectable, hgives, hstate₁⟩ := run_collect_eq_ok hcollect
  obtain ⟨hfound, hstate₂⟩ := run_locate_eq_ok hprovided hlocate
  rw [Round.flatMap_markedElements] at hgives
  rw [hstate₁] at hstate₂
  refine ⟨configuration, store, s₃, uris, hconfiguration, hcollectable, ?_⟩
  cases found with
  | none =>
    cases hmerge
    have hroot : additionalRoot processor files round = none := by
      rw [additionalRoot, hfound, Option.bind_none]
    refine ⟨by rw [hfound, hroot]; rfl, ?_, hstate₂, hgenerate⟩
    rw [additionalContributions, hroot, List.append_nil]
    exact hgives
  | some path =>
    obtain ⟨hstate₃, root, hrootAt, hplaced⟩ := run_merge_eq_ok hmerge
    have hroot : additionalRoot processor files round = some root := by
      rw [additionalRoot, hfound, Option.bind_some, hrootAt]
    obtain ⟨placed, hfurther, hstore⟩ := hplaced (hconforms root hroot)
    refine ⟨by rw [hfound, hroot]; rfl, ?_, hstate₃.trans hstate₂, hgenerate⟩
    rw [additionalContributions, hroot, hstore]
    exact List.rel_append hgives hfurther

end Processing

end ResourceBundle
