import ResourceBundle.Proofs.ProcessingRuns
import ResourceBundle.Sink.Memory

/-! # What is delivered

A round that is processed to its end delivers its translations and those of the additional texts:
each of them stands once, in the bundle of the locale that its language names, and there are no other
bundles and no other entries. -/

namespace ResourceBundle

variable {σ ρ : Type}

/-- The path of a bundle has no locale in it exactly for the default locale. -/
theorem Bundle.path_eq_iff {baseName locale defaultLocale : String} :
    path baseName locale defaultLocale =
        String.ofList (Text.replaceChar '.' ['/'] baseName.toList) ++ ending ↔
      locale = defaultLocale := by
  unfold path
  by_cases h : locale = defaultLocale
  · simp [h]
  · simp only [h, if_false, iff_false]
    intro heq
    have hlength := congrArg String.length heq
    have hseparator : "_".length = 1 := rfl
    simp only [String.length_append] at hlength
    omega

/-- Whether bundles, each with its locale, hold contributions. There is a bundle for a locale exactly
if a contribution is meant for it; it holds the entries of these contributions, one for each, in
ascending order of their keys. -/
structure Delivery (bundles : List (String × List Entry)) (cs : List Contribution) : Prop where
  resolved : ∀ c ∈ cs, ∃ locale, Locale.resolve c.language = .ok locale
  ascending : (bundles.map Prod.fst).Pairwise (· < ·)
  locales : ∀ locale, locale ∈ bundles.map Prod.fst ↔
    ∃ c ∈ cs, Locale.resolve c.language = .ok locale
  entries : ∀ bundle ∈ bundles, ∃ given,
    List.Forall₂ Contribution.Gives
      (cs.filter fun c => decide (Locale.resolve c.language = .ok bundle.1)) given ∧
    bundle.2.Perm (given.map Placed.entry)
  keys : ∀ bundle ∈ bundles, bundle.2.Pairwise fun a b => a.key < b.key

namespace Contribution

theorem Gives.locale_iff {c : Contribution} {placed : Placed} (h : c.Gives placed)
    (locale : String) : Locale.resolve c.language = .ok locale ↔ placed.locale = locale := by
  rw [h.locale, Except.ok.injEq]

end Contribution

/-- The bundles of a store, each with its locale, in the order in which they are written. -/
def Store.bundles (store : Store) : List (String × List Entry) :=
  store.locales.map fun locale => (locale, store.entriesFor locale)

/-- The bundles of a store deliver the contributions that it was filled with. -/
theorem Store.delivery {cs : List Contribution} {store : Store}
    (h : List.Forall₂ Contribution.Gives cs store.placed) : Delivery store.bundles cs := by
  have hlocales : store.bundles.map Prod.fst = store.locales := by
    rw [bundles, List.map_map]
    exact List.map_id _
  refine ⟨?_, ?_, ?_, ?_, ?_⟩
  · intro c hc
    obtain ⟨placed, _, hgives⟩ := Contribution.exists_gives_of_mem h hc
    exact ⟨placed.locale, hgives.locale⟩
  · rw [hlocales]
    exact ascending_locales store
  · intro locale
    rw [hlocales, mem_locales]
    constructor
    · rintro ⟨placed, hplaced, rfl⟩
      obtain ⟨c, hc, hgives⟩ := Contribution.exists_given_of_mem h hplaced
      exact ⟨c, hc, hgives.locale⟩
    · rintro ⟨c, hc, hlocale⟩
      obtain ⟨placed, hplaced, hgives⟩ := Contribution.exists_gives_of_mem h hc
      exact ⟨placed, hplaced, (hgives.locale_iff locale).mp hlocale⟩
  · intro bundle hbundle
    obtain ⟨locale, _, rfl⟩ := List.mem_map.mp hbundle
    refine ⟨store.placed.filter (·.locale == locale), ?_, entriesFor_perm store locale⟩
    apply List.rel_filter _ h
    intro c placed hgives
    simp only [decide_eq_true_eq, beq_iff_eq]
    exact hgives.locale_iff locale
  · intro bundle hbundle
    obtain ⟨locale, _, rfl⟩ := List.mem_map.mp hbundle
    exact ascending_entriesFor store locale

namespace Processing

/-- A round that is processed to its end was configured, and the bundles of a store that its contributions
fill are written to the sources and then to the classes. -/
theorem exists_store_of_process {processor : Processor σ ρ} {files : LinkedTree} {round : Round}
    {s s' : Session σ} (h : (process processor files round).run s = .ok true s')
    (hconforms : ∀ root, additionalRoot processor files round = some root →
      AdditionalText.Conforms root) :
    ∃ (configuration : Configuration) (store : Store),
      configure processor.settings round = .ok configuration ∧
      (∀ element ∈ round.markedElements, element.Collectable) ∧
      (located processor files round).isSome = (additionalRoot processor files round).isSome ∧
      List.Forall₂ Contribution.Gives
        (round.elements.flatMap (·.contributions configuration.messagePrefix) ++
          additionalContributions processor files round) store.placed ∧
      writes processor files round s = store.bundles.flatMap fun bundle =>
        let path := Bundle.path configuration.baseName bundle.1 configuration.defaultLocale
        [⟨.sources, path, Bundle.payload bundle.2⟩, ⟨.classes, path, Bundle.payload bundle.2⟩] := by
  -- What was written is read off the recorded run, which goes through the same stages.
  obtain ⟨_, t, hrecorded, rfl, _⟩ := (process_agree_recording processor files round).run_ok
    (t := ⟨(s.state, []), s.events⟩) rfl h
  obtain ⟨configuration, store, u, uris, hconfiguration, hcollectable, hlocated, hgives, hstate,
    hgenerate⟩ := run_process_eq_true hrecorded hconforms
  have hwrites : writes processor files round s = Generation.tasks configuration Output.all store := by
    have hgenerate : (Generation.generate configuration processor.sink.recording Output.all store
      round.markedElements).run u = .ok uris t := hgenerate
    have hrecord := Generation.record_generate hgenerate
    rw [hstate, List.nil_append] at hrecord
    rw [writes, hrecorded]
    exact hrecord
  refine ⟨configuration, store, hconfiguration, hcollectable, hlocated, hgives, ?_⟩
  rw [hwrites, Generation.tasks, Store.bundles, List.flatMap_map]
  rfl

/-- Nothing is lost, duplicated or misplaced. If a round is processed to its end, each bundle of the
delivery is written to the sources and then to the classes, in the order of the locales, and nothing
else is written. -/
theorem process_delivers {processor : Processor σ ρ} {files : LinkedTree} {round : Round}
    {s s' : Session σ} (h : (process processor files round).run s = .ok true s')
    (hconforms : ∀ root, additionalRoot processor files round = some root →
      AdditionalText.Conforms root) :
    ∃ configuration bundles, configure processor.settings round = .ok configuration ∧
      (∀ element ∈ round.elements, ∀ note ∈ element.texts,
        ∃ key, element.textKey note = .ok key) ∧
      (located processor files round).isSome = (additionalRoot processor files round).isSome ∧
      Delivery bundles
        (round.elements.flatMap (·.contributions configuration.messagePrefix) ++
          additionalContributions processor files round) ∧
      (writes processor files round s = bundles.flatMap fun bundle =>
        let path := Bundle.path configuration.baseName bundle.1 configuration.defaultLocale
        [⟨.sources, path, Bundle.payload bundle.2⟩, ⟨.classes, path, Bundle.payload bundle.2⟩]) ∧
      ∀ locale, Bundle.path configuration.baseName locale configuration.defaultLocale =
          String.ofList (Text.replaceChar '.' ['/'] configuration.baseName.toList) ++ Bundle.ending ↔
        locale = configuration.defaultLocale := by
  obtain ⟨configuration, store, hconfiguration, hcollectable, hlocated, hgives, hwrites⟩ :=
    exists_store_of_process h hconforms
  refine ⟨configuration, store.bundles, hconfiguration, ?_, hlocated, Store.delivery hgives, hwrites,
    fun locale => Bundle.path_eq_iff⟩
  intro element helement note hnote
  have hmarked : element ∈ round.markedElements := by
    refine List.mem_filter.mpr ⟨helement, ?_⟩
    cases htexts : element.texts with
    | nil =>
      rw [htexts] at hnote
      cases hnote
    | cons first rest => simp [Element.isMarked, htexts]
  exact (hcollectable element hmarked).texts note hnote

def closeElement : Element :=
  ⟨.field, "m_Close", "app.Main", none, none, [⟨"", "", .caption, [⟨"de", "Zu"⟩]⟩]⟩

def closeRound : Round := ⟨[closeElement], [], [], [], false⟩

def titleTree : LinkedTree := FileTree.unlinked
  ⟨[(["work"], .directory),
    (["work", "AdditionalTexts.xml"], .file AdditionalText.titleDocument)], ["work"], .none⟩

def titleProcessor : Processor Memory.Written Memory.Resource :=
  ⟨.default, ⟨none, []⟩, [⟨.root, ["work"]⟩], Memory.sink []⟩

theorem located_titleTree {round : Round} (hprovided : providedFolder round = .ok none) :
    located titleProcessor titleTree round = some ⟨.root, ["work", "AdditionalTexts.xml"]⟩ := by
  rw [located, hprovided]
  decide +kernel

theorem read_titleTree : titleTree.read ⟨.root, ["work", "AdditionalTexts.xml"]⟩ =
    .ok AdditionalText.titleDocument := by
  rfl

theorem rootAt_of_read {files : LinkedTree} {path : Path} {bytes : List UInt8}
    (h : files.read path = .ok bytes) :
    rootAt files path = (Xml.Document.read AdditionalText.catalog bytes).root.toOption := by
  rw [rootAt, h]

theorem root_titleTree {round : Round} (hprovided : providedFolder round = .ok none) :
    additionalRoot titleProcessor titleTree round = some AdditionalText.titleRoot := by
  rw [additionalRoot, located_titleTree hprovided, Option.bind_some, rootAt_of_read read_titleTree,
    AdditionalText.root_titleDocument]
  rfl

theorem run_writeAll_memory (elements : List Element) (tasks : List Generation.Task)
    (s : Session Memory.Written) :
    ∃ uris t, (Generation.writeAll (Memory.sink []) elements tasks).run s = .ok uris t := by
  induction tasks generalizing s with
  | nil => exact ⟨[], s, rfl⟩
  | cons task rest ih =>
    obtain ⟨uri, t, hwrite⟩ : ∃ uri t, (Generation.write (Memory.sink []) task.output task.path
      task.bytes elements).run s = .ok uri t := ⟨_, _, rfl⟩
    obtain ⟨uris, u, hrest⟩ := ih t
    refine ⟨uri :: uris, u, ?_⟩
    simp only [Generation.writeAll, EStateM.run_bind, hwrite, hrest, EStateM.run_pure]

/-- A round with other texts than those of the source root is processed to its end. -/
theorem run_process_titleTree {round : Round} {configuration : Configuration}
    {placed further : List Placed} (hdue : isDue round = true)
    (hconfigure : configure titleProcessor.settings round = .ok configuration)
    (hprovided : providedFolder round = .ok none)
    (hcollectable : ∀ element ∈ round.markedElements, element.Collectable)
    (hgives : List.Forall₂ Contribution.Gives
      (round.markedElements.flatMap (·.contributions configuration.messagePrefix)) placed)
    (hfurther : List.Forall₂ Contribution.Gives
      (AdditionalText.contributions AdditionalText.fileName AdditionalText.titleRoot) further)
    (hnodup : ((placed ++ further).map Placed.slot).Nodup) :
    ∃ s', (process titleProcessor titleTree round).run ⟨.empty, []⟩ = .ok true s' := by
  have hplaces : (placed.map Placed.slot).Nodup := by
    rw [List.map_append] at hnodup
    exact hnodup.of_append_left
  obtain ⟨collected, s₁, hcollect, hcollected, _⟩ := run_collect_of_gives hcollectable hgives hplaces
    ⟨Memory.Written.empty, [.diagnostic (.note (announcement round.markNames))]⟩
  obtain ⟨s₂, hlocate, _⟩ := run_locate_of_located hprovided (located_titleTree hprovided)
    ⟨s₁.state, s₁.events ++ [.diagnostic (.note "Generate ResourceBundles")]⟩
  rw [← hcollected] at hnodup
  obtain ⟨store, s₃, hmerge, _⟩ := run_merge_of_gives read_titleTree
    AdditionalText.root_titleDocument (by decide +kernel) AdditionalText.conforms_titleRoot hfurther
    hnodup s₂
  obtain ⟨uris, s', hgenerate⟩ := run_writeAll_memory round.markedElements
    (Generation.tasks configuration Output.all store) s₃
  exact ⟨s', run_process_eq_true_iff.mpr ⟨hdue, configuration, collected, none, _, store, uris, s₁, s₂,
    s₃, hconfigure, hcollect, hprovided, hlocate, hmerge, hgenerate⟩⟩

theorem process_delivers_title : ∃ s' bundles, ∃ configuration : Configuration,
    (process titleProcessor titleTree closeRound).run ⟨.empty, []⟩ = .ok true s' ∧
    AdditionalText.Conforms AdditionalText.titleRoot ∧
    Delivery bundles (closeRound.elements.flatMap (·.contributions configuration.messagePrefix) ++
      AdditionalText.contributions AdditionalText.fileName AdditionalText.titleRoot) := by
  have hcollectable : ∀ element ∈ closeRound.markedElements, element.Collectable := by
    intro element h
    rw [List.mem_singleton.mp h]
    refine ⟨nofun, fun _ => rfl, fun note hnote => ?_⟩
    rw [List.mem_singleton.mp hnote]
    exact ⟨⟨.caption, "Close"⟩, by decide +kernel⟩
  have hresolve : Locale.resolve (some "de") = .ok "de" := by decide +kernel
  obtain ⟨close, hclose⟩ := Contribution.gives_of_resolve
    (c := ⟨some "de", "app.Main.CAPTION_Close", false, "", "Zu", "app.Main"⟩) (by decide) hresolve
  obtain ⟨title, htitle⟩ := Contribution.gives_of_resolve
    (c := ⟨some "de", "Title", false, "", "Ti", AdditionalText.fileName⟩) (by decide) hresolve
  have hcontributions : closeRound.markedElements.flatMap (·.contributions "MSG") =
      [⟨some "de", "app.Main.CAPTION_Close", false, "", "Zu", "app.Main"⟩] := by decide +kernel
  have hgivesClose : List.Forall₂ Contribution.Gives
      (closeRound.markedElements.flatMap (·.contributions "MSG")) [⟨"de", close⟩] := by
    rw [hcontributions]
    exact .cons hclose .nil
  have hgivesTitle : List.Forall₂ Contribution.Gives
      (AdditionalText.contributions AdditionalText.fileName AdditionalText.titleRoot)
      [⟨"de", title⟩] := .cons htitle .nil
  have hkeys : close.key ≠ title.key := by
    rw [hclose.content.1, htitle.content.1]
    decide
  have hconfigure : configure titleProcessor.settings closeRound =
      .ok ⟨"MSG", "TextsAndMessages", "en"⟩ := by decide +kernel
  obtain ⟨s', hrun⟩ := run_process_titleTree (by decide +kernel) hconfigure rfl hcollectable
    hgivesClose hgivesTitle (by simp [Placed.slot, hkeys])
  have hadditional : additionalContributions titleProcessor titleTree closeRound =
      AdditionalText.contributions AdditionalText.fileName AdditionalText.titleRoot := by
    rw [additionalContributions, root_titleTree rfl]
  obtain ⟨configuration, bundles, _, _, _, hdelivery, _⟩ := process_delivers hrun (by
    intro root hroot
    rw [root_titleTree rfl] at hroot
    cases hroot
    exact AdditionalText.conforms_titleRoot)
  rw [hadditional] at hdelivery
  exact ⟨s', bundles, configuration, hrun, AdditionalText.conforms_titleRoot, hdelivery⟩

end Processing

end ResourceBundle
