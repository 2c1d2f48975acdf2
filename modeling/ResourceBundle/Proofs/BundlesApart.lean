import ResourceBundle.Proofs.OutputContainment
import ResourceBundle.Proofs.WriteSchedule

/-! # Bundles that stay apart

A generation into a file tree leaves at each place the bundle that was written there last. So every bundle
is intact in the end exactly if bundles for the same place are the same. Two locales have bundles for
different places if each name that a slash in them begins leads down; a locale whose tag has a slash need
not be of this kind. -/

namespace ResourceBundle

open Generation (Task pairs taskOf)

namespace OutputFolders

def place? (folders : OutputFolders) (directory : Location) (task : Task) : Option Location :=
  (folders.folder? task.output).map fun folder => (folder.join (.ofString task.path)).location directory

/-- The last of some tasks with the place. -/
def last? (folders : OutputFolders) (directory : Location) (tasks : List Task) (place : Location) :
    Option Task :=
  tasks.reverse.find? fun task => folders.place? directory task == some place

/-- Whether no folder is the one of another output or lies below it. -/
def Apart (folders : OutputFolders) (directory : Location) : Prop :=
  ∀ a b f g, a ≠ b → folders.folder? a = some f → folders.folder? b = some g →
    ¬ f.location directory <+: g.location directory

variable {folders : OutputFolders} {elements : List Element} {s t : Session FileTree}

/-- A bundle that is written stands at its place, and no other file has changed. -/
theorem content?_of_run_write {task : Task} {uri : String}
    (h : (Generation.write folders.sink task.output task.path task.bytes elements).run s = .ok uri t) :
    t.state.workingDirectory = s.state.workingDirectory ∧
      ∃ place, folders.place? s.state.workingDirectory task = some place ∧
        ∀ other, t.state.content? other =
          if other = place then some task.bytes else s.state.content? other := by
  have hwrite := run_write folders task.output task.path task.bytes elements s
  rw [h] at hwrite
  obtain ⟨folder, hfolder, hdirectory, hcontent⟩ := hwrite
  refine ⟨hdirectory, _, ?_, hcontent⟩
  rw [place?, hfolder]
  rfl

/-- When bundles have been written, each place has the last one for it, or what was there before. -/
theorem content?_of_run_writeAll {tasks : List Task} {uris : List String}
    (h : (Generation.writeAll folders.sink elements tasks).run s = .ok uris t) :
    t.state.workingDirectory = s.state.workingDirectory ∧
      (∀ task ∈ tasks, ∃ place, folders.place? s.state.workingDirectory task = some place) ∧
      ∀ place, t.state.content? place =
        (folders.last? s.state.workingDirectory tasks place).elim (s.state.content? place)
          fun task => some task.bytes := by
  induction tasks generalizing s uris with
  | nil =>
    cases h
    exact ⟨rfl, nofun, fun _ => rfl⟩
  | cons task tasks ih =>
    obtain ⟨uri, u, hfirst, hrest⟩ := EStateM.run_bind_eq_ok_iff.mp h
    obtain ⟨uris', v, hrest, hlast⟩ := EStateM.run_bind_eq_ok_iff.mp hrest
    cases hlast
    obtain ⟨hdirectory, place, hplace, hwritten⟩ := content?_of_run_write hfirst
    obtain ⟨hdirectory', hplaces, hcontent⟩ := ih hrest
    rw [hdirectory] at hdirectory' hplaces hcontent
    refine ⟨hdirectory', List.forall_mem_cons.mpr ⟨⟨place, hplace⟩, hplaces⟩, fun other => ?_⟩
    rw [hcontent, hwritten, last?, last?, List.reverse_cons, List.find?_append]
    cases tasks.reverse.find? fun task =>
        folders.place? s.state.workingDirectory task == some other with
    | some later => rfl
    | none =>
      rw [Option.none_or, List.find?_singleton, hplace]
      by_cases hother : other = place
      · simp [hother]
      · simp [hother, Ne.symm hother]

end OutputFolders

namespace Generation

/-- Whether the file at the path of each locale's bundle holds exactly this bundle, for each output. -/
def Intact (configuration : Configuration) (folders : OutputFolders) (store : Store) (tree : FileTree) :
    Prop :=
  ∀ locale ∈ store.locales, ∀ output, ∃ folder, folders.folder? output = some folder ∧
    tree.content? (tree.location (folder.join (configuration.bundlePath locale))) =
      some (Bundle.payload (store.entriesFor locale))

theorem mem_pairs {store : Store} {locale : String} (h : locale ∈ store.locales) (output : Output) :
    (locale, output) ∈ pairs Output.all store := by
  refine List.mem_product.mpr ⟨h, ?_⟩
  cases output <;> decide

theorem intact_iff {configuration : Configuration} {folders : OutputFolders} {store : Store}
    {tree : FileTree} : Intact configuration folders store tree ↔
      ∀ pair ∈ pairs Output.all store, ∃ place,
        folders.place? tree.workingDirectory (taskOf configuration store pair) = some place ∧
        tree.content? place = some (taskOf configuration store pair).bytes := by
  constructor
  · rintro h ⟨locale, output⟩ hpair
    obtain ⟨folder, hfolder, hcontent⟩ := h locale (List.mem_product.mp hpair).1 output
    refine ⟨_, ?_, hcontent⟩
    rw [OutputFolders.place?, taskOf, hfolder]
    rfl
  · intro h locale hlocale output
    obtain ⟨place, hplace, hcontent⟩ := h _ (mem_pairs hlocale output)
    obtain ⟨folder, hfolder, rfl⟩ := Option.map_eq_some_iff.mp hplace
    exact ⟨folder, hfolder, hcontent⟩

/-- Bundles for the same place are those of the same locale, if the folders are apart and each name that
a slash in a locale begins leads down. -/
theorem locale_eq_of_place?_eq {configuration : Configuration} {folders : OutputFolders} {store : Store}
    {directory : Location} (hapart : folders.Apart directory) {a b : String × Output}
    (ha : a.1 = configuration.defaultLocale ∨ Bundle.IsTidy a.1)
    (hb : b.1 = configuration.defaultLocale ∨ Bundle.IsTidy b.1) {place : Location}
    (hplace : folders.place? directory (taskOf configuration store a) = some place)
    (hplace' : folders.place? directory (taskOf configuration store b) = some place) : a.1 = b.1 := by
  obtain ⟨f, hf, hfirst⟩ := Option.map_eq_some_iff.mp hplace
  obtain ⟨g, hg, hsecond⟩ := Option.map_eq_some_iff.mp hplace'
  have heq : (f.join (configuration.bundlePath a.1)).location directory =
    (g.join (configuration.bundlePath b.1)).location directory := hfirst.trans hsecond.symm
  rw [Configuration.bundlePath, Bundle.location_path ha, Configuration.bundlePath,
    Bundle.location_path hb] at heq
  refine @Bundle.names_injective configuration.baseName _ _ _ ha hb ?_
  split at heq
  · have houtput : a.2 = b.2 := by
      by_contra hne
      rcases List.prefix_or_prefix_of_prefix ⟨_, rfl⟩ ⟨_, heq.symm⟩ with hbelow | hbelow
      · exact hapart _ _ f g hne hf hg hbelow
      · exact hapart _ _ g f (Ne.symm hne) hg hf hbelow
    obtain rfl : f = g := Option.some.inj (hf.symm.trans ((congrArg folders.folder? houtput).trans hg))
    exact List.append_cancel_left heq
  · exact heq

/-- After a generation into a file tree, each place has the last bundle that belongs there, or what was
there before. Every bundle is intact exactly if those for the same place are the same. That is so if the
folders are apart and each name that a slash in a locale begins leads down, which holds of every locale
whose tag has no slash. -/
theorem generate_intact {configuration : Configuration} {folders : OutputFolders} {store : Store}
    {elements : List Element} {s t : Session FileTree} {uris : List String}
    (h : (generate configuration folders.sink Output.all store elements).run s = .ok uris t) :
    let directory := s.state.workingDirectory
    let task := taskOf configuration store
    (∀ place, t.state.content? place =
      (folders.last? directory ((pairs Output.all store).map task) place).elim
        (s.state.content? place) fun last => some last.bytes) ∧
    (Intact configuration folders store t.state ↔
      ∀ a ∈ pairs Output.all store, ∀ b ∈ pairs Output.all store,
        folders.place? directory (task a) = folders.place? directory (task b) →
          Bundle.payload (store.entriesFor a.1) = Bundle.payload (store.entriesFor b.1)) ∧
    (folders.Apart directory →
      (∀ locale ∈ store.locales, locale = configuration.defaultLocale ∨ Bundle.IsTidy locale) →
      Intact configuration folders store t.state) ∧
    ∀ tag locale : String, Locale.resolve (some tag) = .ok locale → '/' ∉ tag.toList →
      Bundle.IsTidy locale := by
  intro directory task
  rw [generate, tasks_eq_map] at h
  obtain ⟨hdirectory, hplaces, hcontent⟩ := OutputFolders.content?_of_run_writeAll h
  have hintact : Intact configuration folders store t.state ↔
      ∀ a ∈ pairs Output.all store, ∀ b ∈ pairs Output.all store,
        folders.place? directory (task a) = folders.place? directory (task b) →
          Bundle.payload (store.entriesFor a.1) = Bundle.payload (store.entriesFor b.1) := by
    rw [intact_iff, hdirectory]
    constructor
    · intro hintact a ha b hb hsame
      obtain ⟨place, hplace, hfile⟩ := hintact a ha
      obtain ⟨place', hplace', hfile'⟩ := hintact b hb
      obtain rfl := Option.some.inj (hplace.symm.trans (hsame.trans hplace'))
      exact Option.some.inj (hfile.symm.trans hfile')
    · intro hsame a ha
      obtain ⟨place, hplace⟩ := hplaces _ (List.mem_map_of_mem ha)
      refine ⟨place, hplace, ?_⟩
      -- The last bundle for the place need not be that of the pair, but has the same content.
      cases hlast : folders.last? directory ((pairs Output.all store).map task) place with
      | none =>
        have hnone := List.find?_eq_none.mp hlast _ (List.mem_reverse.mpr (List.mem_map_of_mem ha))
        exact absurd (beq_iff_eq.mpr hplace) hnone
      | some last =>
        have hmem := List.mem_reverse.mp (List.mem_of_find?_eq_some hlast)
        obtain ⟨b, hb, rfl⟩ := List.mem_map.mp hmem
        have hplace' : folders.place? directory (task b) = some place :=
          beq_iff_eq.mp (List.find?_some (p := fun task => folders.place? directory task == some place) hlast)
        rw [hcontent, hlast]
        exact congrArg some (hsame b hb a ha (hplace'.trans hplace.symm))
  refine ⟨hcontent, hintact, fun hapart htidy => hintact.mpr fun a ha b hb hsame => ?_,
    fun tag locale hlocale hslash =>
      Bundle.isTidy_of_not_mem (Locale.slash_not_mem_of_resolve hlocale hslash)⟩
  obtain ⟨place, hplace⟩ := hplaces _ (List.mem_map_of_mem ha)
  rw [locale_eq_of_place?_eq hapart (htidy a.1 (List.mem_product.mp ha).1)
    (htidy b.1 (List.mem_product.mp hb).1) hplace (hsame.symm.trans hplace)]

open Processing (outFolders workTree)

theorem apart_outFolders : outFolders.Apart workTree.workingDirectory := by
  intro a b f g hne hf hg
  cases a <;> cases b
  · exact absurd rfl hne
  · cases hf
    cases hg
    decide
  · cases hf
    cases hg
    decide
  · exact absurd rfl hne

theorem writes_farewellStore :
    (match (generate .default outFolders.sink Output.all farewellStore []).run ⟨workTree, []⟩ with
      | .ok _ _ => true
      | .error _ _ => false) = true := by
  rw [generate, tasks_eq_map, pairs_farewellStore]
  decide +kernel

/-- A text in two locales is written to both folders. -/
theorem generate_intact_farewell : ∃ uris t,
    (generate .default outFolders.sink Output.all farewellStore []).run ⟨workTree, []⟩ = .ok uris t ∧
    Intact .default outFolders farewellStore t.state := by
  have hwrites := writes_farewellStore
  cases hrun : (generate .default outFolders.sink Output.all farewellStore []).run ⟨workTree, []⟩ with
  | error failure t =>
    rw [hrun] at hwrites
    cases hwrites
  | ok uris t =>
    refine ⟨uris, t, rfl, (generate_intact hrun).2.2.1 apart_outFolders fun locale hlocale => .inr ?_⟩
    rw [locales_farewellStore] at hlocale
    apply Bundle.isTidy_of_not_mem
    revert locale
    decide

def slashStore : Store :=
  ⟨[⟨"de@a/b", ⟨"app.Form.TXT_street", false, "de@a/b", "", "Gasse", "app.Form", by decide, by decide⟩⟩,
    ⟨"de@a//b", ⟨"app.Form.TXT_town", false, "de@a//b", "", "Ort", "app.Form", by decide, by decide⟩⟩],
    by decide⟩

theorem locales_slashStore : slashStore.locales = ["de@a//b", "de@a/b"] := by
  refine Store.locales_eq_of_ascending (by decide) fun locale => ?_
  simp [slashStore, or_comm, eq_comm]

theorem lost_slashStore :
    (match (generate .default outFolders.sink Output.all slashStore []).run ⟨workTree, []⟩ with
      | .ok _ t => decide (t.state.content? (t.state.location
          ((⟨.here, ["out", "src"]⟩ : Path).join (Configuration.default.bundlePath "de@a//b"))) ≠
            some (Bundle.payload (slashStore.entriesFor "de@a//b")))
      | .error _ _ => false) = true := by
  rw [generate, tasks_eq_map, pairs, locales_slashStore]
  decide +kernel

/-- The bundles of the two locales have the same place; the later one takes it. -/
theorem generate_overwrites :
    (∀ locale ∈ slashStore.locales, ∃ tag, Locale.resolve (some tag) = .ok locale) ∧
    outFolders.Apart workTree.workingDirectory ∧
    ∃ uris t,
      (generate .default outFolders.sink Output.all slashStore []).run ⟨workTree, []⟩ = .ok uris t ∧
      ¬ Intact .default outFolders slashStore t.state := by
  refine ⟨?_, apart_outFolders, ?_⟩
  · rw [locales_slashStore]
    exact List.forall_mem_cons.mpr ⟨⟨"de@a//b", rfl⟩, List.forall_mem_singleton.mpr ⟨"de@a/b", rfl⟩⟩
  · have hlost := lost_slashStore
    cases hrun : (generate .default outFolders.sink Output.all slashStore []).run ⟨workTree, []⟩ with
    | error failure t =>
      rw [hrun] at hlost
      cases hlost
    | ok uris t =>
      rw [hrun] at hlost
      refine ⟨uris, t, rfl, fun hintact => of_decide_eq_true hlost ?_⟩
      obtain ⟨folder, hfolder, hcontent⟩ :=
        hintact "de@a//b" (locales_slashStore ▸ List.mem_cons_self) .sources
      obtain rfl := Option.some.inj hfolder
      exact hcontent

end Generation

end ResourceBundle
