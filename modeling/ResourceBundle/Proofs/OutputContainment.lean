import ResourceBundle.Proofs.LocaleParts
import ResourceBundle.Proofs.PathContainment
import ResourceBundle.Proofs.StoredLocales
import ResourceBundle.Proofs.WholeFiles
import ResourceBundle.Sink.Files

/-! # Where a round writes

A round that writes into a file tree changes only the files of its bundles. Each of them lies below the
folder of its output if the path of the bundle stays inside. -/

namespace ResourceBundle

open FileTree (ChangesAt SameFiles)
open ResourceBundle.Action (Keeps)

variable {σ ρ : Type}

namespace OutputFolders

/-- An attempt writes its file as a whole, or changes no file. -/
theorem run_attempt (folders : OutputFolders) (output : Output) (path : String) (bytes : List UInt8)
    (elements : List Element) (tree : FileTree) :
    match (folders.sink.attempt output path bytes elements).run tree with
    | .ok _ t => ∃ folder, folders.folder? output = some folder ∧
        t.workingDirectory = tree.workingDirectory ∧ ∀ other, t.content? other =
          if other = tree.location (folder.join (.ofString path)) then some bytes
          else tree.content? other
    | .error _ t => SameFiles tree t := by
  simp only [Sink.attempt, sink, EStateM.run_bind]
  cases hfolder : folders.folder? output with
  | none => exact .refl tree
  | some folder =>
    simp only [EStateM.run_pure, EStateM.run_get]
    cases tree.trace (folder.join (.ofString path)) with
    | error fault => exact .refl tree
    | ok place =>
      have hwrite := FileAction.run_writeWhole folders.tokens (folder.join (.ofString path)) bytes tree
      simp only [EStateM.run_pure, run_inWords]
      cases hrun : (FileAction.writeWhole folders.tokens (folder.join (.ofString path)) bytes).run tree with
      | error fault t =>
        rw [hrun] at hwrite
        exact hwrite
      | ok _ t =>
        rw [hrun] at hwrite
        exact ⟨folder, rfl, hwrite⟩

/-- A bundle is written as a whole, or no file has changed. -/
theorem run_write (folders : OutputFolders) (output : Output) (path : String) (bytes : List UInt8)
    (elements : List Element) (s : Session FileTree) :
    match (Generation.write folders.sink output path bytes elements).run s with
    | .ok _ t => ∃ folder, folders.folder? output = some folder ∧
        t.state.workingDirectory = s.state.workingDirectory ∧ ∀ other, t.state.content? other =
          if other = s.state.location (folder.join (.ofString path)) then some bytes
          else s.state.content? other
    | .error _ t => SameFiles s.state t.state := by
  have hattempt := run_attempt folders output path bytes elements s.state
  obtain ⟨events, hwrite⟩ := Generation.run_write folders.sink output path bytes elements s
  cases hrun : (folders.sink.attempt output path bytes elements).run s.state with
  | error reason t =>
    rw [hrun] at hattempt hwrite
    obtain ⟨failure, hwrite⟩ := hwrite
    rw [hwrite]
    exact hattempt
  | ok uri t =>
    rw [hrun] at hattempt hwrite
    rw [hwrite]
    exact hattempt

/-- Writing a bundle changes no file but that of the bundle. -/
theorem write_keeps {P : Location → Prop} {before : FileTree} {folders : OutputFolders}
    {output : Output} {path : String} (bytes : List UInt8) (elements : List Element)
    (h : ∀ folder, folders.folder? output = some folder →
      P (before.location (folder.join (.ofString path)))) :
    Keeps (ChangesAt P before) (Generation.write folders.sink output path bytes elements) := by
  refine ⟨fun s hs => ?_⟩
  have hwrite := run_write folders output path bytes elements s
  unfold Action.after
  cases hrun : (Generation.write folders.sink output path bytes elements).run s with
  | error failure t =>
    rw [hrun] at hwrite
    exact hs.trans (hwrite.mono fun _ => False.elim)
  | ok uri t =>
    rw [hrun] at hwrite
    obtain ⟨folder, hfolder, hdirectory, hcontent⟩ := hwrite
    refine hs.trans ⟨hdirectory, fun place hplace => ?_⟩
    rw [hcontent] at hplace
    have hlocation : place = s.state.location (folder.join (.ofString path)) := by
      by_contra hother
      exact hplace (if_neg hother)
    rw [hlocation, FileTree.location, hs.workingDirectory]
    exact h folder hfolder

end OutputFolders

theorem Generation.writeAll_keeps {P : σ → Prop} {sink : Sink σ ρ} {elements : List Element}
    {tasks : List Task} (h : ∀ task ∈ tasks,
      Keeps P (write sink task.output task.path task.bytes elements)) :
    Keeps P (writeAll sink elements tasks) := by
  induction tasks with
  | nil => exact .pure []
  | cons task rest ih =>
    obtain ⟨hfirst, hrest⟩ := List.forall_mem_cons.mp h
    exact hfirst.bind fun _ => (ih hrest).bind fun _ => .pure _

namespace Processing

/-- A round keeps what every generation from its configuration and from named locales keeps. -/
theorem process_keeps {P : σ → Prop} {processor : Processor σ ρ} {files : LinkedTree} {round : Round}
    (h : ∀ configuration store, configure processor.settings round = .ok configuration →
      store.HasLocales (IsNamed processor files round) →
      Keeps P (Generation.generate configuration processor.sink Output.all store round.markedElements)) :
    Keeps P (process processor files round) := by
  refine ⟨fun s hs => ?_⟩
  unfold Action.after
  rw [run_process]
  cases hprepare : (prepare processor.settings processor.places files round).run ⟨(), s.events⟩ with
  | error failure t => exact hs
  | ok prepared t =>
    cases prepared with
    | none => exact hs
    | some generating =>
      obtain ⟨configuration, store⟩ := generating
      obtain ⟨hconfigure, hnamed⟩ := isNamed_of_run_prepare hprepare
      have hgenerate := (h configuration store hconfigure hnamed).keeps ⟨s.state, t.events⟩ hs
      unfold Action.after at hgenerate
      dsimp only
      cases hrun : (Generation.generate configuration processor.sink Output.all store
          round.markedElements).run ⟨s.state, t.events⟩ with
      | error failure u =>
        rw [hrun] at hgenerate
        exact hgenerate
      | ok uris u =>
        rw [hrun] at hgenerate
        exact hgenerate

end Processing

def Configuration.bundlePath (configuration : Configuration) (locale : String) : Path :=
  .ofString (Bundle.path configuration.baseName locale configuration.defaultLocale)

namespace Processing

/-- Every file that changes while a round is processed, to its end or not, is that of a bundle, seen from
the folder of its output; the locale of the bundle is named by a language of the round. If the path of
the bundle stays inside, the file lies below the folder, and only a path that stays inside does so for
every folder. The path stays inside unless the base name begins with a dot or a slash, or the locale is
not the default one and has two dots between slashes; this takes a modifier in its language. -/
theorem process_changes_below (folders : OutputFolders) (settings : Settings) (homes : Homes)
    (roots : List Path) (files : LinkedTree) (round : Round) (s : Session FileTree) :
    let processor : Processor FileTree Path := ⟨settings, homes, roots, folders.sink⟩
    let after := (process processor files round).after s
    (∀ place, after.content? place ≠ s.state.content? place →
      ∃ configuration locale output folder, configure settings round = .ok configuration ∧
        IsNamed processor files round locale ∧ folders.folder? output = some folder ∧
        place = s.state.location (folder.join (configuration.bundlePath locale)) ∧
        ((configuration.bundlePath locale).IsInner →
          Location.Below (s.state.location folder) place)) ∧
    (∀ path : Path, path.IsInner ↔ ∀ (folder : Path) (directory : Location),
      Location.Below (folder.location directory) ((folder.join path).location directory)) ∧
    (∀ (configuration : Configuration) (locale : String),
      configuration.baseName.toList.head? ≠ some '.' → configuration.baseName.toList.head? ≠ some '/' →
      locale = configuration.defaultLocale ∨ ".." ∉ Text.piecesOf '/' locale →
      (configuration.bundlePath locale).IsInner) ∧
    ∀ tag locale : String, Locale.resolve (some tag) = .ok locale → '@' ∉ tag.toList →
      ".." ∉ Text.piecesOf '/' locale := by
  intro processor after
  refine ⟨?_, Path.isInner_iff, fun _ _ => Bundle.isInner_path, fun tag locale hlocale htag => ?_⟩
  · have hkeeps : Keeps (ChangesAt (fun place => ∃ configuration locale output folder,
        configure settings round = .ok configuration ∧ IsNamed processor files round locale ∧
        folders.folder? output = some folder ∧
        place = s.state.location (folder.join (configuration.bundlePath locale))) s.state)
        (process processor files round) := by
      refine process_keeps fun configuration store hconfigure hnamed =>
        Generation.writeAll_keeps fun task htask => ?_
      obtain ⟨locale, hlocale, htask⟩ := List.mem_flatMap.mp htask
      obtain ⟨output, _, rfl⟩ := List.mem_map.mp htask
      exact OutputFolders.write_keeps _ _ fun folder hfolder => ⟨configuration, locale, output, folder,
        hconfigure, hnamed.of_mem_locales hlocale, hfolder, rfl⟩
    intro place hplace
    obtain ⟨configuration, locale, output, folder, hconfigure, hnamed, hfolder, rfl⟩ :=
      (hkeeps.keeps s (.refl _)).place place hplace
    exact ⟨configuration, locale, output, folder, hconfigure, hnamed, hfolder, rfl,
      fun hinner => (Path.isInner_iff _).mp hinner folder s.state.workingDirectory⟩
  · intro hmem
    obtain ⟨piece, hpiece, hdots⟩ := List.mem_map.mp hmem
    obtain rfl : piece = ['.', '.'] := String.ofList_inj.mp hdots
    exact Locale.dot_not_mem_of_resolve hlocale htag
      (Text.mem_of_mem_pieces hpiece List.mem_cons_self)

/-- A field with a text for a language that has a way out of the folders as its modifier. -/
def strayElement : Element :=
  ⟨.field, "title", "app.Form", none, none, [⟨"", "", .txt, [⟨"de@/../../../escaped", "Titel"⟩]⟩]⟩

def strayRound : Round := ⟨[strayElement], [], [], [], false⟩

def workTree : FileTree := ⟨[(["work"], .directory)], ["work"], .none⟩

def outFolders : OutputFolders := ⟨some ⟨.here, ["out", "src"]⟩, some ⟨.here, ["out", "cls"]⟩, ["0"]⟩

/-- The only bundle of the round is written beside the folders of the outputs. -/
theorem process_changes_beside :
    ((process (⟨.default, ⟨none, []⟩, [], outFolders.sink⟩ : Processor FileTree Path) workTree.unlinked
      strayRound).after ⟨workTree, []⟩).content? ["work", "escaped.properties"] ≠
        workTree.content? ["work", "escaped.properties"] ∧
    ∀ output folder, outFolders.folder? output = some folder →
      ¬ Location.Below (workTree.location folder) ["work", "escaped.properties"] := by
  refine ⟨by decide +kernel, fun output folder hfolder hbelow => ?_⟩
  have hlength := hbelow.length_lt
  cases output with
  | sources =>
    obtain rfl := Option.some.inj hfolder
    exact absurd hlength (by decide)
  | classes =>
    obtain rfl := Option.some.inj hfolder
    exact absurd hlength (by decide)

end Processing

end ResourceBundle
