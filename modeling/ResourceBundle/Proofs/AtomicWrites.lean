import ResourceBundle.Proofs.WholeFiles
import ResourceBundle.Sink.Files

/-! # Resources written all or nothing

A resource of a file tree is written as a whole, or no file has changed, wherever the writing breaks off:
while directories are made, while the new file is made or filled, or when it takes its place. Nothing is
left of an unfinished file. In a folder that is there, the writing fails only for a reason: it breaks off,
there is no name for an unfinished file, or the path cannot be reached or leads to a directory. -/

namespace ResourceBundle

open FileTree (SameFiles)

namespace FileTree

theorem isDirectory_iff {tree : FileTree} {path : Path} :
    tree.isDirectory path = .ok true ↔ tree.find path = .ok .directory := by
  unfold isDirectory test
  cases tree.find path with
  | error obstacle => cases obstacle <;> simp [Obstacle.isAbsence]
  | ok node => cases node <;> simp

/-- Whether a new file can be made at a path. -/
structure IsFree (tree : FileTree) (path : Path) : Prop where
  reach : tree.reach path = .ok (tree.location path)
  free : tree.at? (tree.location path) = none

/-- A new file makes no directory and takes none away. -/
theorem at?_set_file_eq_directory_iff {tree : FileTree} {place : Location}
    (hfree : tree.at? place = none) (bytes : List UInt8) (other : Location) :
    (tree.set place (.file bytes)).at? other = some .directory ↔
      tree.at? other = some .directory := by
  have hne : place ≠ [] := by
    rintro rfl
    cases hfree
  rw [at?_set hne]
  by_cases hother : other = place
  · rw [if_pos hother, hother, hfree]
    exact iff_of_false nofun nofun
  · rw [if_neg hother]

/-- A new file opens no way and bars none. -/
theorem reach_set_file_eq_ok_iff {tree : FileTree} {place : Location} (hfree : tree.at? place = none)
    (bytes : List UInt8) {path : Path} {reached : Location} :
    (tree.set place (.file bytes)).reach path = .ok reached ↔ tree.reach path = .ok reached := by
  have hdirectory := at?_set_file_eq_directory_iff hfree bytes
  constructor
  · intro hreach
    exact reach_eq_of_directories hreach rfl rfl fun other => (hdirectory other).mp
  · intro hreach
    exact reach_eq_of_directories hreach rfl rfl fun other => (hdirectory other).mpr

end FileTree

namespace FileAction

/-- A directory that is there cannot be made again. -/
theorem run_makeDirectory_of_find {tree : FileTree} {path : Path}
    (h : tree.find path = .ok .directory) :
    (makeDirectory path).run tree = .error (.exists path.text) tree := by
  obtain ⟨hreach, hplace⟩ := FileTree.find_eq_ok_iff.mp h
  simp only [makeDirectory, EStateM.run_bind, EStateM.run_get]
  rw [hreach]
  dsimp only
  rw [hplace, if_pos (.inr (.inr rfl))]
  rfl

/-- Nothing needs to be made where a directory is. -/
theorem run_makeDirectories_of_isDirectory {tree : FileTree} {path : Path}
    (h : tree.isDirectory path = .ok true) : (makeDirectories path).run tree = .ok () tree := by
  have hmake := run_makeDirectory_of_find (FileTree.isDirectory_iff.mp h)
  have htolerate (fault : FileFault) : (toleratingDirectory path fault).run tree = .ok () tree := by
    simp only [toleratingDirectory, EStateM.run_bind, EStateM.run_get]
    rw [h]
    rfl
  obtain ⟨anchor, names⟩ := path
  obtain ⟨reversed, rfl⟩ : ∃ reversed : List String, names = reversed.reverse :=
    ⟨names.reverse, names.reverse_reverse.symm⟩
  rw [makeDirectories, List.reverse_reverse]
  cases reversed with
  | nil =>
    rw [List.reverse_nil] at hmake htolerate
    rw [makeDirectoriesFrom, run_tryCatch, hmake]
    exact htolerate _
  | cons last above =>
    rw [makeDirectoriesFrom, run_tryCatch, hmake]
    exact htolerate _

theorem run_createFile_of_isFree {tree : FileTree} {path : Path} (bytes : List UInt8)
    (h : tree.IsFree path) : (createFile path bytes).run tree =
      .ok (tree.location path) (tree.set (tree.location path) (.file bytes)) := by
  simp only [createFile, EStateM.run_bind, EStateM.run_get]
  rw [h.reach]
  dsimp only
  rw [h.free]
  rfl

theorem run_createFile_of_find {tree : FileTree} {path : Path} {node : FileNode} (bytes : List UInt8)
    (h : tree.find path = .ok node) :
    (createFile path bytes).run tree = .error (.exists path.text) tree := by
  obtain ⟨hreach, hplace⟩ := FileTree.find_eq_ok_iff.mp h
  simp only [createFile, EStateM.run_bind, EStateM.run_get]
  rw [hreach]
  dsimp only
  rw [hplace]
  rfl

/-- A path at which no file can be made, though none is there, is refused for another reason. -/
theorem run_createFile_of_not_isFree {tree : FileTree} {path : Path} (bytes : List UInt8)
    (hfree : ¬ tree.IsFree path) (hfind : ∀ node, tree.find path ≠ .ok node) :
    ∃ obstacle : FileTree.Obstacle,
      (createFile path bytes).run tree = .error (obstacle.fault path) tree := by
  simp only [createFile, EStateM.run_bind, EStateM.run_get]
  cases hreach : tree.reach path with
  | error obstacle => exact ⟨obstacle, rfl⟩
  | ok place =>
    obtain rfl := FileTree.eq_location_of_reach hreach
    cases hplace : tree.at? (tree.location path) with
    | none => exact absurd ⟨hreach, hplace⟩ hfree
    | some node => exact absurd (FileTree.find_eq_ok_iff.mpr ⟨hreach, hplace⟩) (hfind node)

/-- Whether there is a name for an unfinished file: it is free, and all names that are tried before it
are taken. -/
inductive HasDraft (tree : FileTree) (path : Path) : List String → Prop
  | free {token : String} {rest : List String} :
      tree.IsFree (unfinished path tree.workingDirectory token) → HasDraft tree path (token :: rest)
  | taken {token : String} {rest : List String} {node : FileNode} :
      tree.find (unfinished path tree.workingDirectory token) = .ok node →
      HasDraft tree path rest → HasDraft tree path (token :: rest)

theorem run_createUnfinished_cons (path : Path) (token : String) (rest : List String)
    (tree : FileTree) : (createUnfinished path (token :: rest)).run tree =
      match (createFile (unfinished path tree.workingDirectory token) []).run tree with
      | .ok place t => .ok place t
      | .error (.exists _) t => (createUnfinished path rest).run t
      | .error fault t => .error fault t := by
  simp only [createUnfinished, EStateM.run_bind, EStateM.run_get, run_tryCatch]
  cases (createFile (unfinished path tree.workingDirectory token) []).run tree with
  | ok place t => rfl
  | error fault t => cases fault <;> rfl

theorem exists_run_createUnfinished_iff (path : Path) (tokens : List String) (tree : FileTree) :
    (∃ place t, (createUnfinished path tokens).run tree = .ok place t) ↔ HasDraft tree path tokens := by
  induction tokens with
  | nil =>
    constructor
    · rintro ⟨place, t, hrun⟩
      cases hrun
    · rintro ⟨⟩
  | cons token rest ih =>
    rw [run_createUnfinished_cons]
    by_cases hfree : tree.IsFree (unfinished path tree.workingDirectory token)
    · rw [run_createFile_of_isFree [] hfree]
      exact iff_of_true ⟨_, _, rfl⟩ (.free hfree)
    by_cases hfind : ∃ node, tree.find (unfinished path tree.workingDirectory token) = .ok node
    · obtain ⟨node, hnode⟩ := hfind
      rw [run_createFile_of_find [] hnode]
      dsimp only
      rw [ih]
      constructor
      · exact .taken hnode
      · intro h
        cases h with
        | free h => exact absurd h hfree
        | taken _ h => exact h
    · have hnone := not_exists.mp hfind
      obtain ⟨obstacle, hrun⟩ := run_createFile_of_not_isFree [] hfree hnone
      rw [hrun]
      constructor
      · rintro ⟨place, t, h⟩
        cases obstacle <;> cases h
      · intro h
        cases h with
        | free h => exact absurd h hfree
        | taken h _ => exact absurd h (hnone _)

/-- A file is moved to a path that can be reached, unless a directory is there. -/
theorem exists_run_moveFile_iff {tree : FileTree} {source : Location} {target : Path}
    {bytes : List UInt8} (hsource : tree.at? source = some (.file bytes)) :
    (∃ t, (moveFile source target).run tree = .ok () t) ↔
      tree.reach target = .ok (tree.location target) ∧
        tree.at? (tree.location target) ≠ some .directory := by
  constructor
  · rintro ⟨t, hrun⟩
    have hmoved := run_moveFile source target tree
    rw [hrun] at hmoved
    obtain ⟨-, -, hdirectory, hreach, -⟩ := hmoved
    exact ⟨hreach, hdirectory⟩
  · rintro ⟨hreach, hdirectory⟩
    simp only [moveFile, EStateM.run_bind, EStateM.run_get]
    rw [hsource]
    dsimp only
    rw [hreach]
    dsimp only
    rw [if_neg hdirectory]
    exact ⟨_, rfl⟩

/-- A new file that is filled takes the place of a path, unless the writing breaks off or the path cannot be
reached or leads to a directory. -/
theorem exists_run_fillFile_moveFile_iff {tree : FileTree} {place : Location}
    (hfree : tree.at? place = none) (path : Path) (writing : Writing) :
    (∃ t, (tryCatch (do fillFile place writing; moveFile place path) fun fault => do
        removeFile place
        throw fault : FileAction Unit).run (tree.set place (.file [])) = .ok () t) ↔
      writing.fault = none ∧ tree.reach path = .ok (tree.location path) ∧
        tree.at? (tree.location path) ≠ some .directory := by
  have hplace : place ≠ [] := by
    rintro rfl
    cases hfree
  have hfilled : (tree.set place (.file writing.bytes)).at? place = some (.file writing.bytes) :=
    (FileTree.at?_set hplace).trans (if_pos rfl)
  have hmoved : (∃ t, (moveFile place path).run (tree.set place (.file writing.bytes)) = .ok () t) ↔ _ :=
    exists_run_moveFile_iff hfilled
  have hlocation : (tree.set place (.file writing.bytes)).location path = tree.location path := rfl
  rw [hlocation, FileTree.reach_set_file_eq_ok_iff hfree, Ne,
    FileTree.at?_set_file_eq_directory_iff hfree] at hmoved
  simp only [run_tryCatch, EStateM.run_bind, run_fillFile, FileTree.set_set]
  cases writing.fault with
  | some fault =>
    constructor
    · rintro ⟨_, hok⟩
      cases hok
    · rintro ⟨hnone, _⟩
      cases hnone
  | none =>
    rw [← hmoved]
    dsimp only
    cases (moveFile place path).run (tree.set place (.file writing.bytes)) with
    | ok _ t => exact iff_of_true ⟨t, rfl⟩ ⟨rfl, t, rfl⟩
    | error fault t => exact iff_of_false nofun nofun

/-- In a directory that is there, a file is written unless the writing breaks off, there is no name for an
unfinished file, or the path cannot be reached or leads to a directory. -/
theorem run_replaceWhole_of_isDirectory {tree : FileTree} {path : Path} (tokens : List String)
    (writing : Writing) (h : tree.isDirectory path.parent = .ok true) :
    (∃ t, (replaceWhole tokens path writing).run tree = .ok () t) ↔ writing.fault = none ∧
      HasDraft tree path tokens ∧ tree.reach path = .ok (tree.location path) ∧
      tree.at? (tree.location path) ≠ some .directory := by
  simp only [replaceWhole, EStateM.run_bind, run_makeDirectories_of_isDirectory h]
  have hdraft := exists_run_createUnfinished_iff path tokens tree
  have hcreated := run_createUnfinished path tokens tree
  cases hcreate : (createUnfinished path tokens).run tree with
  | error fault t =>
    rw [hcreate] at hdraft
    constructor
    · rintro ⟨_, hok⟩
      cases hok
    · rintro ⟨_, hdrafted, _⟩
      obtain ⟨_, _, hok⟩ := hdraft.mpr hdrafted
      cases hok
  | ok place t =>
    rw [hcreate] at hcreated
    obtain ⟨hfree, rfl⟩ := hcreated
    have hdrafted := hdraft.mp ⟨place, _, hcreate⟩
    rw [exists_run_fillFile_moveFile_iff hfree path writing, and_iff_right hdrafted]

end FileAction

namespace OutputFolders

/-- Writes one resource: it is created for a path below the folder of an output, opened, and written. -/
def put (folders : OutputFolders) (output : Output) (path : String) (elements : List Element)
    (writing : Writing) : EStateM String FileTree Unit := do
  let resource ← folders.sink.create output path elements
  inWords (FileAction.replaceWhole folders.tokens resource writing)

/-- Where the resource of a path is, if its output has a folder. -/
def target? (folders : OutputFolders) (output : Output) (path : String) : Option Path :=
  (folders.folder? output).map fun folder => folder.join (.ofString path)

theorem run_put (folders : OutputFolders) (output : Output) (path : String) (elements : List Element)
    (writing : Writing) (tree : FileTree) :
    (folders.put output path elements writing).run tree =
      match folders.target? output path with
      | none => .error ("No output directory configured for " ++ output.text) tree
      | some target => (inWords (FileAction.replaceWhole folders.tokens target writing)).run tree := by
  simp only [put, sink, target?, EStateM.run_bind]
  cases folders.folder? output <;> rfl

/-- A resource is there as a whole when it has been written, and no other file has changed; if anything
fails on the way, no file has changed at all, and none is new. In a folder that is there, the writing fails
only if it breaks off, if there is no name for an unfinished file, or if the path of the resource cannot be
reached or leads to a directory. A writing that does not break off is that of the sink. -/
theorem put_all_or_nothing (folders : OutputFolders) (output : Output) (path : String)
    (elements : List Element) (writing : Writing) (tree : FileTree) :
    (∀ bytes, folders.put output path elements ⟨bytes, none⟩ = (do
      let resource ← folders.sink.create output path elements
      folders.sink.write resource bytes)) ∧
    (match (folders.put output path elements writing).run tree with
      | .ok _ t => writing.fault = none ∧ ∃ target, folders.target? output path = some target ∧
          t.find target = .ok (.file writing.bytes) ∧ ∀ place, t.content? place =
            if place = tree.location target then some writing.bytes else tree.content? place
      | .error _ t => ∀ place, t.content? place = tree.content? place) ∧
    ∀ target, folders.target? output path = some target → tree.isDirectory target.parent = .ok true →
      ((∃ t, (folders.put output path elements writing).run tree = .ok () t) ↔
        writing.fault = none ∧ FileAction.HasDraft tree target folders.tokens ∧
          tree.reach target = .ok (tree.location target) ∧
          tree.at? (tree.location target) ≠ some .directory) := by
  refine ⟨fun _ => rfl, ?_, fun target htarget hparent => ?_⟩
  · rw [run_put]
    cases folders.target? output path with
    | none => exact fun _ => rfl
    | some target =>
      have hwhole := FileAction.run_replaceWhole folders.tokens target writing tree
      dsimp only
      rw [run_inWords]
      cases hrun : (FileAction.replaceWhole folders.tokens target writing).run tree with
      | error fault t =>
        rw [hrun] at hwhole
        exact hwhole.content_eq
      | ok _ t =>
        rw [hrun] at hwhole
        obtain ⟨hfault, -, hfound, hcontent⟩ := hwhole
        exact ⟨hfault, target, rfl, hfound, hcontent⟩
  · rw [← FileAction.run_replaceWhole_of_isDirectory folders.tokens writing hparent]
    simp only [run_put, htarget, run_inWords]
    cases (FileAction.replaceWhole folders.tokens target writing).run tree with
    | ok _ t => exact iff_of_true ⟨t, rfl⟩ ⟨t, rfl⟩
    | error fault t => exact iff_of_false nofun nofun

def bundleTree : FileTree where
  nodes := [(["work"], .directory), (["work", "out"], .directory),
    (["work", "out", "Texts.properties"], .file [1]), (["work", "out", "Texts_de.properties"], .file [2]),
    (["work", "out", ".Texts.properties.x1.tmp"], .file [])]
  workingDirectory := ["work"]
  restrictions := .none

def bundleFolders : OutputFolders := ⟨some (.ofString "out"), none, ["x1", "x2"]⟩

theorem put_all_or_nothing_replaced :
    (∃ t, (bundleFolders.put .sources "Texts.properties" [] ⟨[3, 4], none⟩).run bundleTree = .ok () t ∧
      t.content? ["work", "out", "Texts.properties"] = some [3, 4] ∧
      t.content? ["work", "out", "Texts_de.properties"] = some [2]) ∧
    ∃ reason t, (bundleFolders.put .sources "Texts.properties" []
        ⟨[3], some (.denied "Texts.properties")⟩).run bundleTree = .error reason t ∧
      t.content? ["work", "out", "Texts.properties"] = some [1] ∧
      t.content? ["work", "out", ".Texts.properties.x2.tmp"] = none := by
  have htarget : bundleFolders.target? .sources "Texts.properties" =
      some ⟨.here, ["out", "Texts.properties"]⟩ := by decide +kernel
  have hparent : bundleTree.isDirectory (Path.parent ⟨.here, ["out", "Texts.properties"]⟩) =
      .ok true := by rfl
  constructor
  · obtain ⟨-, hwhole, hsucceeds⟩ := put_all_or_nothing bundleFolders .sources "Texts.properties" []
      ⟨[3, 4], none⟩ bundleTree
    have hdraft : FileAction.HasDraft bundleTree ⟨.here, ["out", "Texts.properties"]⟩
        bundleFolders.tokens := by
      have htaken : bundleTree.find (FileAction.unfinished ⟨.here, ["out", "Texts.properties"]⟩
          bundleTree.workingDirectory "x1") = .ok (.file []) := by rfl
      exact .taken htaken (.free ⟨rfl, rfl⟩)
    obtain ⟨t, hrun⟩ := (hsucceeds _ htarget hparent).mpr
      ⟨rfl, hdraft, rfl, by decide +kernel⟩
    rw [hrun] at hwhole
    obtain ⟨-, target, hsome, -, hcontent⟩ := hwhole
    obtain rfl := Option.some.inj (htarget.symm.trans hsome)
    refine ⟨t, hrun, (hcontent _).trans ?_, (hcontent _).trans ?_⟩
    · decide +kernel
    · decide +kernel
  · obtain ⟨-, hwhole, hsucceeds⟩ := put_all_or_nothing bundleFolders .sources "Texts.properties" []
      ⟨[3], some (.denied "Texts.properties")⟩ bundleTree
    cases hrun : (bundleFolders.put .sources "Texts.properties" []
        ⟨[3], some (.denied "Texts.properties")⟩).run bundleTree with
    | ok _ t => cases ((hsucceeds _ htarget hparent).mp ⟨t, hrun⟩).1
    | error reason t =>
      rw [hrun] at hwhole
      refine ⟨reason, t, rfl, (hwhole _).trans ?_, (hwhole _).trans ?_⟩
      · decide +kernel
      · decide +kernel

end OutputFolders

end ResourceBundle
