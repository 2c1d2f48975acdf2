import ResourceBundle.FileTree

/-! # Files as a whole

What an action does to the files of a tree, directories apart. Writing a file as a whole gives it the new
content and leaves all other files as they are; if it fails, also if the writing itself breaks off, no
file has changed. -/

namespace ResourceBundle

namespace FileTree

def content? (tree : FileTree) (place : Location) : Option (List UInt8) :=
  match tree.at? place with
  | some (.file bytes) => some bytes
  | _ => none

theorem content?_eq_none {tree : FileTree} {place : Location} (h : tree.at? place = none) :
    tree.content? place = none := by
  rw [content?, h]

theorem content?_set_file {tree : FileTree} {place : Location} (h : place ≠ []) (bytes : List UInt8)
    (other : Location) : (tree.set place (.file bytes)).content? other =
      if other = place then some bytes else tree.content? other := by
  unfold content?
  rw [at?_set h]
  by_cases hother : other = place
  · rw [if_pos hother, if_pos hother]
  · rw [if_neg hother, if_neg hother]

theorem set_set (tree : FileTree) (place : Location) (first last : FileNode) :
    (tree.set place first).set place last = tree.set place last := by
  simp [set, List.filter_filter]

theorem content?_set_directory {tree : FileTree} {place : Location} (h : tree.at? place = none)
    (other : Location) : (tree.set place .directory).content? other = tree.content? other := by
  have hne : place ≠ [] := by
    rintro rfl
    cases h
  by_cases hother : other = place
  · rw [hother, content?_eq_none h, content?, at?_set hne, if_pos rfl]
  · rw [content?, at?_set hne, if_neg hother, content?]

theorem content?_erase (tree : FileTree) (place other : Location) :
    (tree.erase place).content? other = if other = place then none else tree.content? other := by
  by_cases hroot : other = []
  · simp [hroot, content?]
  · unfold content?
    rw [at?_erase hroot]
    by_cases hother : other = place
    · rw [if_pos hother, if_pos hother]
    · rw [if_neg hother, if_neg hother]

theorem enter_eq_ok_iff {tree : FileTree} {place next : Location} {name : String} :
    tree.enter place name = .ok next ↔
      tree.at? place = some .directory ∧ place ∉ tree.restrictions.unsearchable ∧
        Path.isLongName name = false ∧
        next = if name = ".." then place.dropLast else place ++ [name] := by
  unfold enter
  cases tree.at? place with
  | none => simp
  | some node =>
    cases node with
    | file bytes => simp
    | directory =>
      dsimp only
      split
      · rename_i hclosed
        simp [List.contains_iff_mem.mp hclosed]
      · rename_i hopen
        rw [List.contains_iff_mem] at hopen
        split
        · rename_i hlong
          simp [hlong]
        · rename_i hshort
          simp [hopen, Bool.eq_false_iff.mpr hshort, eq_comm]

theorem walk_cons_eq_ok_iff {tree : FileTree} {start place : Location} {name : String}
    {names : List String} : tree.walk start (name :: names) = .ok place ↔
      ∃ next, tree.enter start name = .ok next ∧ tree.walk next names = .ok place := by
  rw [walk]
  cases tree.enter start name <;> simp

/-- The location that a way leads to is that of its spelling. -/
theorem eq_descend_of_walk {tree : FileTree} {names : List String} {start place : Location}
    (h : tree.walk start names = .ok place) : place = Path.descend start names := by
  induction names generalizing start with
  | nil => exact (Except.ok.inj h).symm
  | cons name names ih =>
    obtain ⟨next, henter, hrest⟩ := walk_cons_eq_ok_iff.mp h
    obtain ⟨-, -, -, rfl⟩ := enter_eq_ok_iff.mp henter
    rw [Path.descend]
    exact ih hrest

theorem reach_eq_ok_iff {tree : FileTree} {path : Path} {place : Location} :
    tree.reach path = .ok place ↔ path.isImpossible = false ∧ path.isTooLong = false ∧
      tree.walk (path.start tree.workingDirectory) path.names = .ok place := by
  unfold reach
  cases path.isImpossible <;> cases path.isTooLong <;> simp

theorem eq_location_of_reach {tree : FileTree} {path : Path} {place : Location}
    (h : tree.reach path = .ok place) : place = tree.location path :=
  eq_descend_of_walk (reach_eq_ok_iff.mp h).2.2

theorem find_eq_ok_iff {tree : FileTree} {path : Path} {node : FileNode} :
    tree.find path = .ok node ↔
      tree.reach path = .ok (tree.location path) ∧ tree.at? (tree.location path) = some node := by
  unfold find
  cases hreach : tree.reach path with
  | error obstacle => simp [bind, Except.bind]
  | ok place =>
    obtain rfl := eq_location_of_reach hreach
    simp only [bind, Except.bind, FileTree.node]
    cases tree.at? (tree.location path) <;> simp

/-- A way through directories can be gone in every tree that has these directories and forbids the same. -/
theorem walk_eq_of_directories {a b : FileTree} (hrestrictions : b.restrictions = a.restrictions)
    (h : ∀ place, a.at? place = some .directory → b.at? place = some .directory)
    {names : List String} {start place : Location} (hwalk : a.walk start names = .ok place) :
    b.walk start names = .ok place := by
  induction names generalizing start with
  | nil => exact hwalk
  | cons name names ih =>
    obtain ⟨next, henter, hrest⟩ := walk_cons_eq_ok_iff.mp hwalk
    obtain ⟨hdirectory, hopen, hshort, hnext⟩ := enter_eq_ok_iff.mp henter
    refine walk_cons_eq_ok_iff.mpr ⟨next, enter_eq_ok_iff.mpr ⟨h start hdirectory, ?_, hshort, hnext⟩,
      ih hrest⟩
    rw [hrestrictions]
    exact hopen

theorem reach_eq_of_directories {a b : FileTree} {path : Path} {place : Location}
    (hreach : a.reach path = .ok place) (hworking : b.workingDirectory = a.workingDirectory)
    (hrestrictions : b.restrictions = a.restrictions)
    (h : ∀ place, a.at? place = some .directory → b.at? place = some .directory) :
    b.reach path = .ok place := by
  obtain ⟨hpossible, hshort, hwalk⟩ := reach_eq_ok_iff.mp hreach
  refine reach_eq_ok_iff.mpr ⟨hpossible, hshort, ?_⟩
  rw [hworking]
  exact walk_eq_of_directories hrestrictions h hwalk

/-- Whether all files that differ between two trees are at given places. The working directory is the
same. -/
structure ChangesAt (P : Location → Prop) (before after : FileTree) : Prop where
  workingDirectory : after.workingDirectory = before.workingDirectory
  place : ∀ place, after.content? place ≠ before.content? place → P place

namespace ChangesAt

variable {P Q : Location → Prop} {a b c : FileTree}

theorem refl (a : FileTree) : ChangesAt P a a := ⟨rfl, fun _ h => absurd rfl h⟩

theorem trans (hab : ChangesAt P a b) (hbc : ChangesAt P b c) : ChangesAt P a c := by
  refine ⟨hbc.workingDirectory.trans hab.workingDirectory, fun place h => ?_⟩
  by_cases hb : b.content? place = a.content? place
  · exact hbc.place place (hb ▸ h)
  · exact hab.place place hb

theorem mono (h : ChangesAt P a b) (himp : ∀ place, P place → Q place) : ChangesAt Q a b :=
  ⟨h.workingDirectory, fun place hne => himp place (h.place place hne)⟩

end ChangesAt

/-- Whether two trees have the same files. -/
abbrev SameFiles : FileTree → FileTree → Prop := ChangesAt fun _ => False

theorem SameFiles.content_eq {a b : FileTree} (h : SameFiles a b) (place : Location) :
    b.content? place = a.content? place :=
  Classical.not_not.mp fun hne => h.place place hne

theorem sameFiles_of_content {a b : FileTree} (hdirectory : b.workingDirectory = a.workingDirectory)
    (h : ∀ place, b.content? place = a.content? place) : SameFiles a b :=
  ⟨hdirectory, fun place hne => hne (h place)⟩

end FileTree

open FileTree (SameFiles)

namespace FileAction

variable {α β : Type}

def after (x : FileAction α) (tree : FileTree) : FileTree :=
  match x.run tree with
  | .ok _ t => t
  | .error _ t => t

theorem run_tryCatch (x : FileAction α) (handler : FileFault → FileAction α) (tree : FileTree) :
    (tryCatch x handler).run tree = match x.run tree with
      | .ok a t => .ok a t
      | .error fault t => (handler fault).run t := by
  change EStateM.tryCatch x handler tree = _
  unfold EStateM.tryCatch EStateM.run
  cases x tree <;> rfl

/-- Whether an action changes no file. -/
structure KeepsFiles (x : FileAction α) : Prop where
  same : ∀ tree, SameFiles tree (x.after tree)

namespace KeepsFiles

theorem throw (fault : FileFault) : KeepsFiles (throw fault : FileAction α) := ⟨fun tree => .refl tree⟩

theorem bind {x : FileAction α} {f : α → FileAction β} (h : KeepsFiles x)
    (hnext : ∀ a, KeepsFiles (f a)) : KeepsFiles (x >>= f) := by
  refine ⟨fun tree => ?_⟩
  have hfirst := h.same tree
  unfold after at hfirst ⊢
  rw [EStateM.run_bind]
  cases hrun : x.run tree with
  | error fault t =>
    rw [hrun] at hfirst
    exact hfirst
  | ok a t =>
    rw [hrun] at hfirst
    exact hfirst.trans ((hnext a).same t)

theorem tryCatch {x : FileAction α} {f : FileFault → FileAction α} (h : KeepsFiles x)
    (hnext : ∀ fault, KeepsFiles (f fault)) : KeepsFiles (tryCatch x f) := by
  refine ⟨fun tree => ?_⟩
  have hfirst := h.same tree
  unfold after at hfirst ⊢
  rw [run_tryCatch]
  cases hrun : x.run tree with
  | error fault t =>
    rw [hrun] at hfirst
    exact hfirst.trans ((hnext fault).same t)
  | ok a t =>
    rw [hrun] at hfirst
    exact hfirst

/-- An action that looks at the tree first keeps its files if what follows keeps those of that tree. -/
theorem of_get {f : FileTree → FileAction α} (h : ∀ tree, SameFiles tree ((f tree).after tree)) :
    KeepsFiles (MonadState.get >>= f) := ⟨h⟩

end KeepsFiles

theorem makeDirectory_keepsFiles (path : Path) : KeepsFiles (makeDirectory path) := by
  refine .of_get fun tree => ?_
  cases tree.reach path with
  | error obstacle => exact .refl tree
  | ok place =>
    dsimp only
    split
    · exact .refl tree
    · rename_i hfree
      have hnone : tree.at? place = none := by
        rw [← Option.not_isSome_iff_eq_none]
        exact fun hsome => hfree (.inr (.inr hsome))
      exact FileTree.sameFiles_of_content rfl (FileTree.content?_set_directory hnone)

theorem toleratingDirectory_keepsFiles (path : Path) (fault : FileFault) :
    KeepsFiles (toleratingDirectory path fault) := by
  refine .of_get fun tree => ?_
  split <;> exact .refl tree

theorem makeDirectoriesFrom_keepsFiles (anchor : Anchor) (names : List String) :
    KeepsFiles (makeDirectoriesFrom anchor names) := by
  induction names with
  | nil => exact (makeDirectory_keepsFiles _).tryCatch fun _ => toleratingDirectory_keepsFiles ..
  | cons last above ih =>
    rw [makeDirectoriesFrom]
    refine (makeDirectory_keepsFiles _).tryCatch fun fault => ?_
    split
    · refine ih.bind fun _ => (makeDirectory_keepsFiles _).tryCatch fun fault => ?_
      split
      · exact .throw _
      · exact toleratingDirectory_keepsFiles ..
    · exact toleratingDirectory_keepsFiles ..

theorem makeDirectories_keepsFiles (path : Path) : KeepsFiles (makeDirectories path) :=
  makeDirectoriesFrom_keepsFiles ..

theorem run_createFile (path : Path) (bytes : List UInt8) (tree : FileTree) :
    match (createFile path bytes).run tree with
    | .ok place t => tree.at? place = none ∧ t = tree.set place (.file bytes)
    | .error _ t => t = tree := by
  simp only [createFile, EStateM.run_bind, EStateM.run_get]
  cases tree.reach path with
  | error obstacle => rfl
  | ok place =>
    dsimp only
    by_cases htaken : (tree.at? place).isSome
    · rw [if_pos htaken]
      rfl
    · rw [if_neg htaken]
      exact ⟨Option.not_isSome_iff_eq_none.mp htaken, rfl⟩

theorem run_createUnfinished (path : Path) (tokens : List String) (tree : FileTree) :
    match (createUnfinished path tokens).run tree with
    | .ok place t => tree.at? place = none ∧ t = tree.set place (.file [])
    | .error _ t => t = tree := by
  induction tokens with
  | nil => rfl
  | cons token rest ih =>
    have hcreated := run_createFile (unfinished path tree.workingDirectory token) [] tree
    simp only [createUnfinished, EStateM.run_bind, EStateM.run_get, run_tryCatch]
    cases hcreate : (createFile (unfinished path tree.workingDirectory token) []).run tree with
    | ok place t =>
      rw [hcreate] at hcreated
      exact hcreated
    | error fault t =>
      rw [hcreate] at hcreated
      obtain rfl : t = tree := hcreated
      cases fault with
      | «exists» path => exact ih
      | _ => rfl

theorem run_fillFile (place : Location) (writing : Writing) (tree : FileTree) :
    (fillFile place writing).run tree = match writing.fault with
      | none => .ok () (tree.set place (.file writing.bytes))
      | some fault => .error fault (tree.set place (.file writing.bytes)) := by
  simp only [fillFile]
  cases writing.fault <;> rfl

theorem run_moveFile (source : Location) (target : Path) (tree : FileTree) :
    match (moveFile source target).run tree with
    | .ok _ t => ∃ bytes, tree.at? source = some (.file bytes) ∧
        tree.at? (tree.location target) ≠ some .directory ∧
        tree.reach target = .ok (tree.location target) ∧
        t = (tree.erase source).set (tree.location target) (.file bytes)
    | .error _ t => t = tree := by
  simp only [moveFile, EStateM.run_bind, EStateM.run_get]
  cases tree.at? source with
  | none => rfl
  | some node =>
    cases node with
    | directory => rfl
    | file bytes =>
      dsimp only
      cases hreach : tree.reach target with
      | error obstacle => rfl
      | ok place =>
        obtain rfl := FileTree.eq_location_of_reach hreach
        dsimp only
        by_cases hdirectory : tree.at? (tree.location target) = some .directory
        · rw [if_pos hdirectory]
          rfl
        · rw [if_neg hdirectory]
          exact ⟨bytes, rfl, hdirectory, rfl, rfl⟩

/-- When a file has been moved to a path, the path leads to its content. -/
theorem find_of_moved {tree : FileTree} {source : Location} {target : Path} {bytes : List UInt8}
    (hsource : tree.at? source = some (.file bytes))
    (htarget : tree.at? (tree.location target) ≠ some .directory)
    (hreach : tree.reach target = .ok (tree.location target)) :
    ((tree.erase source).set (tree.location target) (.file bytes)).find target =
      .ok (.file bytes) := by
  have hne : tree.location target ≠ [] := fun hroot => htarget (by rw [hroot, FileTree.at?_nil])
  have hdirectories : ∀ place, tree.at? place = some .directory →
      ((tree.erase source).set (tree.location target) (.file bytes)).at? place =
        some .directory := by
    intro place hplace
    by_cases hroot : place = []
    · rw [hroot, FileTree.at?_nil]
    · have hnotTarget : place ≠ tree.location target := by
        rintro rfl
        exact htarget hplace
      have hnotSource : place ≠ source := by
        rintro rfl
        rw [hsource] at hplace
        cases hplace
      rw [FileTree.at?_set hne, if_neg hnotTarget, FileTree.at?_erase hroot, if_neg hnotSource, hplace]
  refine FileTree.find_eq_ok_iff.mpr ⟨?_, ?_⟩
  · exact FileTree.reach_eq_of_directories hreach rfl rfl hdirectories
  · exact (FileTree.at?_set hne).trans (if_pos rfl)

/-- A new file that is filled takes the place of the target, or it is removed again. -/
theorem run_fillFile_moveFile {tree : FileTree} {place : Location} (hfree : tree.at? place = none)
    (path : Path) (writing : Writing) :
    match (tryCatch (do fillFile place writing; moveFile place path) fun fault => do
        removeFile place
        throw fault : FileAction Unit).run (tree.set place (.file [])) with
    | .ok _ t => writing.fault = none ∧ t.workingDirectory = tree.workingDirectory ∧
        t.find path = .ok (.file writing.bytes) ∧ ∀ other, t.content? other =
          if other = tree.location path then some writing.bytes else tree.content? other
    | .error _ t => SameFiles tree t := by
  have hplace : place ≠ [] := by
    rintro rfl
    cases hfree
  simp only [run_tryCatch, EStateM.run_bind, run_fillFile, FileTree.set_set]
  -- The tree in which the new file is filled; without it, the files are those of the start.
  generalize hfilled : tree.set place (.file writing.bytes) = filled
  have hdirectory : filled.workingDirectory = tree.workingDirectory := by
    rw [← hfilled]
    rfl
  have hsource : filled.at? place = some (.file writing.bytes) := by
    rw [← hfilled, FileTree.at?_set hplace, if_pos rfl]
  have herased : SameFiles tree (filled.erase place) := by
    refine FileTree.sameFiles_of_content hdirectory fun other => ?_
    rw [FileTree.content?_erase, ← hfilled, FileTree.content?_set_file hplace]
    by_cases hother : other = place
    · rw [if_pos hother, hother, FileTree.content?_eq_none hfree]
    · rw [if_neg hother, if_neg hother]
  cases writing.fault with
  | some fault => exact herased
  | none =>
    dsimp only
    have hmoved := run_moveFile place path filled
    cases hmove : (moveFile place path).run filled with
    | error fault t =>
      rw [hmove] at hmoved
      exact hmoved ▸ herased
    | ok _ t =>
      rw [hmove] at hmoved
      obtain ⟨moved, hmovedSource, htarget, hreach, rfl⟩ := hmoved
      obtain rfl : writing.bytes = moved := by
        rw [hsource] at hmovedSource
        cases hmovedSource
        rfl
      have hlocation : filled.location path = tree.location path := congrArg path.location hdirectory
      have hne : filled.location path ≠ [] := fun hroot => htarget (by rw [hroot, FileTree.at?_nil])
      refine ⟨rfl, hdirectory, find_of_moved hsource htarget hreach, fun other => ?_⟩
      rw [FileTree.content?_set_file hne, herased.content_eq, hlocation]

/-- Writing a file as a whole gives the place of its path what is written, if the writing does not break
off, and changes no other file; if it fails, no file has changed. -/
theorem run_replaceWhole (tokens : List String) (path : Path) (writing : Writing) (tree : FileTree) :
    match (replaceWhole tokens path writing).run tree with
    | .ok _ t => writing.fault = none ∧ t.workingDirectory = tree.workingDirectory ∧
        t.find path = .ok (.file writing.bytes) ∧ ∀ other, t.content? other =
          if other = tree.location path then some writing.bytes else tree.content? other
    | .error _ t => SameFiles tree t := by
  have hmade := (makeDirectories_keepsFiles path.parent).same tree
  simp only [after] at hmade
  simp only [replaceWhole, EStateM.run_bind]
  cases hmake : (makeDirectories path.parent).run tree with
  | error fault t =>
    rw [hmake] at hmade
    exact hmade
  | ok _ t =>
    rw [hmake] at hmade
    dsimp only
    have hcreated := run_createUnfinished path tokens t
    cases hcreate : (createUnfinished path tokens).run t with
    | error fault u =>
      rw [hcreate] at hcreated
      exact hcreated ▸ hmade
    | ok place u =>
      rw [hcreate] at hcreated
      obtain ⟨hfree, rfl⟩ := hcreated
      have hfinished := run_fillFile_moveFile hfree path writing
      dsimp only
      split at hfinished
      · rename_i hrun
        obtain ⟨hfault, hdirectory, hfound, hcontent⟩ := hfinished
        rw [hrun]
        refine ⟨hfault, hdirectory.trans hmade.workingDirectory, hfound, fun other => ?_⟩
        have hlocation : t.location path = tree.location path :=
          congrArg path.location hmade.workingDirectory
        rw [hcontent, hlocation, hmade.content_eq]
      · rename_i hrun
        rw [hrun]
        exact hmade.trans hfinished

/-- Writing a file as a whole gives the place of its path the new content and changes no other file; if
it fails, no file has changed. -/
theorem run_writeWhole (tokens : List String) (path : Path) (bytes : List UInt8) (tree : FileTree) :
    match (writeWhole tokens path bytes).run tree with
    | .ok _ t => t.workingDirectory = tree.workingDirectory ∧
        ∀ other, t.content? other =
          if other = tree.location path then some bytes else tree.content? other
    | .error _ t => SameFiles tree t := by
  have hwhole := run_replaceWhole tokens path ⟨bytes, none⟩ tree
  unfold writeWhole
  cases hrun : (replaceWhole tokens path ⟨bytes, none⟩).run tree with
  | error fault t =>
    rw [hrun] at hwhole
    exact hwhole
  | ok _ t =>
    rw [hrun] at hwhole
    exact ⟨hwhole.2.1, hwhole.2.2.2⟩

end FileAction

end ResourceBundle
