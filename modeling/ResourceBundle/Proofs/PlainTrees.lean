import ResourceBundle.Lookup
import ResourceBundle.Proofs.WholeFiles

/-! # Trees without links

In a tree without links, every way is that of its file tree, and a path that can be resolved is resolved to
its location by its spelling. If all directories may be searched too, a path whose names are short enough
leads to something or to nothing; no question about it stays open. -/

namespace ResourceBundle

/-- Whether a file system takes a path: neither its text nor a name in it is too long. -/
structure Path.Fits (path : Path) : Prop where
  text : path.isTooLong = false
  names : ∀ name ∈ path.names, Path.isLongName name = false

namespace FileTree

theorem test_eq_error_iff {kind : FileNode → Bool} {path : Path} {found : Except Obstacle FileNode}
    {fault : FileFault} : test kind path found = .error fault ↔
      ∃ obstacle, found = .error obstacle ∧ obstacle.isAbsence = false ∧ fault = obstacle.fault path := by
  constructor
  · intro h
    cases found with
    | ok node => cases h
    | error obstacle =>
      rw [test] at h
      split at h
      · cases h
      · rename_i hopen
        exact ⟨obstacle, rfl, Bool.eq_false_iff.mpr hopen, (Except.error.inj h).symm⟩
  · rintro ⟨obstacle, rfl, hopen, rfl⟩
    rw [test, hopen]
    rfl

/-- A directory that may be searched is entered by a short name. -/
theorem enter_eq_error {tree : FileTree} {place : Location} {name : String} {obstacle : Obstacle}
    (h : tree.enter place name = .error obstacle) : obstacle = .missing ∨ obstacle = .notDirectory ∨
      obstacle = .unsearchable ∧ place ∈ tree.restrictions.unsearchable ∨
      obstacle = .tooLong ∧ Path.isLongName name = true := by
  unfold enter at h
  split at h
  · cases h
    exact .inl rfl
  · cases h
    exact .inr (.inl rfl)
  · split at h
    · rename_i hclosed
      cases h
      exact .inr (.inr (.inl ⟨rfl, List.contains_iff_mem.mp hclosed⟩))
    · split at h
      · rename_i hlong
        cases h
        exact .inr (.inr (.inr ⟨rfl, hlong⟩))
      · cases h

theorem walk_eq_error {tree : FileTree} {names : List String} {start : Location} {obstacle : Obstacle}
    (h : tree.walk start names = .error obstacle) :
    ∃ place, ∃ name ∈ names, tree.enter place name = .error obstacle := by
  induction names generalizing start with
  | nil => cases h
  | cons name names ih =>
    rw [walk] at h
    cases henter : tree.enter start name with
    | error other =>
      rw [henter] at h
      cases h
      exact ⟨start, name, List.mem_cons_self, henter⟩
    | ok next =>
      rw [henter] at h
      obtain ⟨place, later, hlater, hfails⟩ := ih h
      exact ⟨place, later, List.mem_cons_of_mem name hlater, hfails⟩

theorem walk_concat (tree : FileTree) (start : Location) (names : List String) (name : String) :
    tree.walk start (names ++ [name]) = (tree.walk start names).bind fun above => tree.enter above name := by
  induction names generalizing start with
  | nil =>
    rw [List.nil_append, walk]
    cases h : tree.enter start name <;> simp [walk, Except.bind, h]
  | cons first names ih =>
    rw [List.cons_append, walk, walk]
    cases tree.enter start first with
    | error obstacle => rfl
    | ok next => exact ih next

/-- Why nothing is found at a path. -/
theorem find_eq_error {tree : FileTree} {path : Path} {obstacle : Obstacle}
    (h : tree.find path = .error obstacle) :
    obstacle = .missing ∨ obstacle = .notDirectory ∨ obstacle = .nullCharacter ∧ path.isImpossible = true ∨
      obstacle = .unsearchable ∧ tree.restrictions.unsearchable ≠ [] ∨
      obstacle = .tooLong ∧ ¬path.Fits := by
  rw [find, reach] at h
  split at h
  · rename_i himpossible
    cases h
    exact .inr (.inr (.inl ⟨rfl, himpossible⟩))
  split at h
  · rename_i hlong
    cases h
    refine .inr (.inr (.inr (.inr ⟨rfl, fun hfits => ?_⟩)))
    cases hlong.symm.trans hfits.text
  cases hwalk : tree.walk (path.start tree.workingDirectory) path.names with
  | ok place =>
    rw [hwalk] at h
    simp only [bind, Except.bind, node] at h
    split at h <;> cases h
    exact .inl rfl
  | error other =>
    rw [hwalk] at h
    cases h
    obtain ⟨place, name, hname, henter⟩ := walk_eq_error hwalk
    rcases enter_eq_error henter with rfl | rfl | ⟨rfl, hplace⟩ | ⟨rfl, hlong⟩
    · exact .inl rfl
    · exact .inr (.inl rfl)
    · exact .inr (.inr (.inr (.inl ⟨rfl, List.ne_nil_of_mem hplace⟩)))
    · refine .inr (.inr (.inr (.inr ⟨rfl, fun hfits => ?_⟩)))
      cases hlong.symm.trans (hfits.names name hname)

end FileTree

namespace LinkedTree

open FileTree (Obstacle)

variable {tree : LinkedTree}

theorem walkNames_of_links_eq_nil (h : tree.links = [])
    (follow : Location → List String → Except Obstacle Location) (start : Location)
    (names : List String) : tree.walkNames follow start names = tree.toFileTree.walk start names := by
  induction names generalizing start with
  | nil => rfl
  | cons name names ih =>
    rw [walkNames, FileTree.walk]
    cases tree.enter start name with
    | error obstacle => rfl
    | ok next =>
      dsimp only
      rw [h]
      exact ih next

theorem walk_of_links_eq_nil (h : tree.links = []) (limit : Nat) (start : Location)
    (names : List String) : tree.walk limit start names = tree.toFileTree.walk start names := by
  cases limit <;> exact walkNames_of_links_eq_nil h ..

theorem find_of_links_eq_nil (h : tree.links = []) (path : Path) :
    tree.find path = tree.toFileTree.find path := by
  have hreach : tree.reach path = tree.toFileTree.reach path := by
    rw [reach, FileTree.reach, walk_of_links_eq_nil h]
  rw [find, FileTree.find, hreach]

/-- A question about a path that fits stays open only if a directory must not be searched. -/
theorem isAbsence_of_find (hlinks : tree.links = []) (hsearch : tree.restrictions.unsearchable = [])
    {path : Path} (hfits : path.Fits) {obstacle : Obstacle} (h : tree.find path = .error obstacle) :
    obstacle.isAbsence = true := by
  rw [find_of_links_eq_nil hlinks] at h
  rcases FileTree.find_eq_error h with rfl | rfl | ⟨rfl, -⟩ | ⟨rfl, hclosed⟩ | ⟨rfl, hlong⟩
  · rfl
  · rfl
  · rfl
  · exact absurd hsearch hclosed
  · exact absurd hfits hlong

theorem test_find_ne_error (hlinks : tree.links = []) (hsearch : tree.restrictions.unsearchable = [])
    {path : Path} (hfits : path.Fits) (kind : FileNode → Bool) (fault : FileFault) :
    FileTree.test kind path (tree.find path) ≠ .error fault := by
  intro h
  obtain ⟨obstacle, hfind, hopen, -⟩ := FileTree.test_eq_error_iff.mp h
  rw [isAbsence_of_find hlinks hsearch hfits hfind] at hopen
  cases hopen

/-- What is a directory has no null character in its path. -/
theorem isImpossible_of_isDirectory {path : Path} (h : tree.isDirectory path = .ok true) :
    path.isImpossible = false := by
  cases hpossible : path.isImpossible with
  | false => rfl
  | true =>
    rw [isDirectory, find, reach, hpossible] at h
    cases h

/-! ## Resolving a path -/

/-- A path without null characters that leads nowhere cannot be resolved for a reason of the file system. -/
theorem isSystem_of_find {path : Path} (hpossible : path.isImpossible = false) {obstacle : Obstacle}
    (h : tree.toFileTree.find path = .error obstacle) : (resolveFault path obstacle).isSystem = true := by
  rcases FileTree.find_eq_error h with rfl | rfl | ⟨-, himpossible⟩ | ⟨rfl, -⟩ | ⟨rfl, -⟩
  · rfl
  · rfl
  · cases hpossible.symm.trans himpossible
  · rfl
  · rfl

/-- In a tree without links, a path with one more name leads to no link. -/
theorem linkAt_child (h : tree.links = []) (path : Path) (name : String) :
    tree.linkAt (path.child name) = (tree.toFileTree.find (path.child name)).map fun _ => none := by
  have hnames : (path.child name).names = path.names ++ [name] := rfl
  have hname : (path.child name).name = name := by
    rw [Path.name, hnames, List.getLast?_concat]
    rfl
  rw [linkAt, FileTree.find, FileTree.reach, hnames, hname, List.dropLast_concat, FileTree.walk_concat,
    walk_of_links_eq_nil h]
  split
  · rfl
  split
  · rfl
  cases tree.toFileTree.walk ((path.child name).start tree.workingDirectory) path.names with
  | error obstacle => rfl
  | ok above =>
    simp only [bind, Except.bind]
    cases tree.enter above name with
    | error obstacle => rfl
    | ok place => simp only [h, List.lookup_nil]

/-- What is resolved in a tree without links is the location by the spelling. -/
theorem location_of_resolveNames (hlinks : tree.links = []) {strict : Bool}
    {follow : List Path → Path → List String → Except FileFault Path} {opened : List Path}
    {names : List String} {reached result : Path}
    (h : tree.resolveNames strict follow opened reached names = .ok result) (directory : Location) :
    result.location directory = Path.descend (reached.location directory) names := by
  induction names generalizing reached with
  | nil =>
    cases h
    rfl
  | cons name names ih =>
    rw [resolveNames] at h
    rw [Path.descend]
    by_cases hname : name = ".."
    · rw [if_pos hname] at h
      rw [if_pos hname, ← Path.location_above]
      exact ih h
    · rw [if_neg hname] at h
      rw [if_neg hname, ← Path.location_child hname]
      dsimp only at h
      rw [linkAt_child hlinks] at h
      cases hfind : tree.toFileTree.find (reached.child name) with
      | ok node =>
        rw [hfind] at h
        exact ih h
      | error obstacle =>
        rw [hfind] at h
        cases strict with
        | true => cases h
        | false => exact ih h

/-- A path without null characters is resolved, or an obstacle of the tree is in the way. -/
theorem isSystem_of_resolveNames (hlinks : tree.links = []) {strict : Bool}
    {follow : List Path → Path → List String → Except FileFault Path} {opened : List Path}
    {names : List String} {reached : Path} {fault : FileFault}
    (hreached : reached.isImpossible = false) (hnames : ∀ name ∈ names, '\x00' ∉ name.toList)
    (h : tree.resolveNames strict follow opened reached names = .error fault) :
    fault.isSystem = true := by
  induction names generalizing reached with
  | nil => cases h
  | cons name names ih =>
    obtain ⟨hname, hrest⟩ := List.forall_mem_cons.mp hnames
    have hchild : (reached.child name).isImpossible = false := by
      simpa [Path.isImpossible, Path.child, hname] using hreached
    rw [resolveNames] at h
    by_cases hup : name = ".."
    · rw [if_pos hup] at h
      exact ih (Path.isImpossible_above hreached) hrest h
    · rw [if_neg hup] at h
      dsimp only at h
      rw [linkAt_child hlinks] at h
      cases hfind : tree.toFileTree.find (reached.child name) with
      | ok node =>
        rw [hfind] at h
        exact ih hchild hrest h
      | error obstacle =>
        rw [hfind] at h
        cases strict with
        | true =>
          cases h
          exact isSystem_of_find hchild hfind
        | false => exact ih hchild hrest h

theorem resolveFrom_cases (strict : Bool) (nesting : Nat) :
    ∃ follow, tree.resolveFrom strict nesting = tree.resolveNames strict follow := by
  cases nesting <;> exact ⟨_, rfl⟩

theorem resolve_eq_location (hlinks : tree.links = []) {strict : Bool} {path : Path} {place : Location}
    (h : tree.resolve strict path = .ok place) : place = tree.location path := by
  rw [resolve] at h
  split at h
  · cases h
  obtain ⟨follow, hfollow⟩ := tree.resolveFrom_cases strict tree.nesting
  rw [hfollow] at h
  cases hrun : tree.resolveNames strict follow [] (path.base ⟨.here, []⟩) path.names with
  | error fault =>
    rw [hrun] at h
    cases h
  | ok result =>
    rw [hrun] at h
    cases h
    exact (location_of_resolveNames hlinks hrun _).trans (by rw [Path.location_base]; rfl)

theorem isSystem_of_resolve (hlinks : tree.links = []) {strict : Bool} {path : Path}
    {fault : FileFault} (hpossible : path.isImpossible = false)
    (h : tree.resolve strict path = .error fault) : fault.isSystem = true := by
  rw [resolve] at h
  split at h
  · cases h
    rfl
  obtain ⟨follow, hfollow⟩ := tree.resolveFrom_cases strict tree.nesting
  rw [hfollow] at h
  cases hrun : tree.resolveNames strict follow [] (path.base ⟨.here, []⟩) path.names with
  | error other =>
    rw [hrun] at h
    cases h
    refine isSystem_of_resolveNames hlinks (Path.isImpossible_base path) ?_ hrun
    simpa [Path.isImpossible] using hpossible
  | ok result =>
    rw [hrun] at h
    cases h

end LinkedTree

end ResourceBundle
