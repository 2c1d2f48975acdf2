import Mathlib.Data.List.Basic
import ResourceBundle.Proofs.ActionRuns
import ResourceBundle.Proofs.PlainTrees

/-! # The order of the search for additional texts

The search goes through its candidates in order, the folders that have a name and then the source roots,
and ends with the first one that decides. A folder without a file that may be read is passed over; a source
root is passed over only if it has no such file, and one that must not be read ends the search. A candidate
that the file system does not answer for ends the search too, so a folder with a name that is too long keeps
the texts in the source roots from being found. -/

namespace ResourceBundle

variable {σ : Type}

def Action.outcome {α : Type} (action : Action σ α) (s : Session σ) : Except Failure α :=
  match action.run s with
  | .ok a _ => .ok a
  | .error failure _ => .error failure

namespace Lookup

/-- Something in which additional texts may be found. -/
inductive Candidate where
  | folder (name : String)
  | root (path : Path)
deriving DecidableEq, Repr

/-- The folder that is given, if there is one and it has a name. -/
def folders (given : Option String) : List Candidate :=
  (given.toList.filter (· ≠ "")).map .folder

theorem folders_some {name : String} (h : name ≠ "") : folders (some name) = [.folder name] := by
  simp [folders, h]

/-- The candidates in order: the folder that a round names, the one that is configured, and the source
roots. -/
def candidates (places : Places) (provided : Option String) : List Candidate :=
  folders provided ++ folders places.configured ++ places.sourceRoots.map .root

theorem isImpossible_textFile {folder : Path} (h : folder.isImpossible = false) :
    (textFile folder).isImpossible = false := by
  have hnames : (textFile folder).names = folder.names ++ ["AdditionalTexts.xml"] := rfl
  rw [Path.isImpossible, List.any_eq_false] at h ⊢
  rw [hnames]
  intro name hname
  rcases List.mem_append.mp hname with hfolder | hfile
  · exact h name hfolder
  · rw [List.mem_singleton.mp hfile]
    decide

namespace Candidate

/-- Whether a candidate gives a file. A folder does if it is a directory in which the file can be
resolved to a file that may be read; a source root does if the file in it may be read. -/
inductive Hits (files : LinkedTree) (homes : Homes) : Candidate → Path → Prop
  | folder {name : String} {directory : Path} {place : Location} :
      (Path.ofString name).expandHome homes = .ok directory → files.isDirectory directory = .ok true →
      files.resolve true (textFile directory) = .ok place →
      files.isFile (Location.path place) = .ok true → files.isReadable (Location.path place) = true →
      Hits files homes (.folder name) (Location.path place)
  | root {path : Path} : files.isFile (textFile path) = .ok true →
      files.isReadable (textFile path) = true → Hits files homes (.root path) (textFile path)

/-- Whether a candidate ends the search with a failure on purpose: a source root with a file that must not
be read. -/
inductive Bars (files : LinkedTree) : Candidate → Failure → Prop
  | root {path : Path} : files.isFile (textFile path) = .ok true →
      files.isReadable (textFile path) = false →
      Bars files (.root path) (.inaccessibleTexts (textFile path).text)

/-- Whether a candidate breaks the search off, because a question about it stays open: its home directory
is not known, the file system refuses to look at it, or a link in it leads back to itself. -/
inductive Breaks (files : LinkedTree) (homes : Homes) : Candidate → Failure → Prop
  | home {name : String} {failure : Failure} :
      (Path.ofString name).expandHome homes = .error failure → Breaks files homes (.folder name) failure
  | folder {name : String} {directory : Path} {fault : FileFault} :
      (Path.ofString name).expandHome homes = .ok directory → files.isDirectory directory = .error fault →
      Breaks files homes (.folder name) fault.failure
  | link {name : String} {directory : Path} {fault : FileFault} :
      (Path.ofString name).expandHome homes = .ok directory → files.isDirectory directory = .ok true →
      files.resolve true (textFile directory) = .error fault → fault.isSystem = false →
      Breaks files homes (.folder name) fault.failure
  | file {name : String} {directory : Path} {place : Location} {fault : FileFault} :
      (Path.ofString name).expandHome homes = .ok directory → files.isDirectory directory = .ok true →
      files.resolve true (textFile directory) = .ok place →
      files.isFile (Location.path place) = .error fault → Breaks files homes (.folder name) fault.failure
  | root {path : Path} {fault : FileFault} : files.isFile (textFile path) = .error fault →
      Breaks files homes (.root path) fault.failure

/-- Whether a candidate is passed over: a folder that gives no file and does not break the search off, or
a source root without the file. -/
def IsSkipped (files : LinkedTree) (homes : Homes) : Candidate → Prop
  | .folder name => (∀ found, ¬Hits files homes (.folder name) found) ∧
      ∀ failure, ¬Breaks files homes (.folder name) failure
  | .root path => files.isFile (textFile path) = .ok false

/-- Whether the file in a source root may be followed to its location. -/
def IsTraced (files : LinkedTree) : Candidate → Prop
  | .folder _ => True
  | .root path => ∃ place, files.resolve false (textFile path) = .ok place

/-- How a candidate decides the search, if it does. -/
def verdict? (files : LinkedTree) (homes : Homes) : Candidate → Option (Except Failure Path)
  | .folder name =>
    match (Path.ofString name).expandHome homes with
    | .error failure => some (.error failure)
    | .ok directory =>
      match files.isDirectory directory with
      | .error fault => some (.error fault.failure)
      | .ok false => none
      | .ok true =>
        match files.resolve true (textFile directory) with
        | .error fault => if fault.isSystem then none else some (.error fault.failure)
        | .ok place =>
          match files.isFile (Location.path place) with
          | .error fault => some (.error fault.failure)
          | .ok isFile =>
            if isFile && files.isReadable (Location.path place) then some (.ok (Location.path place))
            else none
  | .root path =>
    match files.isFile (textFile path) with
    | .error fault => some (.error fault.failure)
    | .ok false => none
    | .ok true =>
      if files.isReadable (textFile path) then
        match files.resolve false (textFile path) with
        | .error fault => some (.error fault.failure)
        | .ok _ => some (.ok (textFile path))
      else some (.error (.inaccessibleTexts (textFile path).text))

variable {files : LinkedTree} {homes : Homes} {c : Candidate}

theorem Hits.verdict {found : Path} (h : c.Hits files homes found) (htraced : c.IsTraced files) :
    c.verdict? files homes = some (.ok found) := by
  cases h with
  | folder hexpands hdirectory hplace hfile hreadable =>
    simp [verdict?, hexpands, hdirectory, hplace, hfile, hreadable]
  | root hfile hreadable =>
    obtain ⟨place, hplace⟩ := htraced
    simp [verdict?, hfile, hreadable, hplace]

theorem Bars.verdict {failure : Failure} (h : c.Bars files failure) :
    c.verdict? files homes = some (.error failure) := by
  cases h with
  | root hfile hreadable => simp [verdict?, hfile, hreadable]

theorem Breaks.verdict {failure : Failure} (h : c.Breaks files homes failure) :
    c.verdict? files homes = some (.error failure) := by
  cases h with
  | home hunknown => simp [verdict?, hunknown]
  | folder hexpands hopen => simp [verdict?, hexpands, hopen]
  | link hexpands hdirectory hloops hfault => simp [verdict?, hexpands, hdirectory, hloops, hfault]
  | file hexpands hdirectory hplace hopen => simp [verdict?, hexpands, hdirectory, hplace, hopen]
  | root hopen => simp [verdict?, hopen]

/-- A folder that decides the search gives a file or breaks the search off. -/
theorem folder_of_verdict {name : String} {verdict : Except Failure Path}
    (h : (folder name).verdict? files homes = some verdict) :
    match verdict with
    | .ok found => (folder name).Hits files homes found
    | .error failure => (folder name).Breaks files homes failure := by
  rw [verdict?] at h
  split at h
  · rename_i hunknown
    cases h
    exact .home hunknown
  rename_i directory hexpands
  split at h
  · rename_i hopen
    cases h
    exact .folder hexpands hopen
  · cases h
  rename_i hdirectory
  split at h
  · rename_i fault hfault
    split at h
    · cases h
    · rename_i hloops
      cases h
      exact .link hexpands hdirectory hfault (Bool.eq_false_iff.mpr hloops)
  rename_i place hplace
  split at h
  · rename_i hopen
    cases h
    exact .file hexpands hdirectory hplace hopen
  rename_i answer hfile
  split at h
  · rename_i hgood
    cases h
    obtain ⟨rfl, hreadable⟩ := Bool.and_eq_true_iff.mp hgood
    exact .folder hexpands hdirectory hplace hfile hreadable
  · cases h

/-- A source root that decides the search gives its file, must not be read or breaks the search off. -/
theorem root_of_verdict {path : Path} (htraced : (root path).IsTraced files)
    {verdict : Except Failure Path} (h : (root path).verdict? files homes = some verdict) :
    match verdict with
    | .ok found => (root path).Hits files homes found
    | .error failure => (root path).Breaks files homes failure ∨ (root path).Bars files failure := by
  obtain ⟨place, hplace⟩ := htraced
  rw [verdict?] at h
  split at h
  · rename_i hopen
    cases h
    exact .inl (.root hopen)
  · cases h
  rename_i hfile
  split at h
  · rename_i hreadable
    rw [hplace] at h
    cases h
    exact .root hfile hreadable
  · rename_i hunreadable
    cases h
    exact .inr (.root hfile (Bool.eq_false_iff.mpr hunreadable))

theorem verdict?_eq_ok_iff (htraced : c.IsTraced files) {found : Path} :
    c.verdict? files homes = some (.ok found) ↔ c.Hits files homes found := by
  constructor
  · intro h
    cases c with
    | folder name => exact folder_of_verdict h
    | root path => exact root_of_verdict htraced h
  · exact fun h => h.verdict htraced

/-- A candidate ends the search with a failure exactly if it breaks the search off or bars it. -/
theorem verdict?_eq_error_iff (htraced : c.IsTraced files) {failure : Failure} :
    c.verdict? files homes = some (.error failure) ↔
      c.Breaks files homes failure ∨ c.Bars files failure := by
  constructor
  · intro h
    cases c with
    | folder name => exact .inl (folder_of_verdict h)
    | root path => exact root_of_verdict htraced h
  · rintro (hbreaks | hbars)
    · exact hbreaks.verdict
    · exact hbars.verdict

/-- A candidate leaves the search to the next one exactly if it is passed over. -/
theorem verdict?_eq_none_iff : c.verdict? files homes = none ↔ c.IsSkipped files homes := by
  cases c with
  | folder name =>
    have htraced : (folder name).IsTraced files := trivial
    constructor
    · intro h
      constructor
      · intro found hhits
        rw [hhits.verdict htraced] at h
        cases h
      · intro failure hbreaks
        rw [hbreaks.verdict] at h
        cases h
    · rintro ⟨hmisses, hholds⟩
      cases h : (folder name).verdict? files homes with
      | none => rfl
      | some verdict =>
        cases verdict with
        | ok found => exact absurd (folder_of_verdict h) (hmisses found)
        | error failure => exact absurd (folder_of_verdict h) (hholds failure)
  | root path =>
    have hskipped : (root path).IsSkipped files homes ↔ files.isFile (textFile path) = .ok false :=
      Iff.rfl
    rw [hskipped, verdict?]
    cases hfile : files.isFile (textFile path) with
    | error fault => simp
    | ok answer =>
      cases answer with
      | false => simp
      | true =>
        simp only [Except.ok.injEq, Bool.true_eq_false, iff_false]
        split
        · split <;> simp
        · simp

/-- A folder of the working directory breaks the search off if its name is too long. -/
theorem breaks_of_isLongName {name : String} (hpath : Path.ofString name = ⟨.here, [name]⟩)
    (htilde : ¬(Path.ofString name).HasTilde) (hpossible : (Path.ofString name).isImpossible = false)
    (hlong : Path.isLongName name = true) (hdirectory : files.at? files.workingDirectory = some .directory)
    (hsearch : files.workingDirectory ∉ files.restrictions.unsearchable) :
    (folder name).Breaks files homes (.overlongPath (FileFault.tooLong name).message) := by
  rw [hpath] at hpossible
  have henter : files.enter files.workingDirectory name = .error .tooLong := by
    simp [FileTree.enter, hdirectory, hsearch, hlong]
  have hfind : files.find ⟨.here, [name]⟩ = .error .tooLong := by
    rw [LinkedTree.find, LinkedTree.reach, hpossible]
    simp only [Bool.false_eq_true, if_false]
    split
    · rfl
    · rw [LinkedTree.linkLimit, LinkedTree.walk, LinkedTree.walkNames, Path.start, henter]
      rfl
  have hopen : files.isDirectory ⟨.here, [name]⟩ = .error (.tooLong name) := by
    have htext : Path.text ⟨.here, [name]⟩ = name := by simp [Path.text, Anchor.text]
    rw [LinkedTree.isDirectory, hfind, FileTree.test, FileTree.Obstacle.fault, htext]
    rfl
  exact .folder ((Path.expandHome_eq_self homes htilde).trans (congrArg _ hpath)) hopen

/-! ### Trees in which nothing breaks the search off -/

/-- Whether the name of a folder stands for a path: a tilde at its start can be replaced. -/
def Expands (homes : Homes) : Candidate → Prop
  | .folder name => ∃ directory, (Path.ofString name).expandHome homes = .ok directory
  | .root _ => True

/-- Whether a file system takes the paths that are looked at for a candidate. -/
def Fits (files : LinkedTree) (homes : Homes) : Candidate → Prop
  | .folder name => ∀ directory, (Path.ofString name).expandHome homes = .ok directory →
      directory.Fits ∧ (Location.path (files.location (textFile directory))).Fits
  | .root path => (textFile path).Fits

/-- In a tree without links whose directories may be searched, no candidate breaks the search off that
stands for paths of no excessive length. -/
theorem not_breaks (hlinks : files.links = []) (hsearch : files.restrictions.unsearchable = [])
    (hexpands : c.Expands homes) (hfits : c.Fits files homes) (failure : Failure) :
    ¬c.Breaks files homes failure := by
  intro h
  cases h with
  | home hunknown =>
    obtain ⟨directory, hdirectory⟩ := hexpands
    cases hunknown.symm.trans hdirectory
  | folder hdirectory hopen =>
    exact LinkedTree.test_find_ne_error hlinks hsearch (hfits _ hdirectory).1 _ _ hopen
  | link hdirectory hfound hfault hloops =>
    have hpossible := isImpossible_textFile (LinkedTree.isImpossible_of_isDirectory hfound)
    rw [LinkedTree.isSystem_of_resolve hlinks hpossible hfault] at hloops
    cases hloops
  | file hdirectory hfound hplace hopen =>
    have hfile := (hfits _ hdirectory).2
    rw [← LinkedTree.resolve_eq_location hlinks hplace] at hfile
    exact LinkedTree.test_find_ne_error hlinks hsearch hfile _ _ hopen
  | root hopen => exact LinkedTree.test_find_ne_error hlinks hsearch hfits _ _ hopen

end Candidate

def conclusion : Option (Except Failure Path) → Except Failure (Option Path)
  | none => .ok none
  | some (.ok found) => .ok (some found)
  | some (.error failure) => .error failure

def Concludes (action : Action σ (Option Path)) (verdict : Option (Except Failure Path)) : Prop :=
  ∀ s, action.outcome s = conclusion verdict

/-- A search that goes on if nothing was found ends with the first verdict. -/
theorem Concludes.orElse {first next : Action σ (Option Path)} {v w : Option (Except Failure Path)}
    (h : Concludes first v) (hnext : Concludes next w) :
    Concludes (do
      match ← first with
      | some path => pure (some path)
      | none => next) (v.or w) := by
  intro s
  have hfirst := h s
  unfold Action.outcome at hfirst ⊢
  rw [EStateM.run_bind]
  cases hrun : first.run s with
  | error failure t =>
    rw [hrun] at hfirst
    match v, hfirst with
    | some (.error _), hfirst =>
      cases hfirst
      rfl
  | ok found t =>
    rw [hrun] at hfirst
    match v, found, hfirst with
    | none, none, _ => exact hnext t
    | some (.ok path), some _, hfirst =>
      cases hfirst
      rfl

theorem answer_ok_bind {α β : Type} (a : α) (next : α → Action σ β) :
    answer (.ok a) >>= next = next a := rfl

theorem answer_error_bind {α β : Type} (fault : FileFault) (next : α → Action σ β) :
    answer (.error fault) >>= next = throw fault.failure := rfl

theorem concludes_throw (failure : Failure) :
    Concludes (throw failure : Action σ _) (some (.error failure)) := fun _ => rfl

theorem concludes_inFolder (files : LinkedTree) (homes : Homes) (name source : String) :
    Concludes (inFolder files homes name source : Action σ _)
      (Candidate.verdict? files homes (.folder name)) := by
  unfold inFolder
  rw [Candidate.verdict?]
  cases (Path.ofString name).expandHome homes with
  | error failure => exact concludes_throw failure
  | ok directory =>
    dsimp only
    change Concludes (answer (files.isDirectory directory) >>= _) _
    cases files.isDirectory directory with
    | error fault =>
      rw [answer_error_bind]
      exact concludes_throw _
    | ok found =>
      rw [answer_ok_bind]
      cases found with
      | false => exact fun _ => rfl
      | true =>
        simp only [Bool.not_true, Bool.false_eq_true, if_false]
        cases files.resolve true (textFile directory) with
        | error fault => cases fault <;> exact fun _ => rfl
        | ok place =>
          dsimp only
          cases files.isFile (Location.path place) with
          | error fault =>
            rw [answer_error_bind]
            exact concludes_throw _
          | ok isFile =>
            rw [answer_ok_bind]
            intro s
            dsimp only
            cases isFile && files.isReadable (Location.path place) <;> rfl

theorem concludes_inFolder? (files : LinkedTree) (homes : Homes) (given : Option String)
    (source : String) :
    Concludes (inFolder? files homes given source : Action σ _)
      ((folders given).findSome? (Candidate.verdict? files homes)) := by
  cases given with
  | none => exact fun _ => rfl
  | some name =>
    rw [inFolder?]
    by_cases hname : name = ""
    · rw [if_pos hname, hname]
      exact fun _ => rfl
    · rw [if_neg hname, folders_some hname, List.findSome?_singleton]
      exact concludes_inFolder files homes name source

theorem concludes_inRoots (files : LinkedTree) (homes : Homes) (roots : List Path) :
    Concludes (inRoots files roots : Action σ _)
      ((roots.map .root).findSome? (Candidate.verdict? files homes)) := by
  induction roots with
  | nil => exact fun _ => rfl
  | cons root rest ih =>
    rw [List.map_cons, List.findSome?_cons, Candidate.verdict?, inRoots]
    cases files.isFile (textFile root) with
    | error fault =>
      rw [answer_error_bind]
      exact concludes_throw _
    | ok found =>
      rw [answer_ok_bind]
      cases found with
      | false => exact ih
      | true =>
        simp only [Bool.not_true, Bool.false_eq_true, if_false]
        cases files.isReadable (textFile root) with
        | false => exact fun _ => rfl
        | true => cases files.resolve false (textFile root) <;> exact fun _ => rfl

/-- The search ends as the first candidate says that decides it. -/
theorem concludes_locate (files : LinkedTree) (places : Places) (provided : Option String) :
    Concludes (locate files places provided : Action σ _)
      ((candidates places provided).findSome? (Candidate.verdict? files places.homes)) := by
  rw [candidates, List.findSome?_append, List.findSome?_append, Option.or_assoc]
  refine Concludes.orElse (concludes_inFolder? _ _ _ _) (Concludes.orElse ?_ ?_)
  · exact concludes_inFolder? files places.homes places.configured _
  · exact concludes_inRoots files places.homes places.sourceRoots

/-- Once the first candidates have decided the search, it does not get to those after them. -/
theorem outcome_locate_of_first {files : LinkedTree} {places : Places} {provided : Option String}
    {first later : List Candidate} (hcandidates : candidates places provided = first ++ later)
    {verdict : Except Failure Path}
    (hverdict : first.findSome? (Candidate.verdict? files places.homes) = some verdict)
    (s : Session σ) : (locate files places provided).outcome s = conclusion (some verdict) := by
  rw [concludes_locate, hcandidates, List.findSome?_append, hverdict, Option.some_or]

/-- How the search through a list of candidates ends: a candidate that is passed over leaves the end to
those after it, and the first one that is not passed over decides it. -/
inductive Decided (files : LinkedTree) (homes : Homes) :
    List Candidate → Except Failure (Option Path) → Prop
  | exhausted : Decided files homes [] (.ok none)
  | skipped {c : Candidate} {later : List Candidate} {result : Except Failure (Option Path)} :
      c.IsSkipped files homes → Decided files homes later result →
      Decided files homes (c :: later) result
  | hit {c : Candidate} {later : List Candidate} {found : Path} :
      c.Hits files homes found → Decided files homes (c :: later) (.ok (some found))
  | barred {c : Candidate} {later : List Candidate} {failure : Failure} :
      c.Bars files failure → Decided files homes (c :: later) (.error failure)
  | broken {c : Candidate} {later : List Candidate} {failure : Failure} :
      c.Breaks files homes failure → Decided files homes (c :: later) (.error failure)

variable {files : LinkedTree} {homes : Homes}

theorem decided_iff {cs : List Candidate} (htraced : ∀ c ∈ cs, c.IsTraced files)
    {result : Except Failure (Option Path)} :
    Decided files homes cs result ↔
      conclusion (cs.findSome? (Candidate.verdict? files homes)) = result := by
  induction cs with
  | nil =>
    constructor
    · rintro ⟨⟩
      rfl
    · rintro rfl
      exact .exhausted
  | cons c later ih =>
    obtain ⟨htrace, hlater⟩ := List.forall_mem_cons.mp htraced
    rw [List.findSome?_cons]
    constructor
    · intro h
      cases h with
      | skipped hskipped hrest =>
        rw [Candidate.verdict?_eq_none_iff.mpr hskipped]
        exact (ih hlater).mp hrest
      | hit hhits => rw [hhits.verdict htrace]; rfl
      | barred hbars => rw [hbars.verdict]; rfl
      | broken hbreaks => rw [hbreaks.verdict]; rfl
    · intro h
      cases hverdict : c.verdict? files homes with
      | none =>
        rw [hverdict] at h
        exact .skipped (Candidate.verdict?_eq_none_iff.mp hverdict) ((ih hlater).mpr h)
      | some verdict =>
        rw [hverdict] at h
        subst h
        cases verdict with
        | ok found => exact .hit ((Candidate.verdict?_eq_ok_iff htrace).mp hverdict)
        | error failure =>
          rcases (Candidate.verdict?_eq_error_iff htrace).mp hverdict with hbreaks | hbars
          · exact .broken hbreaks
          · exact .barred hbars

/-- If the files in the source roots may be followed, the search ends as the first candidate decides that
is not passed over. Whatever comes after that candidate does not matter, neither the further candidates nor
what is in them. No candidate breaks the search off in a tree without links whose directories may be
searched, if the names of all folders stand for paths and no path is too long. -/
theorem locate_decided (files : LinkedTree) (places : Places) (provided : Option String)
    (htraced : ∀ c ∈ candidates places provided, c.IsTraced files) (s : Session σ) :
    (∀ result, (locate files places provided).outcome s = result ↔
      Decided files places.homes (candidates places provided) result) ∧
    (∀ earlier c later, candidates places provided = earlier ++ c :: later →
      ¬c.IsSkipped files places.homes →
      ∀ (others : LinkedTree) (places' : Places) (provided' : Option String) (later' : List Candidate),
        candidates places' provided' = earlier ++ c :: later' →
        (∀ e ∈ earlier ++ [c],
          e.verdict? others places'.homes = e.verdict? files places.homes) →
        (locate others places' provided').outcome s = (locate files places provided).outcome s) ∧
    (files.links = [] → files.restrictions.unsearchable = [] →
      ∀ c : Candidate, c.Expands places.homes → c.Fits files places.homes →
        ∀ failure, ¬c.Breaks files places.homes failure) := by
  refine ⟨?_, ?_, fun hlinks hsearch c => Candidate.not_breaks hlinks hsearch⟩
  · intro result
    rw [concludes_locate, decided_iff htraced]
  · intro earlier c later hcandidates hdecides others places' provided' later' hcandidates' hsame
    -- The candidates up to `c` end both searches, with the same verdict.
    have hdecided : c.verdict? files places.homes ≠ none :=
      fun hnone => hdecides (Candidate.verdict?_eq_none_iff.mp hnone)
    obtain ⟨verdict, hverdict⟩ : ∃ verdict,
        (earlier ++ [c]).findSome? (Candidate.verdict? files places.homes) = some verdict := by
      rw [← Option.isSome_iff_exists, List.findSome?_isSome_iff]
      exact ⟨c, List.mem_append_right earlier List.mem_cons_self, Option.isSome_iff_ne_none.mpr hdecided⟩
    have hverdict' :
        (earlier ++ [c]).findSome? (Candidate.verdict? others places'.homes) = some verdict := by
      rw [← hverdict, ← List.head?_filterMap, ← List.head?_filterMap, List.filterMap_congr hsame]
    rw [outcome_locate_of_first (hcandidates'.trans (List.append_cons ..)) hverdict',
      outcome_locate_of_first (hcandidates.trans (List.append_cons ..)) hverdict]

def textTree : LinkedTree where
  nodes := [(["texts"], .directory), (["texts", "AdditionalTexts.xml"], .file [1]), (["a"], .directory),
    (["b"], .directory), (["b", "AdditionalTexts.xml"], .file [2]), (["round"], .directory)]
  workingDirectory := []
  restrictions := ⟨[["texts", "AdditionalTexts.xml"]], [], [], []⟩
  links := [(["round", "AdditionalTexts.xml"], ⟨.here, ["AdditionalTexts.xml"]⟩)]
  nesting := 1

def textPlaces : Places := ⟨⟨none, []⟩, some "texts", [⟨.here, ["a"]⟩, ⟨.here, ["b"]⟩]⟩

theorem locate_decided_second_root :
    (locate textTree textPlaces (some "gone")).outcome (⟨(), []⟩ : Session Unit) =
      .ok (some ⟨.here, ["b", "AdditionalTexts.xml"]⟩) ∧
    (locate textTree { textPlaces with sourceRoots := textPlaces.sourceRoots ++ [⟨.here, ["round"]⟩] }
        (some "gone")).outcome (⟨(), []⟩ : Session Unit) =
      (locate textTree textPlaces (some "gone")).outcome ⟨(), []⟩ := by
  have hcandidates : candidates textPlaces (some "gone") =
      [.folder "gone", .folder "texts", .root ⟨.here, ["a"]⟩] ++ .root ⟨.here, ["b"]⟩ :: [] := by
    decide +kernel
  have htraced : ∀ c ∈ candidates textPlaces (some "gone"), c.IsTraced textTree := by
    rw [hcandidates]
    simp only [List.cons_append, List.nil_append, List.forall_mem_cons]
    exact ⟨trivial, trivial, ⟨["a", "AdditionalTexts.xml"], by decide +kernel⟩,
      ⟨["b", "AdditionalTexts.xml"], by decide +kernel⟩, nofun⟩
  obtain ⟨hdecided, hlater, -⟩ := locate_decided textTree textPlaces (some "gone") htraced ⟨(), []⟩
  constructor
  · rw [hdecided, hcandidates]
    apply Decided.skipped (Candidate.verdict?_eq_none_iff.mp (by decide +kernel))
    apply Decided.skipped (Candidate.verdict?_eq_none_iff.mp (by decide +kernel))
    apply Decided.skipped (Candidate.verdict?_eq_none_iff.mp (by decide +kernel))
    exact .hit (.root (by decide +kernel) (by decide +kernel))
  · have hdecides : ¬(Candidate.root ⟨.here, ["b"]⟩).IsSkipped textTree textPlaces.homes := by
      rw [← Candidate.verdict?_eq_none_iff]
      decide +kernel
    exact hlater _ _ _ hcandidates hdecides _ _ _ [.root ⟨.here, ["round"]⟩] (by decide +kernel)
      fun _ _ => rfl

def rootTree : LinkedTree := FileTree.unlinked
  { nodes := [(["src"], .directory), (["src", "AdditionalTexts.xml"], .file [1])]
    workingDirectory := []
    restrictions := .none }

def letters (n : Nat) : String := String.ofList (List.replicate n 'a')

theorem mem_letters_iff {n : Nat} (h : n ≠ 0) {c : Char} : c ∈ (letters n).toList ↔ c = 'a' := by
  rw [letters, String.toList_ofList, List.mem_replicate]
  exact and_iff_right h

theorem isLongName_letters (n : Nat) : Path.isLongName (letters n) = decide (255 < n) := by
  have hlength : (Text.Utf8.encode (List.replicate n 'a')).length = n := by
    induction n with
    | zero => rfl
    | succ n ih =>
      change (Text.Utf8.encodeChar 'a' ++ Text.Utf8.encode (List.replicate n 'a')).length = n + 1
      rw [List.length_append, ih]
      exact Nat.add_comm 1 n
  rw [Path.isLongName, letters, String.toList_ofList, hlength]

/-- A name of one byte more than a file system takes. -/
def longName : String := letters 256

theorem mem_longName_iff {c : Char} : c ∈ longName.toList ↔ c = 'a' := mem_letters_iff (by decide)

theorem ofString_longName : Path.ofString longName = ⟨.here, [longName]⟩ :=
  Path.ofString_eq_singleton (mt mem_longName_iff.mp (by decide))
    (Path.isName_of_mem (mem_longName_iff.mpr rfl) (by decide))

theorem not_hasTilde_longName : ¬(Path.ofString longName).HasTilde := by
  rw [ofString_longName]
  rintro ⟨-, name, hname, hhead⟩
  obtain rfl := Option.mem_some_iff.mp hname
  exact absurd (mem_longName_iff.mp (List.mem_of_head? hhead)) (by decide)

theorem isLongName_longName : Path.isLongName longName = true := isLongName_letters 256

def longPlaces : Places := ⟨⟨none, []⟩, some longName, [⟨.here, ["src"]⟩]⟩

theorem candidates_longPlaces :
    candidates longPlaces none = [.folder longName] ++ [.root ⟨.here, ["src"]⟩] := by
  have hne : longName ≠ "" := fun heq => by
    have hmem := mem_longName_iff.mpr rfl
    rw [heq] at hmem
    cases hmem
  simp only [candidates, longPlaces, folders_some hne]
  simp [folders]

theorem breaks_longName : (Candidate.folder longName).Breaks rootTree longPlaces.homes
    (.overlongPath (FileFault.tooLong longName).message) := by
  apply Candidate.breaks_of_isLongName ofString_longName not_hasTilde_longName
  · rw [ofString_longName]
    simpa [Path.isImpossible] using mt mem_longName_iff.mp (by decide)
  · exact isLongName_longName
  · rfl
  · exact List.not_mem_nil

/-- A folder that gives no file keeps the texts in a source root from being found. -/
theorem locate_breaks_at_long_name :
    candidates longPlaces none = [.folder longName, .root ⟨.here, ["src"]⟩] ∧
    (Candidate.folder longName).Expands longPlaces.homes ∧
    (∀ found, ¬(Candidate.folder longName).Hits rootTree longPlaces.homes found) ∧
    (Candidate.root ⟨.here, ["src"]⟩).Hits rootTree longPlaces.homes
      ⟨.here, ["src", "AdditionalTexts.xml"]⟩ ∧
    (Candidate.root ⟨.here, ["src"]⟩).IsTraced rootTree ∧
    (locate rootTree longPlaces none).outcome (⟨(), []⟩ : Session Unit) =
      .error (.overlongPath (FileFault.tooLong longName).message) := by
  refine ⟨candidates_longPlaces, ⟨_, Path.expandHome_eq_self _ not_hasTilde_longName⟩, ?_,
    .root (by decide +kernel) (by decide +kernel), ⟨["src", "AdditionalTexts.xml"], by decide +kernel⟩, ?_⟩
  · intro found hhits
    cases breaks_longName.verdict.symm.trans (hhits.verdict trivial)
  · have hverdict := List.findSome?_singleton.trans breaks_longName.verdict
    exact outcome_locate_of_first candidates_longPlaces hverdict _

end Lookup

end ResourceBundle
