import ResourceBundle.Proofs.LookupOrder

/-! # Failures of the search for additional texts

A folder that cannot be used leaves the search to the next candidate, unless it breaks the search off: its
name begins with a tilde that stands for no known home directory, the file system refuses to look at it, or
a link in it leads back to itself. Then the candidates after it are not looked at. All other failures come
from the source roots. -/

namespace ResourceBundle.Lookup

variable {σ : Type} {files : LinkedTree} {homes : Homes}

theorem conclusion_eq_error_iff {verdict : Option (Except Failure Path)} {failure : Failure} :
    conclusion verdict = .error failure ↔ verdict = some (.error failure) := by
  cases verdict with
  | none => simp [conclusion]
  | some verdict => cases verdict <;> simp [conclusion]

/-- Whether the search through a list of candidates ends with a failure: all candidates before the one
that gives the failure are passed over. -/
def Fails (files : LinkedTree) (homes : Homes) (cs : List Candidate) (failure : Failure) : Prop :=
  ∃ earlier c later, cs = earlier ++ c :: later ∧ (∀ e ∈ earlier, e.IsSkipped files homes) ∧
    (c.Breaks files homes failure ∨ c.Bars files failure)

theorem fails_iff {cs : List Candidate} (htraced : ∀ c ∈ cs, c.IsTraced files) {failure : Failure} :
    Fails files homes cs failure ↔
      cs.findSome? (Candidate.verdict? files homes) = some (.error failure) := by
  rw [List.findSome?_eq_some_iff]
  constructor
  · rintro ⟨earlier, c, later, rfl, hskipped, hfails⟩
    have htrace := htraced c (List.mem_append_right earlier List.mem_cons_self)
    exact ⟨earlier, c, later, rfl, (Candidate.verdict?_eq_error_iff htrace).mpr hfails,
      fun e he => Candidate.verdict?_eq_none_iff.mpr (hskipped e he)⟩
  · rintro ⟨earlier, c, later, rfl, hverdict, hnone⟩
    have htrace := htraced c (List.mem_append_right earlier List.mem_cons_self)
    exact ⟨earlier, c, later, rfl, fun e he => Candidate.verdict?_eq_none_iff.mp (hnone e he),
      (Candidate.verdict?_eq_error_iff htrace).mp hverdict⟩

theorem eq_folder_of_mem_folders {given : Option String} {c : Candidate} (h : c ∈ folders given) :
    ∃ name, c = .folder name ∧ folders given = [.folder name] := by
  cases given with
  | none => cases h
  | some name =>
    by_cases hname : name = ""
    · rw [hname] at h
      cases h
    · rw [folders_some hname] at h
      exact ⟨name, List.mem_singleton.mp h, folders_some hname⟩

theorem fails_folders_iff {given : Option String} {failure : Failure} :
    Fails files homes (folders given) failure ↔ ∃ c ∈ folders given, c.Breaks files homes failure := by
  constructor
  · rintro ⟨earlier, c, later, hsplit, -, hfails⟩
    have hc : c ∈ folders given := hsplit ▸ List.mem_append_right earlier List.mem_cons_self
    rcases hfails with hbreaks | hbars
    · exact ⟨c, hc, hbreaks⟩
    · obtain ⟨name, rfl, -⟩ := eq_folder_of_mem_folders hc
      cases hbars
  · rintro ⟨c, hc, hbreaks⟩
    obtain ⟨name, rfl, hfolders⟩ := eq_folder_of_mem_folders hc
    exact ⟨[], .folder name, [], hfolders, nofun, .inl hbreaks⟩

theorem outcome_inFolder?_eq_error_iff {given : Option String} {source : String} {failure : Failure}
    (s : Session σ) : (inFolder? files homes given source).outcome s = .error failure ↔
      ∃ c ∈ folders given, c.Breaks files homes failure := by
  have htraced : ∀ c ∈ folders given, c.IsTraced files := by
    intro c hc
    obtain ⟨name, rfl, -⟩ := eq_folder_of_mem_folders hc
    trivial
  rw [concludes_inFolder?, conclusion_eq_error_iff, ← fails_iff htraced, fails_folders_iff]

/-- In a tree without links whose directories may be searched, only the home directory of a folder can
break the search off, unless a path is too long. -/
theorem Candidate.breaks_folder_iff (hlinks : files.links = [])
    (hsearch : files.restrictions.unsearchable = []) {name : String}
    (hfits : (folder name).Fits files homes) {failure : Failure} :
    (folder name).Breaks files homes failure ↔
      (Path.ofString name).expandHome homes = .error failure := by
  refine ⟨fun hbreaks => ?_, .home⟩
  cases hexpand : (Path.ofString name).expandHome homes with
  | ok directory =>
    have hexpands : (folder name).Expands homes := ⟨directory, hexpand⟩
    exact absurd hbreaks (not_breaks hlinks hsearch hexpands hfits failure)
  | error other =>
    have hsame := (Breaks.home hexpand).verdict.symm.trans hbreaks.verdict
    rw [Except.error.inj (Option.some.inj hsame)]

theorem mem_sourceRoots_of_mem_candidates {places : Places} {provided : Option String} {root : Path}
    (h : .root root ∈ candidates places provided) : root ∈ places.sourceRoots := by
  rcases List.mem_append.mp h with hfolder | hroot
  · rcases List.mem_append.mp hfolder with hprovided | hconfigured
    · obtain ⟨name, hname, -⟩ := eq_folder_of_mem_folders hprovided
      cases hname
    · obtain ⟨name, hname, -⟩ := eq_folder_of_mem_folders hconfigured
      cases hname
  · obtain ⟨path, hpath, heq⟩ := List.mem_map.mp hroot
    cases heq
    exact hpath

/-- The search fails in a folder exactly if the folder breaks it off. If the files in the source roots may
be followed, the search as a whole fails exactly if all candidates before some candidate are passed over,
and this one breaks it off or is a source root with a file that must not be read; if nothing breaks it off,
only such a source root makes it fail. In a tree without links whose directories may be searched, and with
a path that is not too long, a folder breaks the search off exactly if its name begins with a tilde that
cannot be replaced. -/
theorem locate_fails_iff (files : LinkedTree) (places : Places) (provided : Option String)
    (htraced : ∀ c ∈ candidates places provided, c.IsTraced files) (s : Session σ) :
    (∀ given source failure, (inFolder? files places.homes given source).outcome s = .error failure ↔
      ∃ c ∈ folders given, c.Breaks files places.homes failure) ∧
    (∀ failure, (locate files places provided).outcome s = .error failure ↔
      Fails files places.homes (candidates places provided) failure) ∧
    ((∀ c ∈ candidates places provided, ∀ failure, ¬c.Breaks files places.homes failure) →
      ∀ failure, (locate files places provided).outcome s = .error failure →
        ∃ root ∈ places.sourceRoots, (Candidate.root root).Bars files failure) ∧
    (files.links = [] → files.restrictions.unsearchable = [] →
      ∀ name, (Candidate.folder name).Fits files places.homes →
        ∀ failure, (Candidate.folder name).Breaks files places.homes failure ↔
          (Path.ofString name).expandHome places.homes = .error failure) := by
  have hlocate : ∀ failure, (locate files places provided).outcome s = .error failure ↔
      Fails files places.homes (candidates places provided) failure := by
    intro failure
    rw [concludes_locate, conclusion_eq_error_iff, fails_iff htraced]
  refine ⟨fun given source failure => outcome_inFolder?_eq_error_iff s, hlocate, ?_,
    fun hlinks hsearch name hfits failure => Candidate.breaks_folder_iff hlinks hsearch hfits⟩
  intro hholds failure hfailure
  obtain ⟨earlier, c, later, hsplit, -, hfails⟩ := (hlocate failure).mp hfailure
  have hc : c ∈ candidates places provided :=
    hsplit ▸ List.mem_append_right earlier List.mem_cons_self
  rcases hfails with hbreaks | hbars
  · exact absurd hbreaks (hholds c hc failure)
  · cases hbars with
    | @root path hfile hunreadable =>
      exact ⟨path, mem_sourceRoots_of_mem_candidates hc, .root hfile hunreadable⟩

def strangerPlaces : Places := ⟨⟨none, []⟩, some "~nosuchuser", [⟨.here, ["src"]⟩]⟩

theorem locate_fails_iff_stranger :
    (inFolder? rootTree strangerPlaces.homes strangerPlaces.configured "configured location").outcome
      (⟨(), []⟩ : Session Unit) = .error .unknownHome ∧
    (locate rootTree strangerPlaces (some "gone")).outcome (⟨(), []⟩ : Session Unit) =
      .error .unknownHome := by
  have hcandidates : candidates strangerPlaces (some "gone") =
      [.folder "gone"] ++ .folder "~nosuchuser" :: [.root ⟨.here, ["src"]⟩] := by decide +kernel
  have htraced : ∀ c ∈ candidates strangerPlaces (some "gone"), c.IsTraced rootTree := by
    rw [hcandidates]
    simp only [List.cons_append, List.nil_append, List.forall_mem_cons]
    exact ⟨trivial, trivial, ⟨["src", "AdditionalTexts.xml"], by decide +kernel⟩, nofun⟩
  have hbreaks : (Candidate.folder "~nosuchuser").Breaks rootTree strangerPlaces.homes .unknownHome :=
    .home (by decide +kernel)
  obtain ⟨hfolder, hlocate, -, -⟩ :=
    locate_fails_iff rootTree strangerPlaces (some "gone") htraced ⟨(), []⟩
  constructor
  · exact (hfolder ..).mpr ⟨_, List.mem_cons_self, hbreaks⟩
  · refine (hlocate _).mpr ⟨_, _, _, hcandidates, ?_, .inl hbreaks⟩
    simp only [List.forall_mem_singleton]
    exact Candidate.verdict?_eq_none_iff.mp (by decide +kernel)

/-- A folder that cannot be used keeps the texts in a source root from being found. -/
theorem locate_fails_before_root :
    (locate rootTree strangerPlaces none).outcome (⟨(), []⟩ : Session Unit) = .error .unknownHome ∧
    (locate rootTree { strangerPlaces with configured := none } none).outcome
      (⟨(), []⟩ : Session Unit) = .ok (some ⟨.here, ["src", "AdditionalTexts.xml"]⟩) := by
  decide +kernel

end ResourceBundle.Lookup
