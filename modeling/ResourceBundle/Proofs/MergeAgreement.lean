import ResourceBundle.Processing
import ResourceBundle.Proofs.ActionAgreement
import ResourceBundle.Proofs.AdditionalTextMerge
import ResourceBundle.Proofs.StoreViews

/-! # Additional texts and the order of a store

Where additional texts are found does not depend on the state of the sink, and how they are merged
does not depend on the order in which the store was filled: from stores with the same entries the same
document leads to stores with the same entries, or fails in both. -/

namespace ResourceBundle

open ResourceBundle.Action (Agree)

variable {σ τ : Type} {S : σ → τ → Prop}

namespace Store

/-- Whether two stores have the same entries, in whatever order they were inserted. -/
def SameEntries (a b : Store) : Prop := a.placed.Perm b.placed

theorem place_agree (locale : String) (entry : Entry) :
    Agree SameEntries Eq (place locale entry) (place locale entry) := by
  refine ⟨fun s t hs => ?_⟩
  cases hinsert : s.state.insert locale entry with
  | ok store =>
    obtain ⟨hfree, hplaced⟩ := insert_eq_ok_iff.mp hinsert
    cases hinsert' : t.state.insert locale entry with
    | ok store' =>
      rw [run_place_of_ok hinsert, run_place_of_ok hinsert']
      refine ⟨rfl, ?_⟩
      have hplaced' := (insert_eq_ok_iff.mp hinsert').2
      rw [SameEntries, hplaced, hplaced']
      exact hs.append_right _
    | error failure =>
      have htaken := (insert_eq_error_iff.mp hinsert').1
      rw [← contains_congr hs, hfree] at htaken
      cases htaken
  | error failure =>
    have htaken := (insert_eq_error_iff.mp hinsert).1
    cases hinsert' : t.state.insert locale entry with
    | ok store' =>
      have hfree := (insert_eq_ok_iff.mp hinsert').1
      rw [← contains_congr hs, htaken] at hfree
      cases hfree
    | error other =>
      rw [run_place_of_error hinsert, run_place_of_error hinsert']
      trivial

end Store

namespace Lookup

theorem inFolder_agree (files : LinkedTree) (homes : Homes) (folder source : String) :
    Agree S Eq (inFolder files homes folder source) (inFolder files homes folder source) := by
  unfold inFolder
  refine (Agree.ofExcept _).bind ?_
  rintro folder _ rfl
  refine (Agree.ofExcept _).bind ?_
  rintro isDirectory _ rfl
  dsimp only
  split
  · exact .pure rfl
  · split
    · exact .pure rfl
    · split
      · exact (Agree.note _ _).seq (.pure rfl)
      · exact .throw ..
    · refine (Agree.ofExcept _).bind ?_
      rintro isFile _ rfl
      split
      · exact (Agree.note _ _).seq (.pure rfl)
      · exact (Agree.note _ _).seq (.pure rfl)

theorem inFolder?_agree (files : LinkedTree) (homes : Homes) (folder : Option String)
    (source : String) :
    Agree S Eq (inFolder? files homes folder source) (inFolder? files homes folder source) := by
  unfold inFolder?
  split
  · exact .pure rfl
  · split
    · exact .pure rfl
    · exact inFolder_agree ..

theorem inRoots_agree (files : LinkedTree) (roots : List Path) :
    Agree S Eq (inRoots files roots) (inRoots files roots) := by
  induction roots with
  | nil => exact .pure rfl
  | cons root roots ih =>
    rw [inRoots, inRoots]
    refine (Agree.ofExcept _).bind ?_
    rintro isFile _ rfl
    split
    · exact ih
    · split
      · exact .fail ..
      · refine (Agree.ofExcept _).bind ?_
        rintro place _ rfl
        exact (Agree.note _ _).seq (.pure rfl)

/-- The search gives the same file from all states, and leaves them as they are. -/
theorem locate_agree (files : LinkedTree) (places : Places) (provided : Option String) :
    Agree S Eq (locate files places provided) (locate files places provided) := by
  unfold locate
  refine (inFolder?_agree ..).bind ?_
  rintro found _ rfl
  cases found with
  | some path => exact .pure rfl
  | none =>
    refine (inFolder?_agree ..).bind ?_
    rintro found _ rfl
    cases found with
    | some path => exact .pure rfl
    | none => exact inRoots_agree ..

end Lookup

namespace AdditionalText

/-- Whether two mergings are at the same place of a document, with the same entries. -/
def SameMerging (a b : Merging) : Prop := a.reader = b.reader ∧ a.store.SameEntries b.store

theorem onReader_agree (change : Reader → Reader) :
    Agree SameMerging Eq (onReader change) (onReader change) := by
  refine ⟨fun s t ⟨hreader, hentries⟩ => ?_⟩
  exact ⟨rfl, congrArg change hreader, hentries⟩

theorem enter_agree (tag : Xml.Name) (attributes : List (Xml.Name × List Char))
    (pieces : List (List Char)) :
    Agree SameMerging Eq (enter tag attributes pieces) (enter tag attributes pieces) := by
  unfold enter
  split
  · exact onReader_agree _
  · split
    · exact onReader_agree _
    · split
      · exact onReader_agree _
      · split
        · refine (Agree.ofExcept _).bind ?_
          rintro locale _ rfl
          exact onReader_agree _
        · exact .pure rfl

theorem insert_agree (origin : String) (text : PendingText) (translation : PendingTranslation) :
    Agree SameMerging Eq (insert origin text translation) (insert origin text translation) := by
  unfold insert
  refine (Agree.ofExcept _).bind ?_
  rintro entry _ rfl
  refine Agree.seq ?_ (onReader_agree _)
  refine (Store.place_agree translation.locale entry).zoom ?_ ?_
  · exact fun _ _ h => h.2
  · exact fun _ _ _ _ h h' => ⟨h.1, h'⟩

theorem leave_agree (origin : String) (tag : Xml.Name) :
    Agree SameMerging Eq (leave origin tag) (leave origin tag) := by
  unfold leave
  split
  · exact onReader_agree _
  · split
    · exact onReader_agree _
    · split
      · refine Agree.getState.bind ?_
        rintro a b ⟨hreader, -⟩
        rw [hreader]
        -- The readers are equal, so both sides insert the same translation, or none.
        dsimp only
        split
        · exact (insert_agree ..).seq (onReader_agree _)
        · exact onReader_agree _
      · exact .pure rfl

mutual

theorem replay_agree (origin : String) :
    ∀ node, Agree SameMerging Eq (replay origin node) (replay origin node)
  | .element tag attributes _ children =>
    (enter_agree tag attributes _).seq ((replayAll_agree origin children).seq (leave_agree origin tag))
  | .text _ => .pure rfl
  | .comment => .pure rfl
  | .instruction => .pure rfl

theorem replayAll_agree (origin : String) :
    ∀ nodes, Agree SameMerging Eq (replayAll origin nodes) (replayAll origin nodes)
  | [] => .pure rfl
  | node :: rest => (replay_agree origin node).seq (replayAll_agree origin rest)

end

theorem recordAll_agree {α : Type} (event : α → Event) (ids : List α) :
    Agree S Eq (ids.forM fun id => Action.record (event id))
      (ids.forM fun id => Action.record (event id)) := by
  induction ids with
  | nil => exact .pure rfl
  | cons id ids ih => exact (Agree.record _ _).seq ih

theorem check_agree (origin : String) (bytes : List UInt8) :
    Agree S Eq (check origin bytes) (check origin bytes) := by
  unfold check
  refine (recordAll_agree _ _).seq ?_
  split
  · exact .throw ..
  · split
    · exact .throw ..
    · exact .pure rfl

theorem parse_agree (origin : String) (bytes : List UInt8) :
    Agree SameMerging Eq (parse origin bytes) (parse origin bytes) := by
  unfold parse
  refine (check_agree origin bytes).bind ?_
  rintro root _ rfl
  refine (onReader_agree _).seq ((replay_agree origin root).seq (Agree.getState.bind ?_))
  rintro a b ⟨hreader, -⟩
  rw [hreader]
  exact (Agree.record _ _).seq (.pure rfl)

end AdditionalText

namespace Processing

/-- A failure of a merge goes on, whether it is reported or not. -/
theorem run_mergeHandler {α : Type} (failure : Failure) (s : Session σ) :
    ∃ t, (do
      if failure.isProcessing then Action.report (mergeReport failure)
      throw failure : Action σ α).run s = .error failure t := by
  by_cases hreport : failure.isProcessing = true
  · simp [hreport]
  · simp [hreport]

theorem merge_agree (files : LinkedTree) (path : Path) {a b : Store} (h : a.SameEntries b) :
    Agree S Store.SameEntries (merge files path a) (merge files path b) := by
  unfold merge
  cases files.read path with
  | error fault => exact .fail ..
  | ok bytes =>
    have hstart : AdditionalText.SameMerging ⟨.start, a⟩ ⟨.start, b⟩ := ⟨rfl, h⟩
    have hparse : Agree S _ (Action.within _ _) (Action.within _ _) :=
      (AdditionalText.parse_agree AdditionalText.fileName bytes).within hstart
    refine (hparse.tryCatch ?_ ?_).bind ?_
    · exact fun failure s => ⟨failure, run_mergeHandler failure s⟩
    · exact fun failure s => ⟨failure, run_mergeHandler failure s⟩
    · rintro ⟨_, merging⟩ ⟨_, merging'⟩ ⟨_, _, hentries⟩
      exact .pure hentries

theorem mergeFound_agree (files : LinkedTree) (found : Option Path) {a b : Store}
    (h : a.SameEntries b) :
    Agree S Store.SameEntries (mergeFound files a found) (mergeFound files b found) := by
  cases found with
  | none => exact .pure h
  | some path => exact merge_agree files path h

end Processing

end ResourceBundle
