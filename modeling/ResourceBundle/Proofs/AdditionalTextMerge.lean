import Mathlib
import ResourceBundle.Proofs.AdditionalTextReplay

/-! # Merging a document of additional texts

The document is read and checked before anything is stored; after that, merging it is a pass over its
contributions. -/

namespace ResourceBundle.AdditionalText

open Xml (Node)

variable {origin : String}

theorem firstBlankKey?_cons_of_isData {node : Node} (h : IsData node) (rest : List Node) :
    firstBlankKey? (node :: rest) = firstBlankKey? rest := by
  cases h <;> rfl

theorem firstBlankKey?_of_isData {nodes : List Node} (h : ∀ node ∈ nodes, IsData node) :
    firstBlankKey? nodes = none := by
  induction nodes with
  | nil => rfl
  | cons node nodes ih =>
    obtain ⟨hnode, hnodes⟩ := List.forall_mem_cons.mp h
    rw [firstBlankKey?_cons_of_isData hnode, ih hnodes]

theorem firstBlankKey?_cons_element {tag : Xml.Name} {attributes : List (Xml.Name × List Char)}
    {line : Nat} {inner rest : List Node} (hkey : lacksKey tag attributes = false)
    (hinner : firstBlankKey? inner = none) :
    firstBlankKey? (.element tag attributes line inner :: rest) = firstBlankKey? rest := by
  rw [firstBlankKey?, blankKey?, hkey, hinner]
  rfl

theorem lacksKey_of_ne {tag : Xml.Name} (h : tag ≠ textName)
    (attributes : List (Xml.Name × List Char)) : lacksKey tag attributes = false := by
  rw [lacksKey, decide_eq_false h, Bool.false_and]

theorem firstBlankKey?_of_areTranslations {content : List Node} (h : AreTranslations content) :
    firstBlankKey? content = none := by
  induction h with
  | nil => rfl
  | filler hfiller _ ih => rw [firstBlankKey?_cons_of_isData hfiller.isData, ih]
  | translation _ hinner _ ih =>
    rw [firstBlankKey?_cons_element (lacksKey_of_ne (by decide) _) (firstBlankKey?_of_isData hinner), ih]

theorem firstBlankKey?_of_isTextContent {content : List Node} (h : IsTextContent content) :
    firstBlankKey? content = none := by
  induction h with
  | plain h => exact firstBlankKey?_of_areTranslations h
  | filler hfiller _ ih => rw [firstBlankKey?_cons_of_isData hfiller.isData, ih]
  | described hinner hrest =>
    rw [firstBlankKey?_cons_element (lacksKey_of_ne (by decide) _) (firstBlankKey?_of_isData hinner),
      firstBlankKey?_of_areTranslations hrest]

/-- In texts whose keys are not blank there is no blank key, at any depth. -/
theorem firstBlankKey?_of_areTexts {nodes : List Node} (h : AreTexts nodes)
    (hkeys : ∀ key ∈ keysIn nodes, key.all Text.isBlank = false) : firstBlankKey? nodes = none := by
  induction h with
  | nil => rfl
  | filler hfiller _ ih =>
    rw [keysIn_cons_of_isData hfiller.isData] at hkeys
    rw [firstBlankKey?_cons_of_isData hfiller.isData, ih hkeys]
  | @text attributes line inner rest hkey hinner _ ih =>
    obtain ⟨key, hlookup⟩ := Option.isSome_iff_exists.mp hkey
    rw [keysIn_cons_text hlookup] at hkeys
    obtain ⟨hblank, hrest⟩ := List.forall_mem_cons.mp hkeys
    have hlacks : lacksKey textName attributes = false := by
      rw [lacksKey, hlookup, Option.getD_some, hblank, Bool.and_false]
    rw [firstBlankKey?_cons_element hlacks (firstBlankKey?_of_isTextContent hinner), ih hrest]

theorem blankKey?_of_conforms {root : Node} (h : Conforms root)
    (hkeys : ∀ key ∈ keys root, key.all Text.isBlank = false) : blankKey? root = none := by
  obtain ⟨htexts⟩ := h
  rw [blankKey?, lacksKey_of_ne (by decide)]
  exact firstBlankKey?_of_areTexts htexts hkeys

theorem not_blank_of_firstBlankKey? {nodes : List Node} (h : firstBlankKey? nodes = none) :
    ∀ key ∈ keysIn nodes, key.all Text.isBlank = false := by
  induction nodes with
  | nil => exact nofun
  | cons node rest ih =>
    rw [firstBlankKey?] at h
    split at h
    · cases h
    · rename_i hnode
      intro key hkey
      obtain ⟨own, hown, hlookup⟩ := List.mem_filterMap.mp hkey
      rcases List.mem_cons.mp hown with rfl | hown
      · cases own with
        | element tag attributes line inner =>
          simp only at hlookup
          split at hlookup
          · rename_i htag
            rw [blankKey?, lacksKey, htag, decide_eq_true rfl, hlookup, Option.getD_some,
              Bool.true_and] at hnode
            split at hnode
            · cases hnode
            · exact Bool.eq_false_of_not_eq_true ‹_›
          · cases hlookup
        | _ => cases hlookup
      · exact ih h key (List.mem_filterMap.mpr ⟨own, hown, hlookup⟩)

theorem blankKey?_eq_none_iff {root : Node} (h : Conforms root) :
    blankKey? root = none ↔ ∀ key ∈ keys root, key.all Text.isBlank = false := by
  refine ⟨fun hblank => ?_, blankKey?_of_conforms h⟩
  obtain ⟨_⟩ := h
  rw [blankKey?, lacksKey_of_ne (by decide)] at hblank
  exact not_blank_of_firstBlankKey? hblank

theorem key_of_mem_translationsIn {key : String} {description : List Char} {content : List Node}
    {c : Contribution} (h : c ∈ translationsIn origin key description content) : c.key = key := by
  obtain ⟨node, _, hnode⟩ := List.mem_filterMap.mp h
  cases node with
  | element tag attributes line inner =>
    simp only at hnode
    split at hnode
    · cases hnode
      rfl
    · cases hnode
  | _ => cases hnode

theorem key_ne_empty_of_areTexts {nodes : List Node} (h : AreTexts nodes)
    (hkeys : ∀ key ∈ keysIn nodes, key.all Text.isBlank = false) :
    ∀ c ∈ textsIn origin nodes, c.key ≠ "" := by
  induction h with
  | nil => exact fun _ h => absurd h List.not_mem_nil
  | filler hfiller _ ih =>
    rw [keysIn_cons_of_isData hfiller.isData] at hkeys
    rw [textsIn_cons_of_isData hfiller.isData]
    exact ih hkeys
  | @text attributes line inner rest hkey _ _ ih =>
    obtain ⟨key, hlookup⟩ := Option.isSome_iff_exists.mp hkey
    rw [keysIn_cons_text hlookup] at hkeys
    obtain ⟨hblank, hrest⟩ := List.forall_mem_cons.mp hkeys
    rw [textsIn_cons_text]
    intro c hc
    rcases List.mem_append.mp hc with hc | hc
    · rw [key_of_mem_translationsIn hc, attribute?, hlookup]
      intro hempty
      have hnil : key = [] := by simpa using hempty
      rw [hnil] at hblank
      cases hblank
    · exact ih hrest c hc

theorem key_ne_empty_of_conforms {root : Node} (h : Conforms root)
    (hkeys : ∀ key ∈ keys root, key.all Text.isBlank = false) :
    ∀ c ∈ contributions origin root, c.key ≠ "" := by
  obtain ⟨htexts⟩ := h
  exact key_ne_empty_of_areTexts htexts hkeys

/-- The grammars that are served while a document is read. -/
def served (bytes : List UInt8) : List Event :=
  (Xml.Document.read catalog bytes).served.map fun id => .grammarServed (String.ofList id)

theorem run_recordAll {σ α : Type} (event : α → Event) (ids : List α) (s : Session σ) :
    (ids.forM fun id => (Action.record (event id) : Action σ Unit)).run s =
      .ok () ⟨s.state, s.events ++ ids.map event⟩ := by
  induction ids generalizing s with
  | nil =>
    rw [List.map_nil, List.append_nil]
    rfl
  | cons id ids ih =>
    rw [List.forM, EStateM.run_bind, Action.run_record]
    simp only [ih, List.append_assoc, List.cons_append, List.nil_append, List.map_cons]

/-- A check leaves the state alone. It fails if the document is rejected or has a blank key. -/
theorem run_check_eq {σ : Type} (origin : String) (bytes : List UInt8) (s : Session σ) :
    (check origin bytes).run s = match (Xml.Document.read catalog bytes).root with
      | .error refusal =>
        .error (.rejectedTexts origin refusal.message) ⟨s.state, s.events ++ served bytes⟩
      | .ok root => match blankKey? root with
        | some line => .error (.blankTextKey origin line) ⟨s.state, s.events ++ served bytes⟩
        | none => .ok root ⟨s.state, s.events ++ served bytes⟩ := by
  simp only [check, EStateM.run_bind, run_recordAll]
  cases (Xml.Document.read catalog bytes).root with
  | error refusal => rfl
  | ok root => cases hblank : blankKey? root <;> simp only [hblank] <;> rfl

theorem run_check {σ : Type} {bytes : List UInt8} {root : Node}
    (hread : (Xml.Document.read catalog bytes).root = .ok root) (hblank : blankKey? root = none)
    (s : Session σ) :
    (check origin bytes).run s = .ok root ⟨s.state, s.events ++ served bytes⟩ := by
  simp only [run_check_eq, hread, hblank]

theorem run_check_eq_ok {σ : Type} {bytes : List UInt8} {root : Node} {s t : Session σ}
    (h : (check origin bytes).run s = .ok root t) :
    (Xml.Document.read catalog bytes).root = .ok root ∧ blankKey? root = none := by
  rw [run_check_eq] at h
  cases hread : (Xml.Document.read catalog bytes).root with
  | error refusal =>
    rw [hread] at h
    cases h
  | ok own =>
    cases hblank : blankKey? own with
    | some line =>
      simp only [hread, hblank] at h
      cases h
    | none =>
      simp only [hread, hblank] at h
      cases h
      exact ⟨rfl, hblank⟩

/-- Once a document is read and has no blank key, merging it is a pass over the contributions that its
replay amounts to. -/
theorem run_parse_of_tracks {bytes : List UInt8} {root : Node} {cs : List Contribution}
    (hread : (Xml.Document.read catalog bytes).root = .ok root) (hblank : blankKey? root = none)
    (htracks : Tracks (fun _ => True) cs (replay origin root) (fun _ => True)) (s : Session Merging) :
    match (Contribution.addAll cs).run ⟨s.state.store, s.events ++ served bytes⟩ with
    | .ok _ t => ∃ reader,
        (parse origin bytes).run s = .ok reader.inserted
          ⟨⟨reader, t.state⟩, t.events ++ [.merged reader.inserted]⟩ ∧
        reader.inserted = cs.length
    | .error failure t => ∃ reader,
        (parse origin bytes).run s = .error failure ⟨⟨reader, t.state⟩, t.events⟩ ∧
        reader.inserted + s.state.store.size = t.state.size := by
  have hcheck : (check origin bytes).run s = .ok root ⟨s.state, s.events ++ served bytes⟩ :=
    run_check hread hblank s
  -- The check leaves the store alone, and the replay starts from a reader that counts from zero.
  have hreplay := htracks
    ⟨⟨{ s.state.reader.reset with inserted := 0 }, s.state.store⟩, s.events ++ served bytes⟩ trivial
  simp only at hreplay
  cases hpass : (Contribution.addAll cs).run ⟨s.state.store, s.events ++ served bytes⟩ with
  | ok _ t =>
    rw [hpass] at hreplay
    obtain ⟨reader, hrun, _, hcount⟩ := hreplay
    refine ⟨reader, ?_, by rw [hcount, Nat.zero_add]⟩
    simp only [parse, EStateM.run_bind, hcheck, run_onReader, hrun, Action.run_getState,
      Action.run_record, EStateM.run_pure]
  | error failure t =>
    rw [hpass] at hreplay
    obtain ⟨reader, hrun, hcount⟩ := hreplay
    refine ⟨reader, ?_, by rw [hcount, Nat.zero_add]⟩
    simp only [parse, EStateM.run_bind, hcheck, run_onReader, hrun]

/-- Once a conforming document is read and has no blank key, merging it is a pass over its
contributions. -/
theorem run_parse_of_conforms (origin : String) {bytes : List UInt8} {root : Node}
    (hread : (Xml.Document.read catalog bytes).root = .ok root) (hblank : blankKey? root = none)
    (hconforms : Conforms root) (s : Session Merging) :
    match (Contribution.addAll (contributions origin root)).run
      ⟨s.state.store, s.events ++ served bytes⟩ with
    | .ok _ t => ∃ reader,
        (parse origin bytes).run s = .ok reader.inserted
          ⟨⟨reader, t.state⟩, t.events ++ [.merged reader.inserted]⟩ ∧
        reader.inserted = (contributions origin root).length
    | .error failure t => ∃ reader,
        (parse origin bytes).run s = .error failure ⟨⟨reader, t.state⟩, t.events⟩ ∧
        reader.inserted + s.state.store.size = t.state.size :=
  run_parse_of_tracks hread hblank (tracks_root hconforms) s

/-- A merge that succeeds has read a document; if it conforms, its contributions are now behind the
entries that were there. -/
theorem placed_of_run_parse {bytes : List UInt8} {count : Nat} {s t : Session Merging}
    (h : (parse origin bytes).run s = .ok count t) :
    ∃ root, (Xml.Document.read catalog bytes).root = .ok root ∧
      (Conforms root → ∃ placed,
        List.Forall₂ Contribution.Gives (contributions origin root) placed ∧
        t.state.store.placed = s.state.store.placed ++ placed) := by
  obtain ⟨root, u, hcheck, _⟩ := Action.run_bind_eq_ok_iff.mp h
  obtain ⟨hread, hblank⟩ := run_check_eq_ok hcheck
  refine ⟨root, hread, fun hconforms => ?_⟩
  have hparse := run_parse_of_conforms origin hread hblank hconforms s
  cases hpass : (Contribution.addAll (contributions origin root)).run
      ⟨s.state.store, s.events ++ served bytes⟩ with
  | ok _ pass =>
    rw [hpass] at hparse
    obtain ⟨reader, hrun, _⟩ := hparse
    rw [hrun] at h
    cases h
    exact Contribution.placed_of_run_addAll hpass
  | error failure pass =>
    rw [hpass] at hparse
    obtain ⟨reader, hrun, _⟩ := hparse
    rw [hrun] at h
    cases h

/-- Merging a conforming document is a pass over its contributions. If the pass succeeds, there is one
new entry for each translation, and the count says so. If it fails, the entries of the contributions
before the refused one stay, and they are counted. -/
theorem parse_eq_pass (origin : String) {bytes : List UInt8} {root : Node}
    (hread : (Xml.Document.read catalog bytes).root = .ok root) (hconforms : Conforms root)
    (hkeys : ∀ key ∈ keys root, key.all Text.isBlank = false) (s : Session Merging) :
    match (Contribution.addAll (contributions origin root)).run
      ⟨s.state.store, s.events ++ served bytes⟩ with
    | .ok _ t => ∃ reader,
        (parse origin bytes).run s = .ok reader.inserted
          ⟨⟨reader, t.state⟩, t.events ++ [.merged reader.inserted]⟩ ∧
        reader.inserted = root.occurrences translationName ∧
        t.state.size = s.state.store.size + root.occurrences translationName ∧
        ∃ placed, List.Forall₂ Contribution.Gives (contributions origin root) placed ∧
          t.state.placed = s.state.store.placed ++ placed
    | .error failure t => ∃ reader,
        (parse origin bytes).run s = .error failure ⟨⟨reader, t.state⟩, t.events⟩ ∧
        ∃ before c after placed, contributions origin root = before ++ c :: after ∧
          List.Forall₂ Contribution.Gives before placed ∧
          t.state.placed = s.state.store.placed ++ placed ∧
          reader.inserted = before.length ∧ c.Refused t.state failure := by
  have hparse := run_parse_of_conforms origin hread
    (blankKey?_of_conforms hconforms hkeys) hconforms s
  cases hpass : (Contribution.addAll (contributions origin root)).run
      ⟨s.state.store, s.events ++ served bytes⟩ with
  | ok _ t =>
    rw [hpass] at hparse
    obtain ⟨reader, hrun, hcount⟩ := hparse
    have hsize := Contribution.size_of_run_addAll hpass
    rw [length_contributions hconforms] at hcount hsize
    exact ⟨reader, hrun, hcount, hsize, Contribution.placed_of_run_addAll hpass⟩
  | error failure t =>
    rw [hpass] at hparse
    obtain ⟨reader, hrun, hcount⟩ := hparse
    obtain ⟨before, c, after, placed, hsplit, hbefore, hplaced, hrefused⟩ :=
      Contribution.refused_of_run_addAll (key_ne_empty_of_conforms hconforms hkeys) hpass
    have hsize : t.state.size = s.state.store.size + before.length := by
      rw [Store.size, hplaced, List.length_append, hbefore.length_eq]
      rfl
    exact ⟨reader, hrun, before, c, after, placed, hsplit, hbefore, hplaced, by omega, hrefused⟩

/-- The characters of a text that is put together. Those of a literal are at hand, while those of the
whole text would have to be read from its bytes. -/
theorem toList_append_eq {s t : String} {cs ds : List Char} (hs : s.toList = cs) (ht : t.toList = ds) :
    (s ++ t).toList = cs ++ ds := by
  rw [String.toList_append, hs, ht]

/-- A document with one German title. -/
def titleDocument : List UInt8 :=
  ("<!DOCTYPE texts SYSTEM \"http://dtd.tquadrat.org/AdditionalText.dtd\">\n" ++
    "<texts><text key=\"Title\"><translation language=\"de\">Ti</translation></text></texts>").toList.map
    fun c => UInt8.ofNat c.toNat

def titleRoot : Node :=
  .element textsName [] 2 [.element textName [(keyName, ['T', 'i', 't', 'l', 'e'])] 2
    [.element translationName [(languageName, ['d', 'e'])] 2 [.text ['T', 'i']]]]

theorem root_titleDocument : (Xml.Document.read catalog titleDocument).root = .ok titleRoot := by
  have hbytes : titleDocument = _ :=
    congrArg (List.map _) (toList_append_eq String.toList_ofList String.toList_ofList)
  refine (congrArg (fun bytes => (Xml.Document.read catalog bytes).root) hbytes).trans ?_
  decide +kernel

theorem conforms_titleRoot : Conforms titleRoot := by
  have htranslations : AreTranslations
      [.element translationName [(languageName, ['d', 'e'])] 2 [.text ['T', 'i']]] := by
    refine .translation (by decide) ?_ .nil
    intro node hnode
    rw [List.mem_singleton.mp hnode]
    exact .text _
  exact .texts (.text (by decide) (.plain htranslations) .nil)

theorem parse_eq_pass_title : ∃ t : Session Merging,
    (parse fileName titleDocument).run ⟨⟨.start, .empty⟩, []⟩ = .ok 1 t ∧ t.state.store.size = 1 := by
  have hmerge := parse_eq_pass fileName root_titleDocument conforms_titleRoot (by decide)
    ⟨⟨.start, .empty⟩, []⟩
  obtain ⟨t, hpass⟩ : ∃ t, (Contribution.addAll (contributions fileName titleRoot)).run
      ⟨.empty, [] ++ served titleDocument⟩ = .ok () t := by
    have hresolve : Locale.resolve (some "de") = .ok "de" := by decide +kernel
    obtain ⟨entry, hgives⟩ := Contribution.gives_of_resolve
      (c := ⟨some "de", "Title", false, "", "Ti", fileName⟩) (by decide) hresolve
    have hnodup : ((Store.empty.placed ++ [(⟨"de", entry⟩ : Placed)]).map Placed.slot).Nodup :=
      List.pairwise_singleton _ _
    obtain ⟨t, hrun, _⟩ := Contribution.run_addAll_of_gives (.cons hgives .nil)
      (s := ⟨.empty, [] ++ served titleDocument⟩) hnodup
    exact ⟨t, hrun⟩
  rw [hpass] at hmerge
  obtain ⟨reader, hparse, hinserted, hsize, _⟩ := hmerge
  have hone : titleRoot.occurrences translationName = 1 := by decide
  rw [hinserted, hone] at hparse
  exact ⟨_, hparse, hsize.trans hone⟩

end ResourceBundle.AdditionalText
