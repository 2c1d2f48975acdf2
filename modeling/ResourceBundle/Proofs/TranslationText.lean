import ResourceBundle.Proofs.AdditionalTextMerge
import ResourceBundle.Proofs.CollectionOutcome

/-! # The texts of translations

The character data of a translation come in pieces, which comments and processing instructions cut off.
Each piece is folded by itself, but folding is deleting characters, so the stored text is that of all
character data at once. Two documents that differ in such remarks inside translations are merged alike. -/

namespace ResourceBundle

namespace Text

/-- The text without the characters at which lines end. -/
def unbroken (cs : List Char) : String := String.ofList (cs.filter fun c => !isLineBreak c)

theorem replaceChar_of_not_mem {old : Char} {cs : List Char} (h : old ∉ cs) (new : List Char) :
    replaceChar old new cs = cs := by
  induction cs with
  | nil => rfl
  | cons c cs ih =>
    obtain ⟨hc, hcs⟩ := not_or.mp (mt List.mem_cons.mpr h)
    have hrest := ih hcs
    rw [replaceChar] at hrest ⊢
    rw [List.flatMap_cons, if_neg (Ne.symm hc), hrest]
    rfl

/-- A text without line breaks has no line feed that an entry would have to replace. -/
theorem singleLine_unbroken (cs : List Char) :
    String.ofList (Entry.singleLine (unbroken cs).toList) = unbroken cs := by
  have hfeed : '\n' ∉ (unbroken cs).toList := by
    rw [unbroken, String.toList_ofList]
    intro hmem
    exact absurd (List.mem_filter.mp hmem).2 (by decide)
  rw [Entry.singleLine, replaceChar_of_not_mem hfeed, String.ofList_toList]

end Text

namespace Xml.Node

mutual

def characters : Node → List Char
  | .text content => content
  | .element _ _ _ children => charactersIn children
  | .comment => []
  | .instruction => []

def charactersIn : List Node → List Char
  | [] => []
  | node :: rest => characters node ++ charactersIn rest

end

theorem charactersIn_append (nodes others : List Node) :
    charactersIn (nodes ++ others) = charactersIn nodes ++ charactersIn others := by
  induction nodes with
  | nil => rfl
  | cons node nodes ih => rw [List.cons_append, charactersIn, charactersIn, ih, List.append_assoc]

end Xml.Node

namespace Contribution

/-- A pass that fails has put the entries of some first contributions behind those that are there. -/
theorem placed_of_run_addAll_error {cs : List Contribution} {s t : Session Store} {failure : Failure}
    (h : (addAll cs).run s = .error failure t) :
    ∃ placed, List.Forall₂ Gives (cs.take placed.length) placed ∧
      t.state.placed = s.state.placed ++ placed := by
  induction cs generalizing s with
  | nil => cases h
  | cons c cs ih =>
    rcases EStateM.run_bind_eq_error_iff.mp h with hfirst | ⟨_, u, hfirst, hrest⟩
    · have hsame : t = s := by
        rcases run_add_cases c s with ⟨_, _, hrun⟩ | ⟨_, hrun⟩ | ⟨_, _, _, hrun⟩ | ⟨_, _, _, _, hrun⟩ <;>
          rw [hrun] at hfirst <;> cases hfirst <;> rfl
      exact ⟨[], .nil, by rw [hsame, List.append_nil]⟩
    · obtain ⟨first, hgives, hinsert, _⟩ := run_add_eq_ok_iff.mp hfirst
      obtain ⟨placed, hfurther, hplaced⟩ := ih hrest
      refine ⟨first :: placed, .cons hgives hfurther, ?_⟩
      rw [hplaced, (Store.insert_eq_ok_iff.mp hinsert).2, List.append_assoc]
      rfl

/-- What a pass comes to does not depend on the events before it. -/
theorem run_addAll_of_events (cs : List Contribution) (store : Store) (events others : List Event) :
    match (addAll cs).run ⟨store, events⟩ with
    | .ok _ t => ∃ later, (addAll cs).run ⟨store, others⟩ = .ok () ⟨t.state, later⟩
    | .error failure t =>
      ∃ later, (addAll cs).run ⟨store, others⟩ = .error failure ⟨t.state, later⟩ := by
  induction cs generalizing store events others with
  | nil => exact ⟨others, rfl⟩
  | cons c cs ih =>
    have hadd := c.run_add ⟨store, events⟩
    have hadd' := c.run_add ⟨store, others⟩
    simp only [addAll, EStateM.run_bind]
    cases houtcome : c.outcome store with
    | error failure =>
      simp only [houtcome] at hadd hadd'
      simp only [hadd, hadd']
      exact ⟨others, rfl⟩
    | ok after =>
      simp only [houtcome] at hadd hadd'
      obtain ⟨_, _, hrun⟩ := hadd
      obtain ⟨_, _, hrun'⟩ := hadd'
      simp only [hrun, hrun']
      exact ih after _ _

end Contribution

namespace AdditionalText

open Xml (Node)

variable {origin key : String} {description : List Char}

theorem charactersIn_of_isData {nodes : List Node} (h : ∀ node ∈ nodes, IsData node) :
    Node.charactersIn nodes = (piecesOf nodes).flatten := by
  induction nodes with
  | nil => rfl
  | cons node nodes ih =>
    obtain ⟨hnode, hnodes⟩ := List.forall_mem_cons.mp h
    rw [Node.charactersIn, ih hnodes]
    cases hnode <;> rfl

mutual

/-- The character data of each translation in a tree, in document order. -/
def translationData : Node → List (List Char)
  | .element tag _ _ children =>
    (if tag = translationName then [Node.charactersIn children] else []) ++
      translationDataIn children
  | .text _ => []
  | .comment => []
  | .instruction => []

def translationDataIn : List Node → List (List Char)
  | [] => []
  | node :: rest => translationData node ++ translationDataIn rest

end

theorem translationDataIn_cons_of_isData {node : Node} (h : IsData node) (rest : List Node) :
    translationDataIn (node :: rest) = translationDataIn rest := by
  cases h <;> rfl

theorem translationDataIn_of_isData {nodes : List Node} (h : ∀ node ∈ nodes, IsData node) :
    translationDataIn nodes = [] := by
  induction nodes with
  | nil => rfl
  | cons node nodes ih =>
    obtain ⟨hnode, hnodes⟩ := List.forall_mem_cons.mp h
    rw [translationDataIn_cons_of_isData hnode, ih hnodes]

theorem text_contribution (attributes : List (Xml.Name × List Char)) {inner : List Node}
    (h : ∀ node ∈ inner, IsData node) :
    (contribution origin key description attributes inner).text =
      Text.unbroken (Node.charactersIn inner) := by
  rw [contribution, Text.fold_eq_filter, charactersIn_of_isData h]
  rfl

theorem texts_translationsIn {content : List Node} (h : AreTranslations content) :
    (translationsIn origin key description content).map (·.text) =
      (translationDataIn content).map Text.unbroken := by
  induction h with
  | nil => rfl
  | filler hfiller _ ih =>
    rw [translationsIn_cons_of_isData hfiller.isData, ih,
      translationDataIn_cons_of_isData hfiller.isData]
  | @translation attributes line inner rest _ hinner _ ih =>
    have hcons : translationsIn origin key description
          (.element translationName attributes line inner :: rest) =
        contribution origin key description attributes inner ::
          translationsIn origin key description rest := rfl
    rw [hcons, List.map_cons, ih, text_contribution attributes hinner, translationDataIn,
      translationData, if_pos rfl, translationDataIn_of_isData hinner, List.append_nil]
    rfl

theorem texts_translationsIn_of_isTextContent {content : List Node} (h : IsTextContent content) :
    (translationsIn origin key description content).map (·.text) =
      (translationDataIn content).map Text.unbroken := by
  induction h with
  | plain h => exact texts_translationsIn h
  | filler hfiller _ ih =>
    rw [translationsIn_cons_of_isData hfiller.isData, ih,
      translationDataIn_cons_of_isData hfiller.isData]
  | @described attributes line inner rest hinner hrest =>
    have hcons : translationsIn origin key description
          (.element descriptionName attributes line inner :: rest) =
        translationsIn origin key description rest := rfl
    rw [hcons, texts_translationsIn hrest, translationDataIn, translationData,
      translationDataIn_of_isData hinner, if_neg (by decide)]
    rfl

/-- A conforming document contributes the character data of its translations without line breaks. -/
theorem texts_contributions (origin : String) {root : Node} (h : Conforms root) :
    (contributions origin root).map (·.text) = (translationData root).map Text.unbroken := by
  obtain ⟨htexts⟩ := h
  rename_i attributes line children
  rw [contributions, translationData, if_neg (by decide), List.nil_append]
  induction htexts with
  | nil => rfl
  | filler hfiller _ ih =>
    rw [textsIn_cons_of_isData hfiller.isData, ih, translationDataIn_cons_of_isData hfiller.isData]
  | text _ hinner _ ih =>
    rw [textsIn_cons_text, List.map_append, ih, texts_translationsIn_of_isTextContent hinner,
      translationDataIn, translationData, if_neg (by decide), List.nil_append, List.map_append]

theorem texts_of_gives {cs : List Contribution} {placed : List Placed}
    (h : List.Forall₂ Contribution.Gives cs placed) {data : List (List Char)}
    (htexts : cs.map (·.text) = data.map Text.unbroken) :
    placed.map (·.entry.text) = data.map Text.unbroken := by
  induction h generalizing data with
  | nil => exact htexts
  | cons hgives _ ih =>
    cases data with
    | nil => cases htexts
    | cons cs data =>
      obtain ⟨hfirst, hrest⟩ := List.cons.inj htexts
      have htext := hgives.content.2.2.2.2.1
      dsimp only at hfirst
      rw [hfirst, Text.singleLine_unbroken] at htext
      rw [List.map_cons, List.map_cons, htext, ih hrest]

/-- Comments and processing instructions. -/
inductive IsRemark : Node → Prop
  | comment : IsRemark .comment
  | instruction : IsRemark .instruction

theorem IsRemark.isData {node : Node} (h : IsRemark node) : IsData node := by
  cases h with
  | comment => exact .comment
  | instruction => exact .instruction

theorem IsRemark.characters_eq {node : Node} (h : IsRemark node) : node.characters = [] := by
  cases h <;> rfl

/-- A remark is put between two nodes, or into a text, which it cuts in two. -/
inductive Remarked : List Node → List Node → Prop
  | between {remark : Node} (h : IsRemark remark) (before after : List Node) :
    Remarked (before ++ after) (before ++ remark :: after)
  | inside {remark : Node} (h : IsRemark remark) (before after : List Node) (cs ds : List Char) :
    Remarked (before ++ .text (cs ++ ds) :: after) (before ++ .text cs :: remark :: .text ds :: after)

/-- Nodes that become the same by putting in and taking out remarks. -/
abbrev SameButRemarks : List Node → List Node → Prop := Relation.EqvGen Remarked

theorem Remarked.charactersIn_eq {nodes others : List Node} (h : Remarked nodes others) :
    Node.charactersIn nodes = Node.charactersIn others := by
  cases h with
  | between h before after =>
    rw [Node.charactersIn_append, Node.charactersIn_append, Node.charactersIn, h.characters_eq,
      List.nil_append]
  | inside h before after cs ds =>
    simp only [Node.charactersIn_append, Node.charactersIn, Node.characters, h.characters_eq,
      List.nil_append, List.append_assoc]

theorem Remarked.isData_iff {nodes others : List Node} (h : Remarked nodes others) :
    (∀ node ∈ nodes, IsData node) ↔ ∀ node ∈ others, IsData node := by
  cases h with
  | between h before after =>
    simp only [List.forall_mem_append, List.forall_mem_cons, h.isData, true_and]
  | inside h before after cs ds =>
    simp only [List.forall_mem_append, List.forall_mem_cons, h.isData, IsData.text, true_and]

namespace SameButRemarks

variable {nodes others : List Node}

theorem charactersIn_eq (h : SameButRemarks nodes others) :
    Node.charactersIn nodes = Node.charactersIn others := by
  induction h with
  | rel _ _ h => exact h.charactersIn_eq
  | refl _ => rfl
  | symm _ _ _ ih => exact ih.symm
  | trans _ _ _ _ _ ih ih' => exact ih.trans ih'

theorem isData_iff (h : SameButRemarks nodes others) :
    (∀ node ∈ nodes, IsData node) ↔ ∀ node ∈ others, IsData node := by
  induction h with
  | rel _ _ h => exact h.isData_iff
  | refl _ => exact .rfl
  | symm _ _ _ ih => exact ih.symm
  | trans _ _ _ _ _ ih ih' => exact ih.trans ih'

end SameButRemarks

mutual

/-- Trees that differ only in remarks inside translations, and in the lines of their elements. -/
inductive Alike : Node → Node → Prop
  | same (node : Node) : Alike node node
  | translation {attributes : List (Xml.Name × List Char)} {line other : Nat}
      {inner inner' : List Node} : SameButRemarks inner inner' →
    Alike (.element translationName attributes line inner)
      (.element translationName attributes other inner')
  | element {tag : Xml.Name} {attributes : List (Xml.Name × List Char)} {line other : Nat}
      {children children' : List Node} : AllAlike children children' →
    Alike (.element tag attributes line children) (.element tag attributes other children')

/-- Trees of which each differs from its counterpart only in this way. -/
inductive AllAlike : List Node → List Node → Prop
  | nil : AllAlike [] []
  | cons {node other : Node} {rest rest' : List Node} :
    Alike node other → AllAlike rest rest' → AllAlike (node :: rest) (other :: rest')

end

theorem Alike.eq_of_isData {node other : Node} (h : Alike node other) (hdata : IsData node) :
    other = node := by
  cases hdata <;> cases h <;> rfl

theorem AllAlike.eq_of_isData {nodes others : List Node} (h : AllAlike nodes others)
    (hdata : ∀ node ∈ nodes, IsData node) : others = nodes := by
  induction nodes generalizing others with
  | nil =>
    cases h
    rfl
  | cons node nodes ih =>
    obtain ⟨hnode, hnodes⟩ := List.forall_mem_cons.mp hdata
    cases h with
    | cons hfirst hrest => rw [hfirst.eq_of_isData hnode, ih hrest hnodes]

theorem AllAlike.refl (nodes : List Node) : AllAlike nodes nodes := by
  induction nodes with
  | nil => exact .nil
  | cons node nodes ih => exact .cons (.same node) ih

theorem Alike.children {tag : Xml.Name} (htag : tag ≠ translationName)
    {attributes : List (Xml.Name × List Char)} {line : Nat} {children : List Node} {other : Node}
    (h : Alike (.element tag attributes line children) other) :
    ∃ line' children', other = .element tag attributes line' children' ∧
      AllAlike children children' := by
  cases h with
  | same => exact ⟨_, _, rfl, .refl children⟩
  | translation _ => exact absurd rfl htag
  | element h => exact ⟨_, _, rfl, h⟩

theorem Alike.data {attributes : List (Xml.Name × List Char)} {line : Nat} {inner : List Node}
    {other : Node} (h : Alike (.element translationName attributes line inner) other)
    (hdata : ∀ node ∈ inner, IsData node) :
    ∃ line' inner', other = .element translationName attributes line' inner' ∧
      (∀ node ∈ inner', IsData node) ∧ Node.charactersIn inner' = Node.charactersIn inner := by
  cases h with
  | same => exact ⟨line, inner, rfl, hdata, rfl⟩
  | translation h => exact ⟨_, _, rfl, h.isData_iff.mp hdata, h.charactersIn_eq.symm⟩
  | element h =>
    obtain rfl := h.eq_of_isData hdata
    exact ⟨_, _, rfl, hdata, rfl⟩

theorem contribution_congr (attributes : List (Xml.Name × List Char)) {inner inner' : List Node}
    (h : ∀ node ∈ inner, IsData node) (h' : ∀ node ∈ inner', IsData node)
    (hsame : Node.charactersIn inner' = Node.charactersIn inner) :
    contribution origin key description attributes inner' =
      contribution origin key description attributes inner := by
  rw [charactersIn_of_isData h, charactersIn_of_isData h'] at hsame
  rw [contribution, hsame, contribution]

theorem AllAlike.translationsIn_eq (origin key : String) (description : List Char)
    {content content' : List Node} (h : AreTranslations content)
    (halike : AllAlike content content') : AreTranslations content' ∧
      translationsIn origin key description content' =
        translationsIn origin key description content := by
  induction h generalizing content' with
  | nil =>
    cases halike
    exact ⟨.nil, rfl⟩
  | filler hfiller _ ih =>
    cases halike with
    | cons hfirst hrest =>
      obtain ⟨hshape, heq⟩ := ih hrest
      rw [hfirst.eq_of_isData hfiller.isData, translationsIn_cons_of_isData hfiller.isData,
        translationsIn_cons_of_isData hfiller.isData]
      exact ⟨.filler hfiller hshape, heq⟩
  | @translation attributes line inner rest hlanguage hinner _ ih =>
    cases halike with
    | cons hfirst hrest =>
      obtain ⟨hshape, heq⟩ := ih hrest
      obtain ⟨line', inner', rfl, hinner', hsame⟩ := hfirst.data hinner
      refine ⟨.translation hlanguage hinner' hshape, ?_⟩
      exact congrArg₂ List.cons (contribution_congr attributes hinner hinner' hsame) heq

theorem AllAlike.textContent (origin key : String) {content content' : List Node}
    (h : IsTextContent content) (halike : AllAlike content content') : IsTextContent content' ∧
      descriptionIn content' = descriptionIn content ∧
      ∀ description, translationsIn origin key description content' =
        translationsIn origin key description content := by
  induction h generalizing content' with
  | plain h =>
    have hshape (description : List Char) := halike.translationsIn_eq origin key description h
    refine ⟨.plain (hshape []).1, ?_, fun description => (hshape description).2⟩
    rw [descriptionIn_of_areTranslations h, descriptionIn_of_areTranslations (hshape []).1]
  | filler hfiller _ ih =>
    cases halike with
    | cons hfirst hrest =>
      obtain ⟨hshape, hdescription, heq⟩ := ih hrest
      rw [hfirst.eq_of_isData hfiller.isData, descriptionIn_cons_of_isData hfiller.isData,
        descriptionIn_cons_of_isData hfiller.isData]
      refine ⟨.filler hfiller hshape, hdescription, fun description => ?_⟩
      rw [translationsIn_cons_of_isData hfiller.isData, translationsIn_cons_of_isData hfiller.isData,
        heq description]
  | @described attributes line inner rest hinner hrest =>
    cases halike with
    | cons hfirst hothers =>
      have hshape (description : List Char) :=
        hothers.translationsIn_eq origin key description hrest
      obtain ⟨line', inner', rfl, hdata⟩ := hfirst.children (by decide)
      obtain rfl := hdata.eq_of_isData hinner
      refine ⟨.described hinner (hshape []).1, ?_, fun description => (hshape description).2⟩
      have hnone := (descriptionIn_of_areTranslations (hshape []).1).trans
        (descriptionIn_of_areTranslations hrest).symm
      exact congrArg (describe (piecesOf inner') ++ ·) hnone

/-- Remarks inside translations change neither the shape, nor the keys, nor the contributions. -/
theorem AllAlike.texts (origin : String) {nodes others : List Node} (h : AreTexts nodes)
    (halike : AllAlike nodes others) : AreTexts others ∧ keysIn others = keysIn nodes ∧
      textsIn origin others = textsIn origin nodes := by
  induction h generalizing others with
  | nil =>
    cases halike
    exact ⟨.nil, rfl, rfl⟩
  | filler hfiller _ ih =>
    cases halike with
    | cons hfirst hrest =>
      obtain ⟨hshape, hkeys, heq⟩ := ih hrest
      rw [hfirst.eq_of_isData hfiller.isData, keysIn_cons_of_isData hfiller.isData,
        keysIn_cons_of_isData hfiller.isData, textsIn_cons_of_isData hfiller.isData,
        textsIn_cons_of_isData hfiller.isData]
      exact ⟨.filler hfiller hshape, hkeys, heq⟩
  | @text attributes line inner rest hkey hinner _ ih =>
    obtain ⟨own, hlookup⟩ := Option.isSome_iff_exists.mp hkey
    cases halike with
    | cons hfirst hrest =>
      obtain ⟨hshape, hkeys, heq⟩ := ih hrest
      obtain ⟨line', inner', rfl, hcontent⟩ := hfirst.children (by decide)
      obtain ⟨hcontentShape, hdescription, htranslations⟩ := hcontent.textContent
        origin ((attribute? attributes keyName).getD "") hinner
      refine ⟨.text hkey hcontentShape hshape, ?_, ?_⟩
      · rw [keysIn_cons_text hlookup, keysIn_cons_text hlookup, hkeys]
      · rw [textsIn_cons_text, textsIn_cons_text, hdescription, htranslations, heq]

theorem Alike.conforms (origin : String) {root other : Node} (h : Conforms root)
    (halike : Alike root other) : Conforms other ∧ keys other = keys root ∧
      contributions origin other = contributions origin root := by
  obtain ⟨htexts⟩ := h
  obtain ⟨line', children', rfl, hchildren⟩ := halike.children (by decide)
  obtain ⟨hshape, hkeys, heq⟩ := hchildren.texts origin htexts
  exact ⟨.texts hshape, hkeys, heq⟩

theorem run_parse_of_blankKey {bytes : List UInt8} {root : Node} {line : Nat}
    (hread : (Xml.Document.read catalog bytes).root = .ok root) (hblank : blankKey? root = some line)
    (s : Session Merging) : (parse origin bytes).run s =
      .error (.blankTextKey origin line) ⟨s.state, s.events ++ served bytes⟩ := by
  simp only [parse, EStateM.run_bind, run_check_eq, hread, hblank]

/-- The texts of the entries that a merge of a conforming document adds, in order: those of its
translations without line breaks, up to the failure that ends the merge. -/
theorem run_parse_unbroken (origin : String) {bytes : List UInt8} {root : Node}
    (hread : (Xml.Document.read catalog bytes).root = .ok root) (hconforms : Conforms root)
    (s : Session Merging) :
    match (parse origin bytes).run s with
    | .ok count t => count = (translationData root).length ∧ ∃ placed,
        t.state.store.placed = s.state.store.placed ++ placed ∧
        placed.map (·.entry.text) = (translationData root).map Text.unbroken
    | .error _ t => ∃ placed, t.state.store.placed = s.state.store.placed ++ placed ∧
        placed.map (·.entry.text) = ((translationData root).take placed.length).map Text.unbroken := by
  have htexts := texts_contributions origin hconforms
  cases hblank : blankKey? root with
  | some line =>
    rw [run_parse_of_blankKey hread hblank]
    exact ⟨[], (List.append_nil _).symm, rfl⟩
  | none =>
    have hparse := run_parse_of_conforms origin hread hblank hconforms s
    cases hpass : (Contribution.addAll (contributions origin root)).run
        ⟨s.state.store, s.events ++ served bytes⟩ with
    | ok _ t =>
      rw [hpass] at hparse
      obtain ⟨reader, hrun, hcount⟩ := hparse
      obtain ⟨placed, hgives, hplaced⟩ := Contribution.placed_of_run_addAll hpass
      have hlength := congrArg List.length htexts
      rw [List.length_map, List.length_map] at hlength
      rw [hrun]
      exact ⟨hcount.trans hlength, placed, hplaced, texts_of_gives hgives htexts⟩
    | error failure t =>
      rw [hpass] at hparse
      obtain ⟨reader, hrun, _⟩ := hparse
      obtain ⟨placed, hgives, hplaced⟩ := Contribution.placed_of_run_addAll_error hpass
      rw [hrun]
      refine ⟨placed, hplaced, texts_of_gives hgives ?_⟩
      rw [List.map_take, htexts, List.map_take]

/-- Two merges come to the same end: both succeed or both fail, with the same count and the same entries in
the same order. They also fail alike; only the line of a blank key may be another one. -/
inductive SameEnd : EStateM.Result Failure (Session Merging) Nat →
    EStateM.Result Failure (Session Merging) Nat → Prop
  | ok {count : Nat} {s t : Session Merging} (hstore : s.state.store = t.state.store) :
      SameEnd (.ok count s) (.ok count t)
  | error {failure : Failure} {s t : Session Merging} (hstore : s.state.store = t.state.store)
      (hinserted : s.state.reader.inserted = t.state.reader.inserted) :
      SameEnd (.error failure s) (.error failure t)
  | blankKey {origin : String} {line line' : Nat} {s t : Session Merging}
      (hstore : s.state.store = t.state.store)
      (hinserted : s.state.reader.inserted = t.state.reader.inserted) :
      SameEnd (.error (.blankTextKey origin line) s) (.error (.blankTextKey origin line') t)

theorem sameEnd_of_alike (origin : String) {bytes bytes' : List UInt8} {root root' : Node}
    (hread : (Xml.Document.read catalog bytes).root = .ok root)
    (hread' : (Xml.Document.read catalog bytes').root = .ok root') (hconforms : Conforms root)
    (halike : Alike root root') (s : Session Merging) :
    SameEnd ((parse origin bytes).run s) ((parse origin bytes').run s) := by
  obtain ⟨hconforms', hkeys, hcontributions⟩ := halike.conforms origin hconforms
  have hblank_iff : blankKey? root = none ↔ blankKey? root' = none := by
    rw [blankKey?_eq_none_iff hconforms, blankKey?_eq_none_iff hconforms', hkeys]
  cases hblank : blankKey? root with
  | some line =>
    cases hblank' : blankKey? root' with
    | none =>
      rw [hblank_iff.mpr hblank'] at hblank
      cases hblank
    | some line' =>
      rw [run_parse_of_blankKey hread hblank, run_parse_of_blankKey hread' hblank']
      exact .blankKey rfl rfl
  | none =>
    have hparse := run_parse_of_conforms origin hread hblank hconforms s
    have hparse' := run_parse_of_conforms origin hread' (hblank_iff.mp hblank) hconforms' s
    have hevents := Contribution.run_addAll_of_events (contributions origin root) s.state.store
      (s.events ++ served bytes) (s.events ++ served bytes')
    rw [hcontributions] at hparse'
    cases hpass : (Contribution.addAll (contributions origin root)).run
        ⟨s.state.store, s.events ++ served bytes⟩ with
    | ok _ t =>
      rw [hpass] at hparse hevents
      obtain ⟨later, hpass'⟩ := hevents
      rw [hpass'] at hparse'
      obtain ⟨reader, hrun, hcount⟩ := hparse
      obtain ⟨reader', hrun', hcount'⟩ := hparse'
      rw [hrun, hrun', hcount, hcount']
      exact .ok rfl
    | error failure t =>
      rw [hpass] at hparse hevents
      obtain ⟨later, hpass'⟩ := hevents
      rw [hpass'] at hparse'
      obtain ⟨reader, hrun, hcount⟩ := hparse
      obtain ⟨reader', hrun', hcount'⟩ := hparse'
      rw [hrun, hrun']
      have hinserted : reader.inserted = reader'.inserted := by
        dsimp only at hcount'
        omega
      exact .error rfl hinserted

/-- The text that is stored for a translation is all its character data without line breaks. Comments and
processing instructions inside translations make no difference for a merge, wherever they stand. -/
theorem parse_unbroken (origin : String) {bytes : List UInt8} {root : Node}
    (hread : (Xml.Document.read catalog bytes).root = .ok root) (hconforms : Conforms root)
    (s : Session Merging) :
    (match (parse origin bytes).run s with
      | .ok count t => count = (translationData root).length ∧ ∃ placed,
          t.state.store.placed = s.state.store.placed ++ placed ∧
          placed.map (·.entry.text) = (translationData root).map Text.unbroken
      | .error _ t => ∃ placed, t.state.store.placed = s.state.store.placed ++ placed ∧
          placed.map (·.entry.text) =
            ((translationData root).take placed.length).map Text.unbroken) ∧
    ∀ (bytes' : List UInt8) (root' : Node), (Xml.Document.read catalog bytes').root = .ok root' →
      Alike root root' → SameEnd ((parse origin bytes).run s) ((parse origin bytes').run s) := by
  refine ⟨run_parse_unbroken origin hread hconforms s, ?_⟩
  intro bytes' root' hread' halike
  exact sameEnd_of_alike origin hread hread' hconforms halike s

/-- A document with a German title whose line is broken by a carriage return and a line feed, with
something between the two. -/
def brokenDocument (remark : String) : List UInt8 :=
  ("<!DOCTYPE texts SYSTEM \"http://dtd.tquadrat.org/AdditionalText.dtd\"><texts><text key=\"Title\">" ++
    "<translation language=\"de\">Ti&#13;" ++ remark ++ "&#10;tel</translation></text></texts>").toList.map
    fun c => UInt8.ofNat c.toNat

def brokenRoot (inner : List Node) : Node :=
  .element textsName [] 1 [.element textName [(keyName, ['T', 'i', 't', 'l', 'e'])] 1
    [.element translationName [(languageName, ['d', 'e'])] 1 inner]]

theorem root_brokenDocument : (Xml.Document.read catalog (brokenDocument "")).root =
    .ok (brokenRoot [.text ['T', 'i', '\r', '\n', 't', 'e', 'l']]) := by
  have hbytes : brokenDocument "" = _ :=
    congrArg (List.map _) (toList_append_eq (toList_append_eq
      (toList_append_eq String.toList_ofList String.toList_ofList) String.toList_ofList)
      String.toList_ofList)
  refine (congrArg (fun bytes => (Xml.Document.read catalog bytes).root) hbytes).trans ?_
  decide +kernel

theorem root_brokenDocument_comment : (Xml.Document.read catalog (brokenDocument "<!-- -->")).root =
    .ok (brokenRoot [.text ['T', 'i', '\r'], .comment, .text ['\n', 't', 'e', 'l']]) := by
  have hbytes : brokenDocument "<!-- -->" = _ :=
    congrArg (List.map _) (toList_append_eq (toList_append_eq
      (toList_append_eq String.toList_ofList String.toList_ofList) String.toList_ofList)
      String.toList_ofList)
  refine (congrArg (fun bytes => (Xml.Document.read catalog bytes).root) hbytes).trans ?_
  decide +kernel

theorem conforms_brokenRoot (content : List Char) : Conforms (brokenRoot [.text content]) := by
  refine .texts (.text (by decide) (.plain (.translation (by decide) ?_ .nil)) .nil)
  intro node hnode
  rw [List.mem_singleton.mp hnode]
  exact .text _

theorem alike_brokenRoot (cs ds : List Char) :
    Alike (brokenRoot [.text (cs ++ ds)]) (brokenRoot [.text cs, .comment, .text ds]) := by
  have hinner : SameButRemarks [.text (cs ++ ds)] [.text cs, .comment, .text ds] :=
    .rel _ _ (.inside .comment [] [] cs ds)
  exact .element (.cons (.element (.cons (.translation hinner) .nil)) .nil)

theorem parse_unbroken_title :
    (Xml.Document.read catalog (brokenDocument "")).root =
      .ok (brokenRoot [.text ['T', 'i', '\r', '\n', 't', 'e', 'l']]) ∧
    Conforms (brokenRoot [.text ['T', 'i', '\r', '\n', 't', 'e', 'l']]) ∧
    Text.unbroken ['T', 'i', '\r', '\n', 't', 'e', 'l'] = "Titel" ∧
    SameEnd ((parse fileName (brokenDocument "")).run ⟨⟨.start, .empty⟩, []⟩)
      ((parse fileName (brokenDocument "<!-- -->")).run ⟨⟨.start, .empty⟩, []⟩) := by
  have hconforms := conforms_brokenRoot ['T', 'i', '\r', '\n', 't', 'e', 'l']
  have hparse := parse_unbroken fileName root_brokenDocument hconforms
    ⟨⟨.start, .empty⟩, []⟩
  have halike : Alike (brokenRoot [.text ['T', 'i', '\r', '\n', 't', 'e', 'l']])
      (brokenRoot [.text ['T', 'i', '\r'], .comment, .text ['\n', 't', 'e', 'l']]) :=
    alike_brokenRoot ['T', 'i', '\r'] ['\n', 't', 'e', 'l']
  have hsame := hparse.2 (brokenDocument "<!-- -->") _ root_brokenDocument_comment halike
  exact ⟨root_brokenDocument, hconforms, by decide, hsame⟩

end AdditionalText

end ResourceBundle
