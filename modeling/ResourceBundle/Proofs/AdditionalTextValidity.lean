import ResourceBundle.Proofs.AdditionalTextMerge
import ResourceBundle.Proofs.ValidTrees

/-! # Valid documents of additional texts

A document whose document type declares the grammar of additional texts, and nothing besides it, is only
merged if it has the shape that this grammar asks for. -/

namespace ResourceBundle

namespace Xml

theorem eq_of_splitName_eq_none {name localPart : Name} (h : splitName name = (none, localPart)) :
    localPart = name := by
  rw [splitName] at h
  split at h
  · split at h
    · exact (Prod.mk.inj h).2.symm
    · cases h
  · exact (Prod.mk.inj h).2.symm

theorem Resolves.eq_of_splitName {name expanded : Name} (h : Resolves name expanded)
    (hname : splitName name = (none, name)) : expanded = name := by
  rw [Resolves, hname] at h
  exact h

/-- Where no declared attribute has a prefix, a required one is among those that the tree keeps. -/
theorem isSome_lookup_kept {rules : Rules} {element : Name} {attributes : List Attribute}
    {decl : AttributeDecl}
    (hplain : ∀ decl ∈ rules.grammar.attributes, splitName decl.name = (none, decl.name))
    (hresolved : ∀ attr ∈ attributes, Resolves attr.name attr.expanded)
    (hdeclared : ∀ attr ∈ attributes, rules.Declares element attr)
    (hgiven : Rules.isGiven decl attributes = true) :
    ((Attribute.kept attributes).lookup decl.name).isSome := by
  obtain ⟨attr, hattr, hname⟩ := List.any_eq_true.mp hgiven
  obtain ⟨own, hown, _⟩ := hdeclared attr hattr
  obtain ⟨hmem, hownName⟩ := mem_attributes_of_validAttribute? hown
  have hsplit : splitName attr.name = (none, attr.name) := by
    rw [← hownName]
    exact hplain own hmem
  rw [hsplit, Bool.or_self] at hname
  have hexpanded := (hresolved attr hattr).eq_of_splitName hsplit
  rw [of_decide_eq_true hname] at hexpanded
  rw [Option.isSome_iff_ne_none, ne_eq, List.lookup_eq_none_iff]
  intro hnone
  have hne := hnone (attr.expanded, attr.value) (List.mem_map_of_mem hattr)
  rw [hexpanded, bne_self_eq_false] at hne
  cases hne

/-- Whether a document is checked against the elements and the attributes of a grammar, with a given name
for its document element. -/
def Document.Scanned.Follows (scanned : Document.Scanned) (root : Name) (grammar : Grammar) : Prop :=
  ∃ doctype, scanned.doctype = some doctype ∧ doctype.isBare = false ∧ doctype.root = root ∧
    doctype.grammar.elements = grammar.elements ∧ doctype.grammar.attributes = grammar.attributes

end Xml

namespace AdditionalText

open Xml (Node Rules IsValid AreValid Resolves)

variable {rules : Rules}

theorem isData_of_areValid {nodes : List Node} (h : AreValid rules [] nodes) :
    ∀ node ∈ nodes, IsData node := by
  induction nodes with
  | nil => exact nofun
  | cons node nodes ih =>
    cases h with
    | text hnodes => exact List.forall_mem_cons.mpr ⟨.text _, ih hnodes⟩
    | comment hnodes => exact List.forall_mem_cons.mpr ⟨.comment, ih hnodes⟩
    | instruction hnodes => exact List.forall_mem_cons.mpr ⟨.instruction, ih hnodes⟩

/-- Valid elements, written with the given names, with nothing but fillers between them. -/
inductive AreSpaced (rules : Rules) : List Xml.Name → List Node → Prop
  | nil : AreSpaced rules [] []
  | filler {names : List Xml.Name} {node : Node} {nodes : List Node} :
    IsFiller node → AreSpaced rules names nodes → AreSpaced rules names (node :: nodes)
  | element {name : Xml.Name} {names : List Xml.Name} {node : Node} {nodes : List Node} :
    IsValid rules name node → AreSpaced rules names nodes →
    AreSpaced rules (name :: names) (node :: nodes)

theorem areSpaced_of_areValid {names : List Xml.Name} {nodes : List Node}
    (h : AreValid rules names nodes) (hblank : ∀ text, .text text ∈ nodes → Xml.isBlank text = true) :
    AreSpaced rules names nodes := by
  induction nodes generalizing names with
  | nil =>
    cases h
    exact .nil
  | cons node nodes ih =>
    have hrest : ∀ text, .text text ∈ nodes → Xml.isBlank text = true :=
      fun text hmem => hblank text (List.mem_cons_of_mem _ hmem)
    cases h with
    | element hnode hnodes => exact .element hnode (ih hnodes hrest)
    | text hnodes => exact .filler (.space (hblank _ List.mem_cons_self)) (ih hnodes hrest)
    | comment hnodes => exact .filler .comment (ih hnodes hrest)
    | instruction hnodes => exact .filler .instruction (ih hnodes hrest)

theorem names_of_mixed_nil {names : List Xml.Name} {children : List Node}
    (h : (Xml.Content.mixed []).Allows names children) : names = [] :=
  List.eq_nil_iff_forall_not_mem.mpr fun name hname => absurd (h name hname) nofun

theorem names_of_textModel {names : List Xml.Name} (h : names ∈ textModel.language) :
    (∀ name ∈ names, name = translationName) ∨
      ∃ rest, names = descriptionName :: rest ∧ ∀ name ∈ rest, name = translationName := by
  obtain ⟨before, hbefore, after, hafter, rfl⟩ := (Xml.Model.mem_language_sequence _ _ _).mp h
  have htranslations := Xml.Model.mem_language_star_symbol.mp hafter
  rcases Xml.Model.mem_language_optional.mp hbefore with rfl | rfl
  · exact .inl htranslations
  · exact .inr ⟨after, rfl, htranslations⟩

/-- Whether rules have the elements and the attributes of the grammar of additional texts. -/
structure Applies (rules : Rules) : Prop where
  elements : rules.grammar.elements = grammar.elements
  attributes : rules.grammar.attributes = grammar.attributes

namespace Applies

variable (h : Applies rules)
include h

theorem element? (name : Xml.Name) : rules.grammar.element? name = grammar.element? name := by
  rw [Xml.Grammar.element?, Xml.Grammar.element?, h.elements]

theorem splitName_attribute : ∀ decl ∈ rules.grammar.attributes,
    Xml.splitName decl.name = (none, decl.name) := by
  rw [h.attributes]
  decide

/-- What a valid element is, if the grammar of additional texts declares its name. -/
theorem shape {name : Xml.Name} {decl : Xml.ElementDecl} {node : Node}
    (hdecl : grammar.element? name = some decl) (hvalid : IsValid rules name node) :
    ∃ tag attributes line children names, node = .element tag attributes line children ∧
      Resolves name tag ∧ decl.content.Allows names children ∧ AreValid rules names children ∧
      ∀ attr ∈ grammar.attributesOf decl.name, attr.default = .required →
        (attributes.lookup attr.name).isSome := by
  cases hvalid with
  | @element _ tag attributes line children names own htag hresolved hdeclared hown hcomplete hallows
      hchildren =>
    rw [h.element?, hdecl] at hown
    cases hown
    refine ⟨tag, _, line, children, names, rfl, htag, hallows, hchildren, fun attr hattr hrequired => ?_⟩
    refine Xml.isSome_lookup_kept h.splitName_attribute hresolved hdeclared (hcomplete attr ?_ hrequired)
    rw [Xml.Grammar.attributesOf, h.attributes]
    exact hattr

theorem description {node : Node} (hvalid : IsValid rules descriptionName node) :
    ∃ attributes line inner, node = .element descriptionName attributes line inner ∧
      ∀ node ∈ inner, IsData node := by
  have hdecl : grammar.element? descriptionName = some ⟨descriptionName, .mixed [], true⟩ := by decide
  obtain ⟨tag, attributes, line, inner, names, rfl, htag, hallows, hinner, _⟩ :=
    h.shape hdecl hvalid
  rw [htag.eq_of_splitName (by decide)]
  exact ⟨attributes, line, inner, rfl, isData_of_areValid (names_of_mixed_nil hallows ▸ hinner)⟩

theorem translation {node : Node} (hvalid : IsValid rules translationName node) :
    ∃ attributes line inner, node = .element translationName attributes line inner ∧
      (attributes.lookup languageName).isSome ∧ ∀ node ∈ inner, IsData node := by
  have hdecl : grammar.element? translationName = some ⟨translationName, .mixed [], true⟩ := by decide
  obtain ⟨tag, attributes, line, inner, names, rfl, htag, hallows, hinner, hlanguage⟩ :=
    h.shape hdecl hvalid
  rw [htag.eq_of_splitName (by decide)]
  exact ⟨attributes, line, inner, rfl,
    hlanguage ⟨translationName, languageName, .cdata, .required⟩ (by decide) rfl,
    isData_of_areValid (names_of_mixed_nil hallows ▸ hinner)⟩

theorem areTranslations {names : List Xml.Name} {nodes : List Node}
    (hnodes : AreSpaced rules names nodes) (hnames : ∀ name ∈ names, name = translationName) :
    AreTranslations nodes := by
  induction hnodes with
  | nil => exact .nil
  | filler hfiller _ ih => exact .filler hfiller (ih hnames)
  | element hnode _ ih =>
    obtain ⟨rfl, hnames'⟩ := List.forall_mem_cons.mp hnames
    obtain ⟨attributes, line, inner, rfl, hlanguage, hinner⟩ := h.translation hnode
    exact .translation hlanguage hinner (ih hnames')

theorem isTextContent_of_description {names : List Xml.Name} {nodes : List Node}
    (hnodes : AreSpaced rules (descriptionName :: names) nodes)
    (hnames : ∀ name ∈ names, name = translationName) : IsTextContent nodes := by
  generalize hall : descriptionName :: names = all at hnodes
  induction hnodes with
  | nil => cases hall
  | filler hfiller _ ih => exact .filler hfiller (ih hall)
  | element hnode hrest _ =>
    cases hall
    obtain ⟨attributes, line, inner, rfl, hinner⟩ := h.description hnode
    exact .described hinner (h.areTranslations hrest hnames)

theorem text {node : Node} (hvalid : IsValid rules textName node) :
    ∃ attributes line inner, node = .element textName attributes line inner ∧
      (attributes.lookup keyName).isSome ∧ IsTextContent inner := by
  have hdecl : grammar.element? textName = some ⟨textName, .children textModel, true⟩ := by decide
  obtain ⟨tag, attributes, line, inner, names, rfl, htag, ⟨hnames, hblank⟩, hinner, hkey⟩ :=
    h.shape hdecl hvalid
  rw [htag.eq_of_splitName (by decide)]
  refine ⟨attributes, line, inner, rfl, hkey ⟨textName, keyName, .cdata, .required⟩ (by decide) rfl, ?_⟩
  have hspaced := areSpaced_of_areValid hinner hblank
  rcases names_of_textModel hnames with htranslations | ⟨rest, rfl, htranslations⟩
  · exact .plain (h.areTranslations hspaced htranslations)
  · exact h.isTextContent_of_description hspaced htranslations

theorem areTexts {names : List Xml.Name} {nodes : List Node} (hnodes : AreSpaced rules names nodes)
    (hnames : ∀ name ∈ names, name = textName) : AreTexts nodes := by
  induction hnodes with
  | nil => exact .nil
  | filler hfiller _ ih => exact .filler hfiller (ih hnames)
  | element hnode _ ih =>
    obtain ⟨rfl, hnames'⟩ := List.forall_mem_cons.mp hnames
    obtain ⟨attributes, line, inner, rfl, hkey, hinner⟩ := h.text hnode
    exact .text hkey hinner (ih hnames')

end Applies

/-- The tags that a valid document element may have: its name can be written with the prefix of XML. -/
def IsRootTag (tag : Xml.Name) : Prop :=
  tag = textsName ∨ tag = Xml.expandedName (some Xml.xmlNamespace) textsName

theorem element?_of_splitName {name before localPart : Xml.Name}
    (hname : Xml.splitName name = (some before, localPart)) :
    grammar.element? name = grammar.elements.find? (·.name = localPart) := by
  have hnone : grammar.elements.find? (·.name = name) = none := by
    refine List.find?_eq_none.mpr fun decl hdecl heq => ?_
    have hplain : ∀ decl ∈ grammar.elements, (Xml.splitName decl.name).1 = none := by decide
    have hunprefixed := hplain decl hdecl
    rw [of_decide_eq_true heq, hname] at hunprefixed
    cases hunprefixed
  rw [Xml.Grammar.element?, hnone]
  simp only [hname]

/-- A valid document element that is called as the grammar says holds texts. -/
theorem Applies.root (h : Applies rules) {name : Xml.Name} {node : Node}
    (hroot : name = textsName ∨ (Xml.splitName name).2 = textsName) (hvalid : IsValid rules name node) :
    ∃ tag attributes line children, node = .element tag attributes line children ∧ IsRootTag tag ∧
      AreTexts children := by
  obtain ⟨hdecl, htag⟩ : grammar.element? name =
      some ⟨textsName, .children (.star (.symbol textName)), true⟩ ∧
      ∀ tag, Resolves name tag → IsRootTag tag := by
    cases hname : Xml.splitName name with
    | mk before localPart =>
      cases before with
      | none =>
        rw [hname, Xml.eq_of_splitName_eq_none hname, or_self] at hroot
        subst hroot
        exact ⟨by decide, fun tag htag => .inl (htag.eq_of_splitName (by decide))⟩
      | some before =>
        have hlocal : localPart = textsName := by
          rcases hroot with rfl | hroot
          · cases hname
          · rwa [hname] at hroot
        subst hlocal
        refine ⟨(element?_of_splitName hname).trans (by decide), fun tag htag => .inr ?_⟩
        rw [Resolves, hname] at htag
        exact htag.2
  obtain ⟨tag, attributes, line, children, names, rfl, hresolves, ⟨hnames, hblank⟩, hchildren, _⟩ :=
    h.shape hdecl hvalid
  exact ⟨tag, attributes, line, children, rfl, htag tag hresolves,
    h.areTexts (areSpaced_of_areValid hchildren hblank)
      (Xml.Model.mem_language_star_symbol.mp hnames)⟩

/-- The name of the document element makes no difference for what is merged. -/
theorem tracks_of_isRootTag (origin : String) {tag : Xml.Name} (htag : IsRootTag tag)
    (attributes : List (Xml.Name × List Char)) (line : Nat) {children : List Node}
    (h : AreTexts children) : Tracks (fun _ => True) (textsIn origin children)
      (replay origin (.element tag attributes line children)) (fun _ => True) := by
  rcases htag with rfl | rfl
  · exact tracks_root (.texts h)
  · have henter : enter (Xml.expandedName (some Xml.xmlNamespace) textsName) attributes
        (piecesOf children) = pure () := by
      rw [enter, if_neg (by decide), if_neg (by decide), if_neg (by decide), if_neg (by decide)]
    have hleave : leave origin (Xml.expandedName (some Xml.xmlNamespace) textsName) = pure () := by
      rw [leave, if_neg (by decide), if_neg (by decide), if_neg (by decide)]
    rw [replay, henter, hleave, pure_bind, bind_pure]
    exact tracks_texts h

theorem occurrences_of_isRootTag {tag : Xml.Name} (htag : IsRootTag tag)
    (attributes : List (Xml.Name × List Char)) (line : Nat) (children : List Node) :
    Node.occurrences translationName (.element tag attributes line children) =
      Node.occurrencesIn translationName children := by
  rw [Node.occurrences, if_neg (by rcases htag with rfl | rfl <;> decide), Nat.zero_add]

theorem length_textsIn (origin : String) {nodes : List Node} (h : AreTexts nodes) :
    (textsIn origin nodes).length = Node.occurrencesIn translationName nodes := by
  have hlength : (textsIn origin nodes).length =
      Node.occurrences translationName (.element textsName [] 0 nodes) :=
    length_contributions (.texts h)
  rw [hlength, occurrences_of_isRootTag (.inl rfl)]

theorem count_of_run_parse {origin : String} {bytes : List UInt8} {root : Node}
    {cs : List Contribution} {count : Nat} {s t : Session Merging}
    (hread : (Xml.Document.read catalog bytes).root = .ok root) (hblank : blankKey? root = none)
    (htracks : Tracks (fun _ => True) cs (replay origin root) (fun _ => True))
    (h : (parse origin bytes).run s = .ok count t) : count = cs.length := by
  have hparse := run_parse_of_tracks hread hblank htracks s
  cases hpass : (Contribution.addAll cs).run ⟨s.state.store, s.events ++ served bytes⟩ with
  | ok _ pass =>
    rw [hpass] at hparse
    obtain ⟨reader, hrun, hcount⟩ := hparse
    rw [hrun] at h
    cases h
    exact hcount
  | error failure pass =>
    rw [hpass] at hparse
    obtain ⟨reader, hrun, _⟩ := hparse
    rw [hrun] at h
    cases h

/-! ### Documents that name the grammar -/

/-- The document type declaration that names the grammar of additional texts. -/
def doctypeText : List Char :=
  "<!DOCTYPE texts SYSTEM \"http://dtd.tquadrat.org/AdditionalText.dtd\">".toList

set_option maxRecDepth 100000 in
theorem run_read_doctypeText (standalone : Bool) (size : Nat) (rest : List Char) :
    (Xml.Doctype.read ⟨catalog, standalone, false, size⟩).run
        ⟨doctypeText.drop 9 ++ rest, [], [], 0, []⟩ =
      .ok ⟨textsName, grammar, true, false⟩ ⟨rest, [], [], 0, [systemId.toList]⟩ := by
  cbv

theorem doctype_of_run_scan {standalone : Bool} {lineFeeds size : Nat} {rest : List Char}
    {doctype : Option Xml.Doctype} {s : Xml.ScanState}
    (h : (Xml.Document.scan catalog standalone lineFeeds size).run ⟨doctypeText ++ rest, [], [], 0, []⟩ =
      .ok doctype s) : doctype = some ⟨textsName, grammar, true, false⟩ := by
  unfold Xml.Document.scan at h
  obtain ⟨_, u, hmisc, h⟩ := EStateM.run_bind_eq_ok_iff.mp h
  have hmisc' : (Xml.Document.misc (size + 1)).run ⟨doctypeText ++ rest, [], [], 0, []⟩ =
      .ok () ⟨doctypeText ++ rest, [], [], 0, []⟩ := by cbv
  cases hmisc'.symm.trans hmisc
  obtain ⟨declared, v, haccept, h⟩ := EStateM.run_bind_eq_ok_iff.mp h
  have haccept' : (Xml.Scan.accept ['<', '!', 'D', 'O', 'C', 'T', 'Y', 'P', 'E']).run
      ⟨doctypeText ++ rest, [], [], 0, []⟩ =
        .ok true ⟨doctypeText.drop 9 ++ rest, [], [], 0, []⟩ := by cbv
  cases haccept'.symm.trans haccept
  dsimp only at h
  rw [if_pos rfl] at h
  obtain ⟨own, w, hread, h⟩ := EStateM.run_bind_eq_ok_iff.mp h
  cases (run_read_doctypeText standalone size rest).symm.trans hread
  rw [if_neg (by decide)] at h
  obtain ⟨_, _, _, h⟩ := EStateM.run_bind_eq_ok_iff.mp h
  rw [pure_bind] at h
  obtain ⟨_, _, _, h⟩ := EStateM.run_bind_eq_ok_iff.mp h
  obtain ⟨_, _, _, h⟩ := EStateM.run_bind_eq_ok_iff.mp h
  obtain ⟨_, _, _, h⟩ := EStateM.run_bind_eq_ok_iff.mp h
  obtain ⟨_, _, _, h⟩ := EStateM.run_bind_eq_ok_iff.mp h
  split at h
  · cases h
  · cases h
    rfl

/-- A document that names the grammar of additional texts, and declares nothing itself, is checked against
it. -/
theorem follows_of_doctypeText {bytes : List UInt8} {text rest : List Char}
    {declaration : Option Xml.Declaration} {scanned : Xml.Document.Scanned}
    (htext : Xml.Encoding.readText bytes = .ok (text, true))
    (hdeclaration : Xml.Declaration.read text = .ok (declaration, doctypeText ++ rest))
    (hscanned : Xml.Document.scanned? catalog bytes = some scanned) :
    scanned.Follows textsName grammar := by
  simp only [Xml.Document.scanned?, htext, hdeclaration] at hscanned
  split at hscanned
  · rename_i hscan
    cases hscanned
    exact ⟨_, doctype_of_run_scan hscan, rfl, rfl, rfl, rfl⟩
  · cases hscanned

/-! ### Merging -/

/-- A merge that succeeds has read a document of texts with keys that are not blank, and has counted its
translations, if the document is checked against the grammar of additional texts and hides no error. -/
theorem texts_of_run_parse {origin : String} {bytes : List UInt8} {count : Nat}
    {s t : Session Merging} {scanned : Xml.Document.Scanned}
    (h : (parse origin bytes).run s = .ok count t)
    (hscanned : Xml.Document.scanned? catalog bytes = some scanned)
    (hfollows : scanned.Follows textsName grammar) (hhides : ¬ scanned.HidesError) :
    ∃ tag attributes line children,
      (Xml.Document.read catalog bytes).root = .ok (.element tag attributes line children) ∧
      IsRootTag tag ∧ AreTexts children ∧ (∀ key ∈ keysIn children, key.all Text.isBlank = false) ∧
      count = Node.occurrences translationName (.element tag attributes line children) := by
  obtain ⟨root, u, hcheck, _⟩ := Action.run_bind_eq_ok_iff.mp h
  obtain ⟨hread, hblank⟩ := run_check_eq_ok hcheck
  obtain ⟨doctype, hdoctype, hbare, hroot, helements, hattributes⟩ := hfollows
  have hplain : ∀ decl ∈ doctype.grammar.attributes, Xml.declaredPrefix? decl.name = none := by
    rw [hattributes]
    decide
  obtain ⟨name, hname, hvalid⟩ :=
    Xml.Document.isValid_of_root hscanned hread hdoctype hbare hplain hhides
  rw [Rules.isRoot, hroot, Bool.or_eq_true, decide_eq_true_iff, decide_eq_true_iff] at hname
  have happlies : Applies ⟨doctype.root, doctype.grammar, scanned.standalone⟩ := ⟨helements, hattributes⟩
  obtain ⟨tag, attributes, line, children, rfl, htag, htexts⟩ := happlies.root hname hvalid
  have htracks := tracks_of_isRootTag origin htag attributes line htexts
  have hcount := count_of_run_parse hread hblank htracks h
  rw [length_textsIn origin htexts, ← occurrences_of_isRootTag htag attributes line] at hcount
  refine ⟨tag, attributes, line, children, hread, htag, htexts, ?_, hcount⟩
  rw [blankKey?] at hblank
  split at hblank
  · cases hblank
  · exact not_blank_of_firstBlankKey? hblank

def titleScanned : Xml.Document.Scanned where
  doctype := some ⟨textsName, grammar, true, false⟩
  standalone := false
  tokens := [.start textsName textsName [] [] 2,
    .start textName textName [⟨keyName, keyName, ['T', 'i', 't', 'l', 'e']⟩] [] 2,
    .start translationName translationName [⟨languageName, languageName, ['d', 'e']⟩] [] 2,
    .text ['T', 'i'], .stop, .stop, .stop]

theorem scanned_titleDocument : Xml.Document.scanned? catalog titleDocument = some titleScanned := by
  have hbytes : titleDocument = _ :=
    congrArg (List.map _) (toList_append_eq String.toList_ofList String.toList_ofList)
  refine (congrArg (Xml.Document.scanned? catalog) hbytes).trans ?_
  decide +kernel

theorem not_hidesError_titleScanned : ¬ titleScanned.HidesError := by
  rintro ⟨_, r, hr, _⟩
  have hnone : titleScanned.reports = [] := by rfl
  rw [hnone] at hr
  cases hr

theorem follows_titleScanned : titleScanned.Follows textsName grammar := by
  have hdoctype : doctypeText = _ := String.toList_ofList
  obtain ⟨rest, htext⟩ : ∃ rest, Xml.Encoding.readText titleDocument = .ok (doctypeText ++ rest, true) := by
    have hbytes : titleDocument = _ :=
      congrArg (List.map _) (toList_append_eq String.toList_ofList String.toList_ofList)
    refine ⟨(titleDocument.drop doctypeText.length).map fun byte => Char.ofNat byte.toNat, ?_⟩
    rw [hbytes, hdoctype]
    decide +kernel
  have hdeclaration : Xml.Declaration.read (doctypeText ++ rest) = .ok (none, doctypeText ++ rest) := by
    rw [hdoctype]
    rfl
  exact follows_of_doctypeText htext hdeclaration scanned_titleDocument

theorem exists_run_parse_titleDocument : ∃ count t,
    (parse fileName titleDocument).run ⟨⟨.start, .empty⟩, []⟩ = .ok count t := by
  have hparse := run_parse_of_conforms fileName root_titleDocument (by decide) conforms_titleRoot
    ⟨⟨.start, .empty⟩, []⟩
  have hresolve : Locale.resolve (some "de") = .ok "de" := by rfl
  obtain ⟨entry, hgives⟩ := Contribution.gives_of_resolve
    (c := ⟨some "de", "Title", false, "", "Ti", fileName⟩) (by decide) hresolve
  have hnodup : ((Store.empty.placed ++ [(⟨"de", entry⟩ : Placed)]).map Placed.slot).Nodup :=
    List.pairwise_singleton _ _
  obtain ⟨t, hpass, _⟩ := Contribution.run_addAll_of_gives (.cons hgives .nil)
    (s := ⟨.empty, [] ++ served titleDocument⟩) hnodup
  have hcontributions : contributions fileName titleRoot =
      [⟨some "de", "Title", false, "", "Ti", fileName⟩] := by rfl
  rw [hcontributions, hpass] at hparse
  obtain ⟨reader, hrun, _⟩ := hparse
  exact ⟨_, _, hrun⟩

theorem texts_of_run_parse_title : ∃ count t,
    (parse fileName titleDocument).run ⟨⟨.start, .empty⟩, []⟩ = .ok count t ∧
    Xml.Document.scanned? catalog titleDocument = some titleScanned ∧
    titleScanned.Follows textsName grammar ∧ ¬ titleScanned.HidesError ∧ count = 1 := by
  obtain ⟨count, t, hrun⟩ := exists_run_parse_titleDocument
  obtain ⟨tag, attributes, line, children, hread, _, _, _, hcount⟩ := texts_of_run_parse hrun
    scanned_titleDocument follows_titleScanned not_hidesError_titleScanned
  have hroot : titleRoot = .element tag attributes line children :=
    Except.ok.inj (root_titleDocument.symm.trans hread)
  rw [← hroot] at hcount
  exact ⟨count, t, hrun, scanned_titleDocument, follows_titleScanned, not_hidesError_titleScanned,
    hcount.trans (by decide)⟩

/-! ### Documents with a grammar of their own -/

/-- A document that declares translations right inside its document element. -/
def looseDocument : List UInt8 :=
  ("<!DOCTYPE texts [<!ELEMENT texts (translation*)> <!ELEMENT translation (#PCDATA)> " ++
    "<!ATTLIST translation language CDATA #REQUIRED>]>" ++
    "<texts><translation language=\"de\">Titel</translation></texts>").toList.map
    fun c => UInt8.ofNat c.toNat

def looseRoot : Node :=
  .element textsName [] 1
    [.element translationName [(languageName, ['d', 'e'])] 1 [.text ['T', 'i', 't', 'e', 'l']]]

theorem root_looseDocument : (Xml.Document.read catalog looseDocument).root = .ok looseRoot := by
  have hbytes : looseDocument = _ :=
    congrArg (List.map _) (toList_append_eq
      (toList_append_eq String.toList_ofList String.toList_ofList) String.toList_ofList)
  refine (congrArg (fun bytes => (Xml.Document.read catalog bytes).root) hbytes).trans ?_
  decide +kernel

theorem run_parse_of_run_replay {origin : String} {bytes : List UInt8} {root : Node}
    (hread : (Xml.Document.read catalog bytes).root = .ok root) (hblank : blankKey? root = none)
    {s t : Session Merging} (hreplay : (replay origin root).run
      ⟨⟨{ s.state.reader.reset with inserted := 0 }, s.state.store⟩, s.events ++ served bytes⟩ =
        .ok () t) :
    (parse origin bytes).run s =
      .ok t.state.reader.inserted ⟨t.state, t.events ++ [.merged t.state.reader.inserted]⟩ := by
  simp only [parse, EStateM.run_bind, run_check hread hblank, run_onReader, hreplay,
    Action.run_getState, Action.run_record, EStateM.run_pure]

theorem run_replay_looseRoot (events : List Event) :
    (replay fileName looseRoot).run ⟨⟨{ Reader.start.reset with inserted := 0 }, .empty⟩, events⟩ =
      .ok () ⟨⟨.start, .empty⟩, events⟩ := by
  cbv

/-- A document with a grammar of its own is merged although it does not conform, and its translation is
lost. -/
theorem parse_looseDocument :
    (∃ t, (parse fileName looseDocument).run ⟨⟨.start, .empty⟩, []⟩ = .ok 0 t) ∧
    (Xml.Document.read catalog looseDocument).root = .ok looseRoot ∧ ¬ Conforms looseRoot ∧
    looseRoot.occurrences translationName = 1 := by
  have hreplay := run_replay_looseRoot ([] ++ served looseDocument)
  generalize hevents : [] ++ served looseDocument = events at hreplay
  have hparse := run_parse_of_run_replay (s := ⟨⟨.start, .empty⟩, []⟩) root_looseDocument (by decide)
    (by rw [hevents]; exact hreplay)
  refine ⟨⟨_, hparse⟩, root_looseDocument, ?_, by decide⟩
  rintro ⟨htexts⟩
  cases htexts with
  | filler hfiller _ => cases hfiller

end AdditionalText

end ResourceBundle
