import ResourceBundle.Proofs.ModelLanguage
import ResourceBundle.Proofs.ResolvedNames

/-! # Valid trees

What the checks of the tokens of a document promise about its tree: if none of them finds an error,
every element of the tree is declared, has the declared attributes, and holds what its declaration
says. -/

namespace ResourceBundle.Xml

variable {rules : Rules}

/-- Whether children, the elements among which have the given names, are what an element may hold. -/
def Content.Allows (content : Content) (names : List Name) (children : List Node) : Prop :=
  match content with
  | .empty => children = []
  | .any => True
  | .mixed listed => ∀ name ∈ names, Rules.isListed listed name = true
  | .children model => names ∈ model.language ∧ ∀ text, .text text ∈ children → isBlank text = true

/-- Whether an attribute of an element is declared and has a value that fits its declaration. -/
def Rules.Declares (rules : Rules) (element : Name) (attr : Attribute) : Prop :=
  ∃ decl, rules.grammar.validAttribute? element attr.name = some decl ∧ rules.fits decl attr.value = true

/-- Whether no required attribute of an element is left out. -/
def Rules.IsComplete (rules : Rules) (element : Name) (attributes : List Attribute) : Prop :=
  ∀ decl ∈ rules.grammar.attributesOf element, decl.default = .required →
    Rules.isGiven decl attributes = true

/-- The attributes that a tree keeps of those of a start tag. -/
def Attribute.kept (attributes : List Attribute) : List (Name × List Char) :=
  attributes.map fun attr => (attr.expanded, attr.value)

mutual

/-- An element that was written with a name and is valid. -/
inductive IsValid (rules : Rules) : Name → Node → Prop
  | element {name tag : Name} {attributes : List Attribute} {line : Nat} {children : List Node}
      {names : List Name} {decl : ElementDecl} :
    Resolves name tag → (∀ attr ∈ attributes, Resolves attr.name attr.expanded) →
    (∀ attr ∈ attributes, rules.Declares name attr) →
    rules.grammar.element? name = some decl → rules.IsComplete decl.name attributes →
    decl.content.Allows names children → AreValid rules names children →
    IsValid rules name (.element tag (Attribute.kept attributes) line children)

/-- Nodes the elements among which were written with the given names and are valid. -/
inductive AreValid (rules : Rules) : List Name → List Node → Prop
  | nil : AreValid rules [] []
  | element {name : Name} {node : Node} {names : List Name} {nodes : List Node} :
    IsValid rules name node → AreValid rules names nodes →
    AreValid rules (name :: names) (node :: nodes)
  | text {content : List Char} {names : List Name} {nodes : List Node} :
    AreValid rules names nodes → AreValid rules names (.text content :: nodes)
  | comment {names : List Name} {nodes : List Node} :
    AreValid rules names nodes → AreValid rules names (.comment :: nodes)
  | instruction {names : List Name} {nodes : List Node} :
    AreValid rules names nodes → AreValid rules names (.instruction :: nodes)

end

namespace AreValid

theorem of_cons_text {content : List Char} {names : List Name} {nodes : List Node}
    (h : AreValid rules names (.text content :: nodes)) : AreValid rules names nodes := by
  cases h with
  | element hnode _ => cases hnode
  | text hnodes => exact hnodes

theorem append {names more : List Name} {nodes rest : List Node} (h : AreValid rules names nodes)
    (hrest : AreValid rules more rest) : AreValid rules (names ++ more) (nodes ++ rest) := by
  induction nodes generalizing names with
  | nil =>
    cases h
    exact hrest
  | cons node nodes ih =>
    cases h with
    | element hnode hnodes => exact .element hnode (ih hnodes)
    | text hnodes => exact .text (ih hnodes)
    | comment hnodes => exact .comment (ih hnodes)
    | instruction hnodes => exact .instruction (ih hnodes)

theorem reverse {names : List Name} {nodes : List Node} (h : AreValid rules names nodes) :
    AreValid rules names.reverse nodes.reverse := by
  induction nodes generalizing names with
  | nil =>
    cases h
    exact .nil
  | cons node nodes ih =>
    rw [List.reverse_cons]
    cases h with
    | element hnode hnodes =>
      rw [List.reverse_cons]
      exact (ih hnodes).append (.element hnode .nil)
    | text hnodes => simpa using (ih hnodes).append (.text .nil)
    | comment hnodes => simpa using (ih hnodes).append (.comment .nil)
    | instruction hnodes => simpa using (ih hnodes).append (.instruction .nil)

end AreValid

/-! ### Open elements -/

/-- How an element whose end has not been read is known to the checks and to the tree. -/
structure OpenElement.Agrees (rules : Rules) (seen : OpenElement) (built : Node.Unfinished) : Prop where
  tag : Resolves seen.name built.tag
  kept : built.attributes = Attribute.kept seen.attributes
  resolved : ∀ attr ∈ seen.attributes, Resolves attr.name attr.expanded
  declared : ∀ attr ∈ seen.attributes, rules.Declares seen.name attr
  namespaces : seen.namespaces = []
  children : AreValid rules seen.children built.children
  blank : seen.hasText = false → ∀ text, .text text ∈ built.children → isBlank text = true
  bare : seen.hasContent = false → built.children = []

/-- An element in which another one has begun. -/
def OpenElement.withChild (seen : OpenElement) (name : Name) : OpenElement :=
  { seen with children := name :: seen.children, hasContent := true }

def OpenElement.withText (seen : OpenElement) (content : List Char) : OpenElement :=
  { seen with
    hasContent := true
    hasText := seen.hasText || !isBlank content
    hasBlank := seen.hasBlank || isBlank content }

def OpenElement.withNote (seen : OpenElement) : OpenElement := { seen with hasContent := true }

theorem isBlank_append (before content : List Char) :
    isBlank (before ++ content) = (isBlank before && isBlank content) := List.all_append

/-- Text becomes a node of its own, or is joined to the text before it. -/
theorem Node.Unfinished.add_text_cases (built : Node.Unfinished) (content : List Char) :
    built.add (.text content) = { built with children := .text content :: built.children } ∨
    ∃ before rest, built.children = .text before :: rest ∧
      built.add (.text content) = { built with children := .text (before ++ content) :: rest } := by
  obtain ⟨tag, attributes, line, children⟩ := built
  cases children with
  | nil => exact .inl rfl
  | cons node rest =>
    cases node with
    | text before => exact .inr ⟨before, rest, rfl, rfl⟩
    | _ => exact .inl rfl

namespace OpenElement.Agrees

variable {seen : OpenElement} {built : Node.Unfinished}

theorem withText (h : seen.Agrees rules built) (content : List Char) :
    (seen.withText content).Agrees rules (built.add (.text content)) := by
  have hblank : (seen.withText content).hasText = false →
      (∀ text, .text text ∈ built.children → isBlank text = true) ∧ isBlank content = true := by
    intro htext
    obtain ⟨hseen, hcontent⟩ := Bool.or_eq_false_iff.mp htext
    exact ⟨h.blank hseen, by simpa using hcontent⟩
  rcases built.add_text_cases content with hadd | ⟨before, rest, hchildren, hadd⟩
  · rw [hadd]
    refine ⟨h.tag, h.kept, h.resolved, h.declared, h.namespaces, .text h.children, ?_, nofun⟩
    intro htext text hmem
    obtain ⟨hold, hcontent⟩ := hblank htext
    rcases List.mem_cons.mp hmem with heq | hmem
    · cases heq
      exact hcontent
    · exact hold text hmem
  · have hrest : AreValid rules seen.children rest := AreValid.of_cons_text (hchildren ▸ h.children)
    rw [hadd]
    refine ⟨h.tag, h.kept, h.resolved, h.declared, h.namespaces, .text hrest, ?_, nofun⟩
    intro htext text hmem
    obtain ⟨hold, hcontent⟩ := hblank htext
    rw [hchildren] at hold
    rcases List.mem_cons.mp hmem with heq | hmem
    · cases heq
      rw [isBlank_append, hold before List.mem_cons_self, hcontent, Bool.and_self]
    · exact hold text (List.mem_cons_of_mem _ hmem)

theorem withComment (h : seen.Agrees rules built) :
    seen.withNote.Agrees rules (built.add .comment) :=
  ⟨h.tag, h.kept, h.resolved, h.declared, h.namespaces, .comment h.children,
    fun htext text hmem => h.blank htext text ((List.mem_cons.mp hmem).resolve_left nofun), nofun⟩

theorem withInstruction (h : seen.Agrees rules built) :
    seen.withNote.Agrees rules (built.add .instruction) :=
  ⟨h.tag, h.kept, h.resolved, h.declared, h.namespaces, .instruction h.children,
    fun htext text hmem => h.blank htext text ((List.mem_cons.mp hmem).resolve_left nofun), nofun⟩

theorem withChild (h : seen.Agrees rules built) {name : Name} {inner : Node.Unfinished}
    (hinner : IsValid rules name inner.node) :
    (seen.withChild name).Agrees rules (built.add inner.node) :=
  ⟨h.tag, h.kept, h.resolved, h.declared, h.namespaces, .element hinner h.children,
    fun htext text hmem => h.blank htext text ((List.mem_cons.mp hmem).resolve_left nofun), nofun⟩

/-- The content of an element is allowed if nothing is wrong with it. -/
theorem allows {decl : ElementDecl} (h : seen.Agrees rules built)
    (hreports : ∀ r ∈ rules.contentReports decl seen, r.isError = false) :
    decl.content.Allows seen.children.reverse built.children.reverse := by
  rw [Rules.contentReports] at hreports
  cases hcontent : decl.content with
  | any => trivial
  | empty =>
    simp only [hcontent] at hreports
    split at hreports
    · exact absurd (hreports _ List.mem_cons_self) (by decide)
    · rename_i hbare
      rw [Content.Allows, h.bare (Bool.eq_false_of_not_eq_true hbare), List.reverse_nil]
  | mixed listed =>
    simp only [hcontent] at hreports
    split at hreports
    · rename_i hall
      intro name hname
      exact List.all_eq_true.mp hall name (List.mem_reverse.mp hname)
    · exact absurd (hreports _ List.mem_cons_self) (by decide)
  | children model =>
    simp only [hcontent] at hreports
    have hmodel := fun r hr => hreports r (List.mem_append_right _ hr)
    split at hmodel
    · exact absurd (hmodel _ List.mem_cons_self) (by decide)
    · split at hmodel
      · exact absurd (hmodel _ List.mem_cons_self) (by decide)
      · rename_i hmatch
        simp only [Bool.or_eq_true, not_or, Bool.not_eq_true, Bool.not_eq_false', Model.isMatch_iff]
          at hmatch
        exact ⟨hmatch.2, fun text hmem => h.blank hmatch.1 text (List.mem_reverse.mp hmem)⟩

/-- An element is valid if nothing is wrong with it at its end. -/
theorem isValid (h : seen.Agrees rules built)
    (hreports : ∀ r ∈ rules.elementReports seen, r.isError = false) :
    IsValid rules seen.name built.node := by
  rw [Rules.elementReports] at hreports
  split at hreports
  · exact absurd (hreports _ List.mem_cons_self) (by decide)
  · rename_i decl hdecl
    have hcomplete : rules.IsComplete decl.name seen.attributes := by
      have hmissing := fun r hr => hreports r (List.mem_append_right _ hr)
      split at hmissing
      · rename_i hall
        intro attr hattr hrequired
        have hgiven := List.all_eq_true.mp hall attr hattr
        rw [h.namespaces, List.append_nil, hrequired] at hgiven
        exact hgiven
      · exact absurd (hmissing _ List.mem_cons_self) (by decide)
    rw [Node.Unfinished.node, h.kept]
    exact .element h.tag h.resolved h.declared hdecl hcomplete
      (h.allows fun r hr => hreports r (List.mem_append_left _ hr)) h.children.reverse

end OpenElement.Agrees

/-! ### All open elements -/

/-- How the open elements are known to the checks and to the tree, the innermost first. The checks count
an element among the children of its parent from its start on, the tree from its end on. -/
inductive Agree (rules : Rules) : List OpenElement → List Node.Unfinished → Prop
  | nil : Agree rules [] []
  | root {seen : OpenElement} {built : Node.Unfinished} :
    seen.Agrees rules built → rules.isRoot seen.name = true → Agree rules [seen] [built]
  | inner {seen parent : OpenElement} {outer : List OpenElement} {built : Node.Unfinished}
      {rest : List Node.Unfinished} :
    seen.Agrees rules built → Agree rules (parent :: outer) rest →
    Agree rules (seen :: parent.withChild seen.name :: outer) (built :: rest)

namespace Agree

theorem change {s : ValidityState} {built : List Node.Unfinished} (f : OpenElement → OpenElement)
    {node : Node} (h : Agree rules s.opened built)
    (hchange : ∀ seen e, OpenElement.Agrees rules seen e →
      (f seen).name = seen.name ∧ (f seen).Agrees rules (e.add node)) :
    Agree rules (Rules.onInnermost f s).opened (Node.addInnermost node built) := by
  obtain ⟨opened, ids, references⟩ := s
  cases h with
  | nil => exact .nil
  | root hseen hroot =>
    obtain ⟨hname, hagrees⟩ := hchange _ _ hseen
    exact .root hagrees (by rw [hname, hroot])
  | @inner seen parent outer e rest hseen hrest =>
    obtain ⟨hname, hagrees⟩ := hchange _ _ hseen
    have hinner := Agree.inner hagrees hrest
    rw [hname] at hinner
    exact hinner

theorem begin {s : ValidityState} {built : List Node.Unfinished} {seen : OpenElement}
    {e : Node.Unfinished} (h : Agree rules s.opened built) (hseen : seen.Agrees rules e)
    (hroot : s.opened = [] → rules.isRoot seen.name = true) :
    Agree rules (seen :: (Rules.onInnermost (·.withChild seen.name) s).opened) (e :: built) := by
  obtain ⟨opened, ids, references⟩ := s
  cases opened with
  | nil =>
    cases h
    exact .root hseen (hroot rfl)
  | cons parent outer => exact .inner hseen h

theorem finish {seen parent : OpenElement} {outer : List OpenElement} {e : Node.Unfinished}
    {rest : List Node.Unfinished} (h : Agree rules (seen :: parent :: outer) (e :: rest))
    (hvalid : IsValid rules seen.name e.node) :
    Agree rules (parent :: outer) (Node.addInnermost e.node rest) := by
  cases h with
  | inner _ hrest =>
    cases hrest with
    | root hparent hroot => exact .root (hparent.withChild hvalid) hroot
    | inner hparent houter => exact .inner (hparent.withChild hvalid) houter

end Agree

/-! ### Checking all tokens -/

theorem opened_checkAttribute (rules : Rules) (element : Name) (attr : Attribute) (s : ValidityState) :
    (rules.checkAttribute element attr s).2.opened = s.opened := by
  rw [Rules.checkAttribute]
  split
  · rfl
  · dsimp only
    split
    · split <;> rfl
    all_goals rfl

/-- The reports on a declared attribute begin with the one on its value. -/
theorem checkAttribute_of_declared {element : Name} {attr : Attribute} {decl : AttributeDecl}
    (hdecl : rules.grammar.validAttribute? element attr.name = some decl) (s : ValidityState) :
    ∃ further, (rules.checkAttribute element attr s).1 =
      (if rules.fits decl attr.value then [] else [.invalidAttribute]) ++ further := by
  simp only [Rules.checkAttribute, hdecl]
  split
  · split
    · exact ⟨_, rfl⟩
    · exact ⟨[], (List.append_nil _).symm⟩
  all_goals exact ⟨[], (List.append_nil _).symm⟩

theorem declares_of_checkAttribute {element : Name} {attr : Attribute} {s : ValidityState}
    (h : ∀ r ∈ (rules.checkAttribute element attr s).1, r.isError = false) :
    rules.Declares element attr := by
  cases hdecl : rules.grammar.validAttribute? element attr.name with
  | none =>
    simp only [Rules.checkAttribute, hdecl] at h
    exact absurd (h _ List.mem_cons_self) (by decide)
  | some decl =>
    obtain ⟨further, hfurther⟩ := checkAttribute_of_declared hdecl s
    rw [hfurther] at h
    refine ⟨decl, hdecl, ?_⟩
    by_contra hfits
    rw [if_neg hfits] at h
    exact absurd (h _ List.mem_cons_self) (by decide)

theorem opened_checkAttributes (rules : Rules) (element : Name) (attributes : List Attribute)
    (s : ValidityState) : (rules.checkAttributes element attributes s).2.opened = s.opened := by
  induction attributes generalizing s with
  | nil => rfl
  | cons attr rest ih => rw [Rules.checkAttributes, ih, opened_checkAttribute]

theorem declares_of_checkAttributes {element : Name} {attributes : List Attribute} {s : ValidityState}
    (h : ∀ r ∈ (rules.checkAttributes element attributes s).1, r.isError = false) :
    ∀ attr ∈ attributes, rules.Declares element attr := by
  induction attributes generalizing s with
  | nil => exact nofun
  | cons attr rest ih =>
    rw [Rules.checkAttributes] at h
    obtain ⟨hattr, hrest⟩ := List.forall_mem_append.mp h
    exact List.forall_mem_cons.mpr ⟨declares_of_checkAttribute hattr, ih hrest⟩

/-- If no check finds an error, the tree of the tokens is valid, and its document element has the name
that the rules ask for. -/
theorem isValid_of_ofTokensFrom? {tokens : List Token} {s : ValidityState}
    {built : List Node.Unfinished} {node : Node} (hagree : Agree rules s.opened built)
    (hresolved : ∀ token ∈ tokens, token.Resolved)
    (hreports : ∀ r ∈ (rules.checkTokens tokens s).1, r.isError = false)
    (htree : Node.ofTokensFrom? built tokens = some node) :
    ∃ name, rules.isRoot name = true ∧ IsValid rules name node := by
  induction tokens generalizing s built with
  | nil => cases htree
  | cons token rest ih =>
    obtain ⟨htoken, hrest⟩ := List.forall_mem_cons.mp hresolved
    rw [Rules.checkTokens] at hreports
    obtain ⟨htokenReports, hreports⟩ := List.forall_mem_append.mp hreports
    cases token with
    | report r => exact ih hagree hrest hreports htree
    | text content =>
      have hnext := hagree.change (·.withText content) fun _ _ h => ⟨rfl, h.withText content⟩
      exact ih hnext hrest hreports htree
    | comment =>
      have hnext := hagree.change (·.withNote) fun _ _ h => ⟨rfl, h.withComment⟩
      exact ih hnext hrest hreports htree
    | instruction =>
      have hnext := hagree.change (·.withNote) fun _ _ h => ⟨rfl, h.withInstruction⟩
      exact ih hnext hrest hreports htree
    | start name expanded attributes namespaces line =>
      obtain ⟨rfl, htag, hattributes⟩ := htoken
      obtain ⟨hdeclared, hroot⟩ := List.forall_mem_append.mp htokenReports
      have hseen : OpenElement.Agrees rules ⟨name, attributes, [], [], false, false, false⟩
          ⟨expanded, Attribute.kept attributes, line, []⟩ :=
        ⟨htag, rfl, hattributes, declares_of_checkAttributes hdeclared, rfl, .nil, nofun, fun _ => rfl⟩
      have hopened := opened_checkAttributes rules name ([] ++ attributes) s
      rw [← hopened] at hagree
      refine ih (hagree.begin hseen fun hnil => ?_) hrest hreports htree
      by_contra hwrong
      have hmem := hroot .wrongRoot (by
        rw [hopened] at hnil
        rw [hnil, List.isEmpty_nil, Bool.eq_false_of_not_eq_true hwrong]
        exact List.mem_cons_self)
      cases hmem
    | stop =>
      cases hopened : s.opened with
      | nil =>
        rw [hopened] at hagree
        cases hagree
        cases htree
      | cons seen outer =>
        rw [hopened] at hagree
        simp only [Rules.checkToken, hopened] at htokenReports hreports
        cases hagree with
        | root hseen hroot =>
          cases htree
          exact ⟨_, hroot, hseen.isValid htokenReports⟩
        | inner hseen houter =>
          have hvalid := hseen.isValid htokenReports
          refine ih (s := { s with opened := _ }) ((Agree.inner hseen houter).finish hvalid) hrest
            hreports ?_
          cases houter <;> exact htree

theorem mem_checkTokens_of_report {tokens : List Token} {r : Report} (h : .report r ∈ tokens)
    (s : ValidityState) : r ∈ (rules.checkTokens tokens s).1 := by
  induction tokens generalizing s with
  | nil => cases h
  | cons token rest ih =>
    rw [Rules.checkTokens]
    rcases List.mem_cons.mp h with heq | h
    · rw [← heq]
      exact List.mem_append_left _ List.mem_cons_self
    · exact List.mem_append_right _ (ih h _)

theorem declares_of_checkTokens {tokens : List Token} {s : ValidityState}
    (hreports : ∀ r ∈ (rules.checkTokens tokens s).1, r.isError = false) {name expanded : Name}
    {attributes namespaces : List Attribute} {line : Nat}
    (h : .start name expanded attributes namespaces line ∈ tokens) :
    ∀ attr ∈ namespaces, rules.Declares name attr := by
  induction tokens generalizing s with
  | nil => cases h
  | cons token rest ih =>
    rw [Rules.checkTokens] at hreports
    obtain ⟨htoken, hrest⟩ := List.forall_mem_append.mp hreports
    rcases List.mem_cons.mp h with heq | h
    · rw [← heq] at htoken
      have hdeclared := declares_of_checkAttributes (List.forall_mem_append.mp htoken).1
      exact (List.forall_mem_append.mp hdeclared).1
    · exact ih hrest h

theorem mem_attributes_of_validAttribute? {grammar : Grammar} {element name : Name}
    {decl : AttributeDecl} (h : grammar.validAttribute? element name = some decl) :
    decl ∈ grammar.attributes ∧ decl.name = name := by
  have hfind : ∀ own, grammar.attribute? own name = some decl →
      decl ∈ grammar.attributes ∧ decl.name = name := by
    intro own hown
    have hdecl := List.find?_some hown
    exact ⟨List.mem_of_find?_eq_some hown, (of_decide_eq_true hdecl).2⟩
  rw [Grammar.validAttribute?] at h
  split at h
  · rename_i own
    exact hfind _ (h ▸ own)
  · split at h
    · exact hfind _ h
    · cases h

/-- A document that passes the checks is free of namespaces, unless its grammar allows to declare them. -/
theorem namespaceFree_of_checkTokens {tokens : List Token} {s : ValidityState}
    (hplain : ∀ decl ∈ rules.grammar.attributes, declaredPrefix? decl.name = none)
    (hreports : ∀ r ∈ (rules.checkTokens tokens s).1, r.isError = false) : NamespaceFree tokens := by
  refine ⟨fun hstart attr hattr => ?_, fun hreport => ?_⟩
  · obtain ⟨decl, hdecl, _⟩ := declares_of_checkTokens hreports hstart attr hattr
    obtain ⟨hmem, hname⟩ := mem_attributes_of_validAttribute? hdecl
    rw [← hname]
    exact hplain decl hmem
  · exact absurd (hreports _ (mem_checkTokens_of_report hreport s)) (by decide)

/-! ### Whole documents -/

namespace Document

/-- What reading the text of a document tells, before it is checked. -/
structure Scanned where
  doctype : Option Doctype
  standalone : Bool
  tokens : List Token
deriving DecidableEq

/-- What reading a document tells, if there is no fault. -/
def scanned? (catalog : Catalog) (bytes : List UInt8) : Option Scanned :=
  match Encoding.readText bytes with
  | .ok (text, true) =>
    match Declaration.read text with
    | .ok (declaration, rest) =>
      let standalone := ((declaration.bind (·.standalone))).getD false
      match (scan catalog standalone (text.count '\n') text.length).run ⟨rest, [], [], 0, []⟩ with
      | .ok doctype s => some ⟨doctype, standalone, (Scan.flushed s).reverse⟩
      | .error _ _ => none
    | .error _ => none
  | _ => none

def Scanned.reports (scanned : Scanned) : List Report :=
  Document.reports scanned.doctype scanned.standalone scanned.tokens

/-- Whether a document is let through though there are errors in it: only the last report decides. -/
def Scanned.HidesError (scanned : Scanned) : Prop :=
  refusal? scanned.reports = none ∧ ∃ r ∈ scanned.reports, r.isError = true

variable {catalog : Catalog} {bytes : List UInt8} {root : Node} {scanned : Scanned}

/-- What it takes to give the document element. -/
theorem exists_scanned_of_root (h : (read catalog bytes).root = .ok root) :
    ∃ scanned, scanned? catalog bytes = some scanned ∧ refusal? scanned.reports = none ∧
      Node.ofTokens? scanned.tokens = some root := by
  rw [read] at h
  split at h
  · cases h
  · split at h
    · cases h
    · rename_i text complete htext
      rw [ofText] at h
      split at h
      · cases h
      · rename_i declaration rest hdeclaration
        dsimp only at h
        split at h
        · cases h
        · rename_i doctype s hscan
          cases complete with
          | false => cases h
          | true =>
            simp only [Bool.not_true, Bool.false_eq_true, if_false] at h
            refine ⟨⟨doctype, (declaration.bind (·.standalone)).getD false, (Scan.flushed s).reverse⟩,
              by simp only [scanned?, htext, hdeclaration, hscan], ?_⟩
            split at h
            · cases h
            · rename_i hrefusal
              split at h
              · rename_i node htree
                cases h
                exact ⟨hrefusal, htree⟩
              · cases h

/-- The tokens of a document come from a scan that starts without tokens. -/
theorem run_scan_of_scanned? (h : scanned? catalog bytes = some scanned) :
    ∃ lineFeeds size rest s,
      (scan catalog scanned.standalone lineFeeds size).run ⟨rest, [], [], 0, []⟩ =
        .ok scanned.doctype s ∧ scanned.tokens = (Scan.flushed s).reverse := by
  rw [scanned?] at h
  split at h
  · rename_i text _
    split at h
    · rename_i declaration rest _
      dsimp only at h
      split at h
      · rename_i doctype s hscan
        cases h
        exact ⟨_, _, _, _, hscan, rfl⟩
      · cases h
    · cases h
  · cases h

theorem resolved_of_scanned? (h : scanned? catalog bytes = some scanned)
    (hfree : NamespaceFree scanned.tokens) : ∀ token ∈ scanned.tokens, token.Resolved := by
  obtain ⟨lineFeeds, size, rest, s, hscan, htokens⟩ := run_scan_of_scanned? h
  obtain ⟨texts, hflushed, htexts⟩ := Scan.flushed_eq s
  have hsub : s.tokens ⊆ scanned.tokens := by
    rw [htokens, hflushed]
    exact fun token hmem => List.mem_reverse.mpr (List.mem_append_right _ hmem)
  obtain ⟨_, hkeep⟩ := keeps_scan catalog scanned.standalone lineFeeds size _ _ _ hscan
  obtain ⟨hresolved, _⟩ := hkeep (hfree.mono hsub) trivial nofun
  intro token htoken
  rw [htokens, hflushed, List.mem_reverse] at htoken
  rcases List.mem_append.mp htoken with htext | hmem
  · obtain ⟨content, rfl⟩ := htexts token htext
    trivial
  · exact hresolved token hmem

/-- A document that is accepted and in which no error is hidden is valid against the grammar that its
document type declares, if this grammar lets no element declare a namespace. -/
theorem isValid_of_root {doctype : Doctype} (hscanned : scanned? catalog bytes = some scanned)
    (hroot : (read catalog bytes).root = .ok root) (hdoctype : scanned.doctype = some doctype)
    (hbare : doctype.isBare = false)
    (hplain : ∀ decl ∈ doctype.grammar.attributes, declaredPrefix? decl.name = none)
    (hhides : ¬ scanned.HidesError) :
    ∃ name, (Rules.mk doctype.root doctype.grammar scanned.standalone).isRoot name = true ∧
      IsValid ⟨doctype.root, doctype.grammar, scanned.standalone⟩ name root := by
  obtain ⟨own, hown, hrefusal, htree⟩ := exists_scanned_of_root hroot
  cases hscanned.symm.trans hown
  have herrors : ∀ r ∈ scanned.reports, r.isError = false := by
    intro r hr
    by_contra herror
    exact hhides ⟨hrefusal, r, hr, Bool.eq_true_of_not_eq_false herror⟩
  rw [Scanned.reports, hdoctype, reports, hbare] at herrors
  have hchecks := (List.forall_mem_append.mp herrors).1
  have hresolved := resolved_of_scanned? hscanned (namespaceFree_of_checkTokens hplain hchecks)
  exact isValid_of_ofTokensFrom? .nil hresolved hchecks htree

end Document

end ResourceBundle.Xml
