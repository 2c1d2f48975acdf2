import ResourceBundle.Xml.Subset

/-! # Validity

The tokens of a document are checked against a grammar in the order in which they were read: each
value of an attribute where it stands, the content of an element where it ends, references to IDs at the
end of the document. The reports of reading keep their places among those of checking. -/

namespace ResourceBundle.Xml

/-- An element whose end has not been read. -/
structure OpenElement where
  name : Name
  attributes : List Attribute
  namespaces : List Attribute
  /-- The names of the elements inside it, the last one first. -/
  children : List Name
  hasText : Bool
  hasBlank : Bool
  hasContent : Bool

/-- What has been seen of a document. -/
structure ValidityState where
  /-- The open elements, the innermost first. -/
  opened : List OpenElement
  ids : List (List Char)
  references : List (List Char)

structure Rules where
  root : Name
  grammar : Grammar
  standalone : Bool

namespace Rules

/-- Whether a value fits the declaration of its attribute. -/
def fits (rules : Rules) (decl : AttributeDecl) (value : List Char) : Bool :=
  decl.type.admits value && decl.type.lists value &&
    (match decl.default with
      | .fixed fixed => value == fixed
      | _ => true) &&
    (match decl.type with
      | .entity => rules.grammar.isUnparsed value
      | .entities => (words value).all rules.grammar.isUnparsed
      | .notationName _ => rules.grammar.notations.contains value
      | _ => true)

def checkAttribute (rules : Rules) (element : Name) (attr : Attribute) (s : ValidityState) :
    List Report × ValidityState :=
  match rules.grammar.validAttribute? element attr.name with
  | none => ([.undeclaredAttribute], s)
  | some decl =>
    let value := attr.value
    let wrong := if rules.fits decl value then [] else [.invalidAttribute]
    match decl.type with
    | .id =>
      if s.ids.contains value then (wrong ++ [.repeatedId], s)
      else (wrong, { s with ids := value :: s.ids })
    | .idref => (wrong, { s with references := value :: s.references })
    | .idrefs => (wrong, { s with references := words value ++ s.references })
    | _ => (wrong, s)

def checkAttributes (rules : Rules) (element : Name) : List Attribute → ValidityState →
    List Report × ValidityState
  | [], s => ([], s)
  | attr :: rest, s =>
    let (reports, s) := rules.checkAttribute element attr s
    let (further, s) := rules.checkAttributes element rest s
    (reports ++ further, s)

/-- Whether a required attribute is there; the prefix of an attribute does not matter where none is
declared. -/
def isGiven (decl : AttributeDecl) (attributes : List Attribute) : Bool :=
  attributes.any fun attr =>
    decide (attr.name = decl.name) || decide ((splitName attr.name).2 = decl.name)

/-- Whether a child is among the names of mixed content, under its qualified or its local name. -/
def isListed (names : List Name) (child : Name) : Bool :=
  names.contains child || names.contains (splitName child).2

def contentReports (rules : Rules) (decl : ElementDecl) (e : OpenElement) : List Report :=
  match decl.content with
  | .any => []
  | .empty => if e.hasContent then [.invalidContent] else []
  | .mixed names => if e.children.all (isListed names) then [] else [.invalidContent]
  | .children model =>
    (if rules.standalone && decl.isExternal && e.hasBlank then [.standaloneSpace] else []) ++
      (if model.isAmbiguous then [.ambiguousModel]
      else if e.hasText || !model.isMatch e.children.reverse then [.invalidContent]
      else [])

/-- What is wrong with an element at its end. -/
def elementReports (rules : Rules) (e : OpenElement) : List Report :=
  match rules.grammar.element? e.name with
  | none => [.undeclaredElement]
  | some decl =>
    rules.contentReports decl e ++
      if (rules.grammar.attributesOf decl.name).all fun attr =>
          attr.default != .required || isGiven attr (e.attributes ++ e.namespaces) then []
      else [.missingAttribute]

def onInnermost (change : OpenElement → OpenElement) (s : ValidityState) : ValidityState :=
  match s.opened with
  | [] => s
  | e :: rest => { s with opened := change e :: rest }

/-- Whether a name is that of the document element, as written or without its prefix. -/
def isRoot (rules : Rules) (name : Name) : Bool :=
  decide (name = rules.root) || decide ((splitName name).2 = rules.root)

def checkToken (rules : Rules) (token : Token) (s : ValidityState) : List Report × ValidityState :=
  match token with
  | .report r => ([r], s)
  | .comment | .instruction => ([], onInnermost (fun e => { e with hasContent := true }) s)
  | .text content =>
    ([], onInnermost (fun e => { e with
      hasContent := true
      hasText := e.hasText || !isBlank content
      hasBlank := e.hasBlank || isBlank content }) s)
  | .start name _ attributes namespaces _ =>
    let rootReports := if s.opened.isEmpty && !rules.isRoot name then [.wrongRoot] else []
    let (reports, s) := rules.checkAttributes name (namespaces ++ attributes) s
    let s := onInnermost (fun e => { e with children := name :: e.children, hasContent := true }) s
    (reports ++ rootReports,
      { s with opened := ⟨name, attributes, namespaces, [], false, false, false⟩ :: s.opened })
  | .stop =>
    match s.opened with
    | [] => ([], s)
    | e :: rest => (rules.elementReports e, { s with opened := rest })

def checkTokens (rules : Rules) : List Token → ValidityState → List Report × ValidityState
  | [], s => ([], s)
  | token :: rest, s =>
    let (reports, s) := rules.checkToken token s
    let (further, s) := rules.checkTokens rest s
    (reports ++ further, s)

def reports (rules : Rules) (tokens : List Token) : List Report :=
  let (reports, s) := rules.checkTokens tokens ⟨[], [], []⟩
  reports ++ if s.references.all s.ids.contains then [] else [.unknownId]

end Rules

/-- The reports on a document that has no grammar: one at its first start tag, besides those of
reading. -/
def reportsWithoutGrammar : List Token → List Report
  | [] => []
  | .report r :: rest => r :: reportsWithoutGrammar rest
  | .start .. :: rest => .missingGrammar :: rest.filterMap fun
    | .report r => some r
    | _ => none
  | _ :: rest => reportsWithoutGrammar rest

end ResourceBundle.Xml
