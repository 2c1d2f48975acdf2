import ResourceBundle.Xml.Value

/-! # The document type declaration

The internal subset is read declaration by declaration. A parameter entity may stand between two
declarations, and inside one only where the declaration itself comes from a parameter entity. An
external identifier is looked up in a catalog of grammars; any other external text is not available. -/

namespace ResourceBundle.Xml

/-- Grammars that are at hand under their system identifiers. -/
abbrev Catalog := List (List Char × Grammar)

/-- What a document type declaration has told so far. -/
structure Subset where
  grammar : Grammar
  /-- Whether a declaration may exist that was not read. -/
  isOpen : Bool
  /-- The system identifiers of external parameter entities. -/
  systemIds : List (Name × List Char)

/-- Where a declaration is read. -/
structure Place where
  catalog : Catalog
  /-- Whether the document stands alone. -/
  standalone : Bool
  /-- Whether the text comes from a parameter entity. -/
  inParameter : Bool
  size : Nat

namespace Subset

/-- What references in default values are expanded with. -/
def context (subset : Subset) (place : Place) : Context :=
  ⟨subset.grammar, place.standalone || !subset.isOpen, place.size⟩

def splitParameter? : List Char → Option (Name × List Char)
  | '%' :: cs => Scan.splitReference? cs
  | _ => none

/-- Skips white space and tells whether there was any; inside a parameter entity, the texts of further
ones count as parts of the declaration. -/
def spaceUpTo (subset : Subset) (place : Place) : (fuel : Nat) → Scan Bool
  | 0 => throw .nestedTooDeep
  | fuel + 1 => do
    let found ← Scan.space
    if place.inParameter then
      match splitParameter? (← Scan.rest) with
      | some (name, cs) =>
        match subset.grammar.parameters.lookup name with
        | some (some text) =>
          (subset.context place).charge text
          Scan.setRest (' ' :: text ++ ' ' :: cs)
          spaceUpTo subset place fuel
        | some none =>
          Scan.report .unavailableEntity
          Scan.setRest (' ' :: cs)
          spaceUpTo subset place fuel
        | none =>
          (subset.context place).undeclared
          Scan.setRest (' ' :: cs)
          spaceUpTo subset place fuel
      | none => return found
    else
      return found

def space (subset : Subset) (place : Place) : Scan Bool := spaceUpTo subset place 40

def someSpace (subset : Subset) (place : Place) (fault : Fault) : Scan Unit := do
  if !(← space subset place) then throw fault

/-! ### Elements -/

/-- A model with the sign of repetition that follows it. -/
def repeated (model : Model Name) : Scan (Model Name) := do
  if ← Scan.accept ['?'] then return model.optional
  else if ← Scan.accept ['*'] then return .star model
  else if ← Scan.accept ['+'] then return model.plus
  else return model

mutual

/-- A name or a group, with the sign of repetition that follows it. -/
def particle (subset : Subset) (place : Place) : (fuel : Nat) → Scan (Model Name)
  | 0 => throw .malformedElementDeclaration
  | fuel + 1 => do
    if ← Scan.accept ['('] then
      group subset place fuel
    else
      repeated (.symbol (← Scan.name .malformedElementDeclaration))

def group (subset : Subset) (place : Place) : (fuel : Nat) → Scan (Model Name)
  | 0 => throw .malformedElementDeclaration
  | fuel + 1 => do
    let _ ← space subset place
    let first ← particle subset place fuel
    let _ ← space subset place
    if ← Scan.accept [')'] then repeated first
    else if ← Scan.accept [','] then repeated (.sequence first (← sequenceRest subset place fuel))
    else if ← Scan.accept ['|'] then repeated (.choice first (← choiceRest subset place fuel))
    else throw .malformedElementDeclaration

def sequenceRest (subset : Subset) (place : Place) : (fuel : Nat) → Scan (Model Name)
  | 0 => throw .malformedElementDeclaration
  | fuel + 1 => do
    let _ ← space subset place
    let part ← particle subset place fuel
    let _ ← space subset place
    if ← Scan.accept [')'] then return part
    else if ← Scan.accept [','] then return .sequence part (← sequenceRest subset place fuel)
    else throw .malformedElementDeclaration

def choiceRest (subset : Subset) (place : Place) : (fuel : Nat) → Scan (Model Name)
  | 0 => throw .malformedElementDeclaration
  | fuel + 1 => do
    let _ ← space subset place
    let part ← particle subset place fuel
    let _ ← space subset place
    if ← Scan.accept [')'] then return part
    else if ← Scan.accept ['|'] then return .choice part (← choiceRest subset place fuel)
    else throw .malformedElementDeclaration

end

/-- The names of mixed content after `#PCDATA`. -/
def mixedNames (subset : Subset) (place : Place) : (fuel : Nat) → (names : List Name) →
    Scan (List Name)
  | 0, _ => throw .malformedElementDeclaration
  | fuel + 1, names => do
    let _ ← space subset place
    if ← Scan.accept ['|'] then
      let _ ← space subset place
      let name ← Scan.name .malformedElementDeclaration
      mixedNames subset place fuel (names ++ [name])
    else
      Scan.expect [')'] .malformedElementDeclaration
      if ← Scan.accept ['*'] then return names
      else if names = [] then return names
      else throw .malformedElementDeclaration

def content (subset : Subset) (place : Place) : Scan Content := do
  if ← Scan.accept ['E', 'M', 'P', 'T', 'Y'] then return .empty
  else if ← Scan.accept ['A', 'N', 'Y'] then return .any
  else
    Scan.expect ['('] .malformedElementDeclaration
    let _ ← space subset place
    let fuel := 2 * (← Scan.rest).length + 2
    if ← Scan.accept ['#', 'P', 'C', 'D', 'A', 'T', 'A'] then
      return .mixed (← mixedNames subset place fuel [])
    else
      return .children (← group subset place fuel)

def addElement (subset : Subset) (decl : ElementDecl) : Scan Subset := do
  if (subset.grammar.elements.any (·.name = decl.name)) then throw .repeatedElementDeclaration
  match decl.content with
  | .mixed names => Scan.reportIf (!decide names.Nodup) .nameListedTwice
  | _ => pure ()
  return { subset with grammar := { subset.grammar with
    elements := subset.grammar.elements ++ [decl] } }

def elementDecl (subset : Subset) (place : Place) : Scan Subset := do
  someSpace subset place .malformedElementDeclaration
  let name ← Scan.name .malformedElementDeclaration
  someSpace subset place .malformedElementDeclaration
  let content ← content subset place
  let _ ← space subset place
  Scan.expect ['>'] .malformedElementDeclaration
  addElement subset ⟨name, content, false⟩

/-! ### Attributes -/

def tokenList (subset : Subset) (place : Place) (token : Scan Name) : (fuel : Nat) →
    (tokens : List Name) → Scan (List Name)
  | 0, _ => throw .malformedAttributeDeclaration
  | fuel + 1, tokens => do
    let _ ← space subset place
    let next ← token
    Scan.reportIf (tokens.contains next) .nameListedTwice
    let tokens := tokens ++ [next]
    let _ ← space subset place
    if ← Scan.accept ['|'] then tokenList subset place token fuel tokens
    else
      Scan.expect [')'] .malformedAttributeDeclaration
      return tokens

/-- The keywords of attribute types, longer ones before their beginnings. -/
def typeWords : List (List Char × AttributeType) := [
  (['C', 'D', 'A', 'T', 'A'], .cdata),
  (['I', 'D', 'R', 'E', 'F', 'S'], .idrefs), (['I', 'D', 'R', 'E', 'F'], .idref), (['I', 'D'], .id),
  (['E', 'N', 'T', 'I', 'T', 'Y'], .entity), (['E', 'N', 'T', 'I', 'T', 'I', 'E', 'S'], .entities),
  (['N', 'M', 'T', 'O', 'K', 'E', 'N', 'S'], .nmtokens), (['N', 'M', 'T', 'O', 'K', 'E', 'N'], .nmtoken)]

def attributeType (subset : Subset) (place : Place) : Scan AttributeType := do
  let cs ← Scan.rest
  match typeWords.findSome? fun (word, type) => (after? word cs).map fun rest => (type, rest) with
  | some (type, rest) =>
    Scan.setRest rest
    return type
  | none =>
    let fuel := cs.length
    if ← Scan.accept ['N', 'O', 'T', 'A', 'T', 'I', 'O', 'N'] then
      someSpace subset place .malformedAttributeDeclaration
      Scan.expect ['('] .malformedAttributeDeclaration
      return .notationName (← tokenList subset place (Scan.name .malformedAttributeDeclaration) fuel [])
    else
      Scan.expect ['('] .malformedAttributeDeclaration
      return .oneOf (← tokenList subset place (Scan.token .malformedAttributeDeclaration) fuel [])

/-- What holds where the attribute is left out. -/
def attributeDefault (subset : Subset) (place : Place) (type : AttributeType) :
    Scan AttributeDefault := do
  if ← Scan.accept ['#', 'R', 'E', 'Q', 'U', 'I', 'R', 'E', 'D'] then return .required
  else if ← Scan.accept ['#', 'I', 'M', 'P', 'L', 'I', 'E', 'D'] then return .implied
  else
    let isFixed ← Scan.accept ['#', 'F', 'I', 'X', 'E', 'D']
    if isFixed then someSpace subset place .malformedAttributeDeclaration
    let literal ← Scan.literal .malformedAttributeDeclaration
    let value := type.normalize (← (subset.context place).value literal)
    return if isFixed then .fixed value else .value value

/-- Adds an attribute; of two declarations of one attribute the first one counts. -/
def addAttribute (subset : Subset) (decl : AttributeDecl) : Scan Subset := do
  Scan.reportIf (decide (decl.name = ['x', 'm', 'l', ':', 'i', 'd']) && decl.type != .id) .misusedIdType
  let default? := decl.default.value?
  Scan.reportIf (!(default?.map decl.type.admits).getD true) .invalidDefault
  if (subset.grammar.attribute? decl.element decl.name).isSome then
    Scan.report .repeatedAttributeDeclaration
    return subset
  else
    let ids := (subset.grammar.attributesOf decl.element).filter (·.type == .id)
    Scan.reportIf (decl.type == .id && (default?.isSome || !ids.isEmpty)) .misusedIdType
    Scan.reportIf (!(default?.map decl.type.lists).getD true) .invalidDefault
    return { subset with grammar := { subset.grammar with
      attributes := subset.grammar.attributes ++ [decl] } }

def attributeDecls (place : Place) (element : Name) : (fuel : Nat) → Subset → Scan Subset
  | 0, _ => throw .malformedAttributeDeclaration
  | fuel + 1, subset => do
    if ← Scan.accept ['>'] then
      return subset
    else
      let name ← Scan.name .malformedAttributeDeclaration
      someSpace subset place .malformedAttributeDeclaration
      let type ← attributeType subset place
      someSpace subset place .malformedAttributeDeclaration
      let default ← attributeDefault subset place type
      let spaced ← space subset place
      if !spaced && (← Scan.rest).head? != some '>' then throw .malformedAttributeDeclaration
      attributeDecls place element fuel (← addAttribute subset ⟨element, name, type, default⟩)

def attributeDecl (subset : Subset) (place : Place) : Scan Subset := do
  someSpace subset place .malformedAttributeDeclaration
  let element ← Scan.name .malformedAttributeDeclaration
  let _ ← space subset place
  attributeDecls place element ((← Scan.rest).length + 1) subset

/-! ### Entities and notations -/

/-- A system identifier, with a public one before it if there is one. Where `strict` does not hold,
a public identifier may stand alone. -/
def externalId? (subset : Subset) (place : Place) (strict : Bool) (fault : Fault) :
    Scan (Option (Option (List Char))) := do
  if ← Scan.accept ['S', 'Y', 'S', 'T', 'E', 'M'] then
    someSpace subset place fault
    return some (some (← Scan.literal fault))
  else if ← Scan.accept ['P', 'U', 'B', 'L', 'I', 'C'] then
    someSpace subset place fault
    let publicId ← Scan.literal fault
    if !publicId.all isPubidChar then throw fault
    let spaced ← Scan.space
    let next := (← Scan.rest).head?
    if strict || next == some '"' || next == some '\'' then
      if !spaced then throw fault
      return some (some (← Scan.literal fault))
    else
      return some none
  else
    return none

def isUriChar (c : Char) : Bool :=
  c.isAlphanum || ['-', '.', '_', '~', ':', '/', '?', '#', '[', ']', '@', '!', '$', '&', '\'', '(', ')',
    '*', '+', ',', ';', '=', '%'].contains c

/-- The replacement text of an entity. References by number are replaced, references by name stay;
`expand` gives the text of a parameter entity. -/
def replacementLoop (expand : Name → Scan (List Char)) : (fuel : Nat) → (read cs : List Char) →
    Scan (List Char)
  | 0, read, _ => return read.reverse
  | _ + 1, read, [] => return read.reverse
  | fuel + 1, read, '&' :: '#' :: cs =>
    match Scan.splitNumber? cs with
    | some (c, cs) => replacementLoop expand fuel (c :: read) cs
    | none => throw .malformedReference
  | fuel + 1, read, '&' :: cs =>
    match Scan.splitReference? cs with
    | some (name, cs) => replacementLoop expand fuel (';' :: name.reverse ++ '&' :: read) cs
    | none => throw .malformedReference
  | fuel + 1, read, '%' :: cs => do
    match Scan.splitReference? cs with
    | some (name, cs) =>
      let text ← expand name
      replacementLoop expand fuel (text.reverse ++ read) cs
    | none => throw .malformedEntityDeclaration
  | fuel + 1, read, c :: cs => replacementLoop expand fuel (c :: read) cs

/-- The text of a parameter entity inside an entity value, where only a parameter entity may bring one. -/
def parameterText (subset : Subset) (place : Place) (name : Name) : Scan (List Char) := do
  if !place.inParameter then throw .malformedEntityDeclaration
  match subset.grammar.parameters.lookup name with
  | some (some text) =>
    (subset.context place).charge text
    return text
  | some none =>
    Scan.report .unavailableEntity
    return []
  | none =>
    (subset.context place).undeclared
    return []

/-- The replacement text of an entity whose literal is given. -/
def replacement (subset : Subset) (place : Place) (literal : List Char) : Scan (List Char) :=
  let cs := normalizeLines literal
  replacementLoop (parameterText subset place) cs.length [] cs

/-- Whether a replacement text may be given to a predefined entity: the character itself, unless it
opens markup, or a reference to it by number. -/
def redefines (c : Char) (text : List Char) : Bool :=
  (text == [c] && c != '<' && c != '&') ||
    (match text with
      | '&' :: '#' :: 'x' :: rest => rest.map Char.toUpper == (Text.hex 2 c.toNat) ++ [';']
      | '&' :: '#' :: rest => rest == Nat.toDigits 10 c.toNat ++ [';']
      | _ => false)

/-- Adds a general entity; of two declarations of one entity the first one counts. A predefined entity
may only be declared as what it is. -/
def addEntity (subset : Subset) (name : Name) (entity : Entity) : Scan Subset := do
  match predefined.lookup name, entity with
  | some c, .internal text =>
    if redefines c text then return subset else throw .malformedEntityDeclaration
  | some _, _ => throw .malformedEntityDeclaration
  | none, _ =>
    match subset.grammar.entity? name, entity with
    | some .external, .internal _ => throw .externalEntity
    | some (.unparsed _), .internal _ => throw .externalEntity
    | some _, _ => return subset
    | none, _ => return { subset with grammar := { subset.grammar with
        entities := subset.grammar.entities ++ [(name, entity)] } }

/-- Adds a parameter entity; of two declarations of one entity the first one counts. -/
def addParameter (subset : Subset) (name : Name) (text : Option (List Char)) (systemId : List Char) :
    Subset :=
  if (subset.grammar.parameters.lookup name).isSome then subset
  else { subset with
    grammar := { subset.grammar with parameters := subset.grammar.parameters ++ [(name, text)] },
    systemIds := subset.systemIds ++ [(name, systemId)] }

def atLiteral : Scan Bool := do
  let next := (← Scan.rest).head?
  return next == some '"' || next == some '\''

/-- The system identifier of an external entity, which must not name a fragment. -/
def entitySystemId (subset : Subset) (place : Place) : Scan (List Char) := do
  match ← externalId? subset place true .malformedEntityDeclaration with
  | some (some systemId) =>
    if systemId.contains '#' then throw .malformedEntityDeclaration
    Scan.reportIf (!systemId.all isUriChar) .invalidUri
    return systemId
  | _ => throw .malformedEntityDeclaration

def entityDecl (subset : Subset) (place : Place) : Scan Subset := do
  someSpace subset place .malformedEntityDeclaration
  let isParameter ← Scan.accept ['%']
  if isParameter then someSpace subset place .malformedEntityDeclaration
  let name ← Scan.name .malformedEntityDeclaration
  Scan.reportIf (name.contains ':') .colonInName
  someSpace subset place .malformedEntityDeclaration
  let after ← do
    if ← atLiteral then
      let text ← replacement subset place (← Scan.literal .malformedEntityDeclaration)
      if isParameter then pure (addParameter subset name (some text) [])
      else addEntity subset name (.internal text)
    else
      let systemId ← entitySystemId subset place
      if isParameter then pure (addParameter subset name none systemId)
      else
        let spaced ← space subset place
        if (← Scan.rest).head? == some '>' then addEntity subset name .external
        else
          if !spaced then throw .malformedEntityDeclaration
          Scan.expect ['N', 'D', 'A', 'T', 'A'] .malformedEntityDeclaration
          someSpace subset place .malformedEntityDeclaration
          addEntity subset name (.unparsed (← Scan.name .malformedEntityDeclaration))
  let _ ← space subset place
  Scan.expect ['>'] .malformedEntityDeclaration
  return after

def notationDecl (subset : Subset) (place : Place) : Scan Subset := do
  someSpace subset place .malformedNotationDeclaration
  let name ← Scan.name .malformedNotationDeclaration
  Scan.reportIf (name.contains ':') .colonInName
  someSpace subset place .malformedNotationDeclaration
  match ← externalId? subset place false .malformedNotationDeclaration with
  | none => throw .malformedNotationDeclaration
  | some _ =>
    let _ ← space subset place
    Scan.expect ['>'] .malformedNotationDeclaration
    Scan.reportIf (subset.grammar.notations.contains name) .notationDeclaredTwice
    return { subset with grammar := { subset.grammar with
      notations := subset.grammar.notations ++ [name] } }

/-! ### Subsets -/

/-- Adds the grammar that a catalog holds under a system identifier. -/
def addGrammar (subset : Subset) (grammar : Grammar) : Scan Subset := do
  let subset ← grammar.elements.foldlM (fun subset decl =>
    addElement subset { decl with isExternal := false }) subset
  grammar.attributes.foldlM addAttribute subset

/-- One declaration, comment or processing instruction, if one comes next. -/
def markup? (subset : Subset) (place : Place) : Scan (Option Subset) := do
  if ← Scan.accept ['<', '!', '-', '-'] then
    Scan.comment
    return some subset
  else if ← Scan.accept ['<', '?'] then
    Scan.instruction
    return some subset
  else if ← Scan.accept ['<', '!', 'E', 'L', 'E', 'M', 'E', 'N', 'T'] then
    return some (← elementDecl subset place)
  else if ← Scan.accept ['<', '!', 'A', 'T', 'T', 'L', 'I', 'S', 'T'] then
    return some (← attributeDecl subset place)
  else if ← Scan.accept ['<', '!', 'E', 'N', 'T', 'I', 'T', 'Y'] then
    return some (← entityDecl subset place)
  else if ← Scan.accept ['<', '!', 'N', 'O', 'T', 'A', 'T', 'I', 'O', 'N'] then
    return some (← notationDecl subset place)
  else
    return none

/-- Declarations up to a bracket or the end of the text; `expand` reads the text of a parameter entity. -/
def declarationLoop (place : Place) (expand : Subset → List Char → Scan Subset) : (fuel : Nat) →
    Subset → Scan Subset
  | 0, subset => return subset
  | fuel + 1, subset => do
    let _ ← Scan.space
    match ← Scan.rest with
    | [] => return subset
    | ']' :: _ => return subset
    | '%' :: cs =>
      match Scan.splitReference? cs with
      | none => throw .malformedSubset
      | some (name, cs) =>
        Scan.setRest cs
        let subset := { subset with isOpen := true }
        match subset.grammar.parameters.lookup name with
        | some (some text) =>
          (subset.context place).charge text
          declarationLoop place expand fuel (← expand subset text)
        | some none =>
          let systemId := (subset.systemIds.lookup name).getD []
          match place.catalog.lookup systemId with
          | some grammar =>
            Scan.serve systemId
            declarationLoop place expand fuel (← addGrammar subset grammar)
          | none =>
            Scan.report .unavailableEntity
            declarationLoop place expand fuel subset
        | none =>
          (subset.context place).undeclared
          declarationLoop place expand fuel subset
    | _ =>
      match ← markup? subset place with
      | some subset => declarationLoop place expand fuel subset
      | none => throw .malformedSubset

/-- Declarations in which parameter entities nest at most `depth` deep. -/
def declarations (place : Place) : (depth : Nat) → Subset → Scan Subset
  | 0, _ => throw .nestedTooDeep
  | depth + 1, subset => do
    let expand (subset : Subset) (text : List Char) : Scan Subset :=
      Scan.onText text do
        let subset ← declarations { place with inParameter := true } depth subset
        if (← Scan.rest) != [] then throw .malformedSubset
        return subset
    declarationLoop place expand ((← Scan.rest).length + 1) subset

end Subset

/-- What a document type declaration tells. -/
structure Doctype where
  root : Name
  grammar : Grammar
  isOpen : Bool
  /-- Whether nothing was declared that the document could be checked against. -/
  isBare : Bool
deriving DecidableEq

namespace Doctype

/-- Adds the grammar of the external subset behind that of the internal one. An element that both
declare is reported. -/
def withExternal (grammar external : Grammar) : Scan Grammar := do
  external.elements.forM fun decl =>
    Scan.reportIf (grammar.elements.any (·.name = decl.name)) .elementDeclaredTwice
  return { grammar with
    elements := grammar.elements ++ external.elements.map fun decl => { decl with isExternal := true },
    attributes := grammar.attributes ++ external.attributes }

def read (place : Place) : Scan Doctype := do
  let start : Subset := ⟨.empty, false, []⟩
  Scan.someSpace .malformedDoctype
  let root ← Scan.name .malformedDoctype
  let _ ← Scan.space
  let systemId := ((← Subset.externalId? start place true .malformedDoctype).getD none)
  let _ ← Scan.space
  let start := { start with isOpen := systemId.isSome }
  let subset ← do
    if ← Scan.accept ['['] then
      let subset ← Subset.declarations place entityDepth start
      Scan.expect [']'] .malformedSubset
      let _ ← Scan.space
      pure subset
    else pure start
  Scan.expect ['>'] .malformedDoctype
  match systemId with
  | none => return ⟨root, subset.grammar, subset.isOpen, subset.grammar.isBare⟩
  | some systemId =>
    match place.catalog.lookup systemId with
    | some external =>
      Scan.serve systemId
      let grammar ← withExternal subset.grammar external
      return ⟨root, grammar, subset.isOpen, false⟩
    | none =>
      Scan.report .unavailableSubset
      return ⟨root, subset.grammar, subset.isOpen, subset.grammar.isBare⟩

end Doctype

end ResourceBundle.Xml
