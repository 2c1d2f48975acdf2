import ResourceBundle.Xml.Value

/-! # Elements and their content

Content is read token by token. Start and end tags must match within the text they stand in, so that
an entity holds whole elements. Prefixes are resolved while the tags are read. -/

namespace ResourceBundle.Xml

/-- The namespaces in scope, the innermost first; no prefix stands for the default one. -/
abbrev Scope := List (Option Name × List Char)

def xmlNamespace : List Char := "http://www.w3.org/XML/1998/namespace".toList

def xmlnsNamespace : List Char := "http://www.w3.org/2000/xmlns/".toList

def xmlPrefix : Name := ['x', 'm', 'l']

def xmlnsPrefix : Name := ['x', 'm', 'l', 'n', 's']

/-- Whether a name is a local part, or two local parts with a colon between them. -/
def isQName (name : Name) : Bool :=
  match name.span (· ≠ ':') with
  | (before, []) => !before.isEmpty
  | (before, _ :: after) =>
    !before.isEmpty && !after.contains ':' && (after.head?.map isNameStart).getD false

/-- The prefix that an attribute declares; the default namespace has none. -/
def declaredPrefix? (name : Name) : Option (Option Name) :=
  if name = xmlnsPrefix then some none
  else match splitName name with
    | (some before, after) => if before = xmlnsPrefix then some (some after) else none
    | (none, _) => none

def Scope.find? (scope : Scope) (before : Option Name) : Option (List Char) :=
  if before = some xmlPrefix then some xmlNamespace
  else match scope.lookup before with
    | some [] => none
    | found => found

/-- A local name with its namespace. -/
def expandedName (uri : Option (List Char)) (localPart : Name) : Name :=
  match uri with
  | some uri => '\x7b' :: uri ++ '\x7d' :: localPart
  | none => localPart

/-- Whether a namespace name begins with a scheme. -/
def hasScheme (uri : List Char) : Bool :=
  match uri.span (· ≠ ':') with
  | (c :: rest, _ :: _) =>
    c.isAlpha && rest.all fun c => c.isAlphanum || c == '+' || c == '-' || c == '.'
  | _ => false

def isNamespaceChar (c : Char) : Bool :=
  c.isAlphanum || ['-', '.', '_', '~', ':', '/', '?', '#', '[', ']', '@', '!', '$', '&', '\'', '(', ')',
    '*', '+', ',', ';', '=', '%'].contains c

def namespaceReport? (uri : List Char) : Option Report :=
  if uri = [] then none
  else if !uri.all isNamespaceChar then some .invalidNamespace
  else if !hasScheme uri then some .relativeNamespace
  else none

/-- Binds a declared prefix, if that is allowed. -/
def Scope.declare (scope : Scope) (before : Option Name) (uri : List Char) : Scan Scope := do
  match before with
  | none =>
    if uri = xmlNamespace ∨ uri = xmlnsNamespace then
      Scan.report .invalidNamespace
      return scope
    else
      match namespaceReport? uri with
      | some r => Scan.report r
      | none => pure ()
      return (none, uri) :: scope
  | some p =>
    if p = xmlPrefix then
      Scan.reportIf (uri != xmlNamespace) .invalidNamespace
      return scope
    else if p = xmlnsPrefix ∨ uri = xmlNamespace ∨ uri = xmlnsNamespace ∨ uri = [] then
      Scan.report .invalidNamespace
      return scope
    else
      match namespaceReport? uri with
      | some r => Scan.report r
      | none => pure ()
      return (some p, uri) :: scope

/-- Where content is read. -/
structure Source where
  context : Context
  /-- The number of line feeds in the whole text that is being read. -/
  lineFeeds : Nat

namespace Source

/-- The line that has been reached. -/
def line (source : Source) : Scan Nat := do
  return 1 + source.lineFeeds - (← Scan.rest).count '\n'

/-- The attributes of a start tag, as written, with their values. -/
def attributes (source : Source) (element : Name) : (fuel : Nat) →
    (read : List (Name × List Char)) → Scan (List (Name × List Char))
  | 0, _ => throw .malformedTag
  | fuel + 1, read => do
    let spaced ← Scan.space
    match ← Scan.rest with
    | '>' :: _ => return read
    | '/' :: '>' :: _ => return read
    | _ =>
      if !spaced then throw .malformedTag
      let name ← Scan.name .malformedAttribute
      Scan.reportIf (!isQName name) .malformedQName
      let _ ← Scan.space
      Scan.expect ['='] .malformedAttribute
      let _ ← Scan.space
      let value ← source.context.value (← Scan.literal .malformedAttribute)
      let value := match source.context.grammar.attribute? element name with
        | some decl => decl.type.normalize value
        | none => value
      if read.any (·.1 = name) then throw .repeatedAttribute
      Scan.reportIf (name == xmlPrefix ++ [':', 's', 'p', 'a', 'c', 'e'] &&
        value != ['d', 'e', 'f', 'a', 'u', 'l', 't'] &&
        value != ['p', 'r', 'e', 's', 'e', 'r', 'v', 'e']) .unusualSpaceAttribute
      attributes source element fuel (read ++ [(name, value)])

/-- The attributes that a grammar supplies where they are left out. -/
def defaults (source : Source) (element : Name) (read : List (Name × List Char)) :
    List (Name × List Char) :=
  (source.context.grammar.attributesOf element).filterMap fun decl =>
    if read.any (·.1 = decl.name) then none
    else decl.default.value?.map fun value => (decl.name, value)

/-- Adds the namespaces that attributes declare. -/
def declareAll (scope : Scope) : List (Name × List Char) → Scan Scope
  | [] => return scope
  | (name, value) :: rest => do
    match declaredPrefix? name with
    | some before => declareAll (← scope.declare before value) rest
    | none => declareAll scope rest

/-- An attribute with its prefix resolved; the default namespace does not apply to it. -/
def resolve (scope : Scope) (name : Name) (value : List Char) : Scan Attribute := do
  match splitName name with
  | (none, _) => return ⟨name, name, value⟩
  | (some before, localPart) =>
    match scope.find? (some before) with
    | some uri => return ⟨name, expandedName (some uri) localPart, value⟩
    | none =>
      Scan.report .unboundPrefix
      return ⟨name, name, value⟩

def resolveAll (scope : Scope) : List (Name × List Char) → Scan (List Attribute)
  | [] => return []
  | (name, value) :: rest => do
    let attr ← resolve scope name value
    return attr :: (← resolveAll scope rest)

def resolveElement (scope : Scope) (name : Name) : Scan Name := do
  match splitName name with
  | (none, _) => return expandedName (scope.find? none) name
  | (some before, localPart) =>
    match scope.find? (some before) with
    | some uri => return expandedName (some uri) localPart
    | none =>
      Scan.report .unboundPrefix
      return name

/-- Reads a start tag after its opening. Gives the name of the element and the scope inside it; an
element without content is closed, and no name is given. -/
def startTag (source : Source) (scope : Scope) : Scan (Option (Name × Scope)) := do
  let element ← Scan.name .malformedTag
  Scan.reportIf (!isQName element) .malformedQName
  let read ← attributes source element ((← Scan.rest).length + 1) []
  let supplied := defaults source element read
  let bound := supplied.filterMap fun (name, value) =>
    (declaredPrefix? name).map fun before => (before, value)
  let inner := bound ++ (← declareAll scope read)
  let all := read ++ supplied
  let namespaces := all.filter fun attr => (declaredPrefix? attr.1).isSome
  let plain ← resolveAll inner (all.filter fun attr => (declaredPrefix? attr.1).isNone)
  Scan.reportIf (!decide (plain.map (·.expanded)).Nodup) .invalidNamespace
  let expanded ← resolveElement inner element
  let line ← source.line
  Scan.emit (.start element expanded plain
    (namespaces.map fun (name, value) => ⟨name, name, value⟩) line)
  if ← Scan.accept ['/', '>'] then
    Scan.emit .stop
    return none
  else
    Scan.expect ['>'] .malformedTag
    return some (element, inner)

def elementDepth : Nat := 256

/-- Whether the end of a CDATA section stands in a text. -/
def holdsSectionEnd : List Char → Bool
  | ']' :: ']' :: '>' :: _ => true
  | _ :: rest => holdsSectionEnd rest
  | [] => false

def characters : Scan Unit := do
  let cs ← Scan.rest
  let isText (c : Char) : Bool := c != '<' && c != '&'
  let text := cs.takeWhile isText
  if !text.all isLegal then throw .illegalCharacter
  if holdsSectionEnd text then throw .closingBracketInText
  Scan.setRest (cs.dropWhile isText)
  Scan.addText (normalizeLines text)

/-- Reads a reference after its ampersand; the text of an entity is read by `expand`. -/
def reference (ctx : Context) (expand : List Char → Scan Unit) : Scan Unit := do
  match ← Scan.rest with
  | '#' :: cs =>
    match Scan.splitNumber? cs with
    | some (c, cs) =>
      Scan.setRest cs
      Scan.addText [c]
    | none => throw .malformedReference
  | cs =>
    match Scan.splitReference? cs with
    | none => throw .malformedReference
    | some (name, cs) =>
      Scan.setRest cs
      match predefined.lookup name with
      | some c => Scan.addText [c]
      | none =>
        match ctx.grammar.entity? name with
        | some (.internal text) =>
          ctx.charge text
          expand text
        | some _ => throw .externalEntity
        | none => ctx.undeclared

/-- Reads content until the outermost of the open elements is closed or, where `inEntity` holds, until
the text ends with no element open. `depth` is the number of elements around the text. -/
def contentLoop (source : Source) (expand : (depth : Nat) → Scope → List Char → Scan Unit)
    (inEntity : Bool) (depth : Nat) (outer : Scope) : (fuel : Nat) → (opened : List (Name × Scope)) →
    Scan Unit
  | 0, opened => if inEntity && opened.isEmpty then pure () else throw .unfinishedElement
  | fuel + 1, opened => do
    let scope := (opened.head?.map (·.2)).getD outer
    match ← Scan.rest with
    | [] => if inEntity && opened.isEmpty then pure () else throw .unfinishedElement
    | '<' :: '/' :: cs =>
      match opened with
      | [] => throw .unmatchedTag
      | (name, _) :: opened =>
        Scan.setRest cs
        if (← Scan.name .malformedTag) != name then throw .unmatchedTag
        let _ ← Scan.space
        Scan.expect ['>'] .malformedTag
        Scan.emit .stop
        if !inEntity && opened.isEmpty then pure ()
        else contentLoop source expand inEntity depth outer fuel opened
    | '<' :: '!' :: '-' :: '-' :: cs =>
      Scan.setRest cs
      Scan.comment
      contentLoop source expand inEntity depth outer fuel opened
    | '<' :: '!' :: cs =>
      Scan.setRest cs
      Scan.expect ['[', 'C', 'D', 'A', 'T', 'A', '['] .malformedTag
      Scan.addText (normalizeLines (← Scan.upTo [']', ']', '>'] .unfinishedSection))
      contentLoop source expand inEntity depth outer fuel opened
    | '<' :: '?' :: cs =>
      Scan.setRest cs
      Scan.instruction
      contentLoop source expand inEntity depth outer fuel opened
    | '<' :: cs =>
      if elementDepth < depth + opened.length then throw .nestedTooDeep
      Scan.setRest cs
      match ← startTag source scope with
      | some element => contentLoop source expand inEntity depth outer fuel (element :: opened)
      | none => contentLoop source expand inEntity depth outer fuel opened
    | '&' :: cs =>
      Scan.setRest cs
      reference source.context (expand (depth + opened.length) scope)
      contentLoop source expand inEntity depth outer fuel opened
    | _ =>
      characters
      contentLoop source expand inEntity depth outer fuel opened

/-- Reads the text of an entity in which entities nest at most `nesting` deep. -/
def entityContent (ctx : Context) : (nesting depth : Nat) → Scope → List Char → Scan Unit
  | 0, _, _, _ => throw .nestedTooDeep
  | nesting + 1, depth, scope, text =>
    Scan.onText text
      (contentLoop ⟨ctx, text.count '\n'⟩ (entityContent ctx nesting) true depth scope
        (text.length + 1) [])

/-- Reads the document element after the opening of its start tag. -/
def root (source : Source) : Scan Unit := do
  match ← startTag source [] with
  | none => pure ()
  | some element =>
    contentLoop source (entityContent source.context entityDepth) false 0 []
      ((← Scan.rest).length + 1) [element]

end Source

end ResourceBundle.Xml
