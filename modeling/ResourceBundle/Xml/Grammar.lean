import ResourceBundle.Xml.Model

/-! # Grammars

A grammar is what the two subsets of a document type declare. The internal subset comes first, and of
two declarations of one attribute or entity the first one counts. -/

namespace ResourceBundle.Xml

inductive Content where
  | empty
  | any
  /-- Text and the listed elements in any order. -/
  | mixed (names : List Name)
  /-- Elements as a model says, with white space between them. -/
  | children (model : Model Name)
deriving DecidableEq, Repr

structure ElementDecl where
  name : Name
  content : Content
  /-- Whether it stands in the external subset. -/
  isExternal : Bool
deriving DecidableEq, Repr

inductive AttributeType where
  | cdata | id | idref | idrefs | entity | entities | nmtoken | nmtokens
  | oneOf (tokens : List Name)
  | notationName (names : List Name)
deriving DecidableEq, Repr

/-- What holds where an attribute is left out. -/
inductive AttributeDefault where
  | required
  | implied
  | fixed (value : List Char)
  | value (value : List Char)
deriving DecidableEq, Repr

/-- The value that is taken where the attribute is left out. -/
def AttributeDefault.value? : AttributeDefault → Option (List Char)
  | required | implied => none
  | fixed v | value v => some v

structure AttributeDecl where
  element : Name
  name : Name
  type : AttributeType
  default : AttributeDefault
deriving DecidableEq, Repr

/-- What a general entity stands for. -/
inductive Entity where
  /-- A replacement text of the document itself. -/
  | internal (text : List Char)
  | external
  /-- Data in a notation. -/
  | unparsed (notationName : Name)
deriving DecidableEq, Repr

structure Grammar where
  elements : List ElementDecl
  attributes : List AttributeDecl
  entities : List (Name × Entity)
  /-- Parameter entities; one without a text is external. -/
  parameters : List (Name × Option (List Char))
  notations : List Name
deriving DecidableEq, Repr

namespace Grammar

def empty : Grammar := ⟨[], [], [], [], []⟩

/-- The declaration of a name, first under the qualified name and then under its local part. -/
def element? (grammar : Grammar) (name : Name) : Option ElementDecl :=
  match grammar.elements.find? (·.name = name) with
  | some decl => some decl
  | none =>
    match splitName name with
    | (some _, localPart) => grammar.elements.find? (·.name = localPart)
    | (none, _) => none

/-- The attributes declared for an element, each with its first declaration. -/
def attributesOf (grammar : Grammar) (element : Name) : List AttributeDecl :=
  grammar.attributes.filter (·.element = element)

def attribute? (grammar : Grammar) (element name : Name) : Option AttributeDecl :=
  grammar.attributes.find? fun decl => decl.element = element ∧ decl.name = name

/-- The declaration of an attribute, under the qualified name of the element or its local part. -/
def validAttribute? (grammar : Grammar) (element name : Name) : Option AttributeDecl :=
  match grammar.attribute? element name with
  | some decl => some decl
  | none =>
    match splitName element with
    | (some _, localPart) => grammar.attribute? localPart name
    | (none, _) => none

def entity? (grammar : Grammar) (name : Name) : Option Entity := grammar.entities.lookup name

/-- Whether nothing was declared that a document could be checked against. -/
def isBare (grammar : Grammar) : Bool :=
  grammar.elements.isEmpty && grammar.attributes.isEmpty && grammar.entities.isEmpty &&
    grammar.notations.isEmpty

/-- Whether a name denotes an entity in a notation. -/
def isUnparsed (grammar : Grammar) (name : Name) : Bool :=
  match grammar.entity? name with
  | some (.unparsed _) => true
  | _ => false

/-- Whether an attribute of a notation type belongs to an element that may hold something, and names
declared notations; a default that names entities must name unparsed ones. -/
def isSoundAttribute (grammar : Grammar) (decl : AttributeDecl) : Bool :=
  match decl.type with
  | .notationName names =>
    names.all grammar.notations.contains &&
      (match grammar.elements.find? (·.name = decl.element) with
        | some element => element.content != .empty
        | none => false)
  | .entity => (decl.default.value?.map grammar.isUnparsed).getD true
  | .entities => (decl.default.value?.map fun value => (words value).all grammar.isUnparsed).getD true
  | _ => true

/-- Whether the declarations fit together. -/
def isSound (grammar : Grammar) : Bool :=
  grammar.attributes.all grammar.isSoundAttribute &&
    grammar.entities.all fun (_, entity) => match entity with
      | .unparsed name => grammar.notations.contains name
      | _ => true

end Grammar

namespace AttributeType

/-- Whether values of the type are kept as they are. -/
def isText : AttributeType → Bool
  | cdata => true
  | _ => false

/-- A value without surplus spaces, unless the type keeps them. -/
def normalize (type : AttributeType) (value : List Char) : List Char :=
  if type.isText then value else unwords (words value)

/-- Whether a value has the form that the type asks for. -/
def admits (type : AttributeType) (value : List Char) : Bool :=
  match type with
  | cdata => true
  | id | idref | entity | notationName _ => isName value
  | idrefs | entities => !(words value).isEmpty && (words value).all isName
  | nmtoken | oneOf _ => isToken value
  | nmtokens => !(words value).isEmpty && (words value).all isToken

def lists (type : AttributeType) (value : List Char) : Bool :=
  match type with
  | oneOf tokens => tokens.contains value
  | notationName names => names.contains value
  | _ => true

end AttributeType

end ResourceBundle.Xml
