import ResourceBundle.Xml.Chars

/-! # What can be wrong with a document

A fault ends the reading at once. A report does not; after the whole document was read, it is refused
if the last report is an error. -/

namespace ResourceBundle.Xml

inductive Fault where
  | emptyDocument
  | unknownEncoding
  | invalidBytes
  | illegalCharacter
  | malformedDeclaration
  | unsupportedVersion
  | malformedDoctype
  | malformedSubset
  | malformedElementDeclaration
  | malformedAttributeDeclaration
  | malformedEntityDeclaration
  | malformedNotationDeclaration
  | repeatedElementDeclaration
  | unsoundDeclarations
  | malformedComment
  | malformedInstruction
  | reservedTarget
  | malformedTag
  | unmatchedTag
  | unfinishedElement
  | repeatedAttribute
  | malformedAttribute
  | malformedReference
  | undeclaredEntity
  | externalEntity
  | nestedTooDeep
  | expandedTooFar
  | unfinishedEntity
  | unfinishedSection
  | closingBracketInText
  | contentOutsideRoot
deriving DecidableEq, Repr

def Fault.message : Fault → String
  | emptyDocument => "the document is empty"
  | unknownEncoding => "the encoding is not known"
  | invalidBytes => "the bytes do not fit the encoding"
  | illegalCharacter => "a character is not allowed"
  | malformedDeclaration => "the XML declaration is malformed"
  | unsupportedVersion => "the XML version is not supported"
  | malformedDoctype => "the document type declaration is malformed"
  | malformedSubset => "the internal subset is malformed"
  | malformedElementDeclaration => "an element declaration is malformed"
  | malformedAttributeDeclaration => "an attribute declaration is malformed"
  | malformedEntityDeclaration => "an entity declaration is malformed"
  | malformedNotationDeclaration => "a notation declaration is malformed"
  | repeatedElementDeclaration => "an element is declared twice"
  | unsoundDeclarations => "the declarations contradict each other"
  | malformedComment => "a comment is malformed"
  | malformedInstruction => "a processing instruction is malformed"
  | reservedTarget => "a processing instruction has a reserved target"
  | malformedTag => "a tag is malformed"
  | unmatchedTag => "an end tag does not match its start tag"
  | unfinishedElement => "an element is not closed"
  | repeatedAttribute => "an attribute occurs twice"
  | malformedAttribute => "an attribute is malformed"
  | malformedReference => "a reference is malformed"
  | undeclaredEntity => "an entity is not declared"
  | externalEntity => "a reference leads outside the document"
  | nestedTooDeep => "elements or entities are nested too deep"
  | expandedTooFar => "entities expand to too much text"
  | unfinishedEntity => "an entity does not hold whole elements"
  | unfinishedSection => "a CDATA section is not closed"
  | closingBracketInText => "the end of a CDATA section stands in text"
  | contentOutsideRoot => "something follows the document element"

/-- What was noticed while a document was read. -/
inductive Report where
  | unusualTarget
  | unusualSpaceAttribute
  | relativeNamespace
  | repeatedAttributeDeclaration
  | colonInName
  | malformedQName
  | unboundPrefix
  | invalidNamespace
  | unavailableSubset
  | unavailableEntity
  | invalidUri
  | missingGrammar
  | elementDeclaredTwice
  | nameListedTwice
  | notationDeclaredTwice
  | misusedIdType
  | invalidDefault
  | undeclaredReference
  | wrongRoot
  | undeclaredElement
  | ambiguousModel
  | invalidContent
  | standaloneSpace
  | missingAttribute
  | undeclaredAttribute
  | invalidAttribute
  | repeatedId
  | unknownId
deriving DecidableEq, Repr

namespace Report

/-- Whether a report is an error; the others are warnings. -/
def isError : Report → Bool
  | unusualTarget | unusualSpaceAttribute | relativeNamespace | repeatedAttributeDeclaration => false
  | _ => true

def message : Report → String
  | unusualTarget => "the target of a processing instruction is reserved"
  | unusualSpaceAttribute => "xml:space has an unusual value"
  | relativeNamespace => "a namespace name is relative"
  | repeatedAttributeDeclaration => "an attribute is declared twice"
  | colonInName => "a name holds a colon"
  | malformedQName => "a qualified name is malformed"
  | unboundPrefix => "a namespace prefix is not bound"
  | invalidNamespace => "a namespace declaration is not allowed"
  | unavailableSubset => "the external subset is not available"
  | unavailableEntity => "an external entity is not available"
  | invalidUri => "an identifier is no URI"
  | missingGrammar => "the document has no grammar"
  | elementDeclaredTwice => "an element is declared in both subsets"
  | nameListedTwice => "a name is listed twice"
  | notationDeclaredTwice => "a notation is declared twice"
  | misusedIdType => "an ID attribute is declared in a way that is not allowed"
  | invalidDefault => "a default value does not fit its type"
  | undeclaredReference => "an entity is not declared"
  | wrongRoot => "the document element is not the declared one"
  | undeclaredElement => "an element is not declared"
  | ambiguousModel => "a content model is ambiguous"
  | invalidContent => "the content of an element does not fit its model"
  | standaloneSpace => "white space depends on an external declaration"
  | missingAttribute => "a required attribute is missing"
  | undeclaredAttribute => "an attribute is not declared"
  | invalidAttribute => "the value of an attribute does not fit its type"
  | repeatedId => "an ID occurs twice"
  | unknownId => "a reference to an ID has no target"

end Report

/-- The wording of the report that decides against a document, if there is one. -/
def refusal? (reports : List Report) : Option Report :=
  match reports.getLast? with
  | some report => if report.isError then some report else none
  | none => none

end ResourceBundle.Xml
