import ResourceBundle.Key

/-! # Annotated elements and rounds

An element is a program element with the messages and texts that its author attached to it; a round
is everything that was discovered in one go. -/

namespace ResourceBundle

structure Translation where
  language : String
  text : String
deriving DecidableEq, Repr

/-- A text attached to an element. -/
structure TextNote where
  description : String
  id : String
  use : TextUse
  translations : List Translation
deriving DecidableEq, Repr

structure MessageNote where
  description : String
  translations : List Translation
deriving DecidableEq, Repr

inductive Constant where
  | number (n : Int)
  | text (s : String)
deriving DecidableEq, Repr

def Constant.messageId : Constant → MessageId
  | number n => .number n
  | text s => .text s

/-- A program element with its message and its texts. -/
structure Element where
  kind : ElementKind
  name : String
  enclosingType : String
  constant : Option Constant
  message : Option MessageNote
  texts : List TextNote
deriving DecidableEq, Repr

namespace Element

def qualifiedName (element : Element) : String := element.enclosingType ++ "." ++ element.name

/-- Whether the element carries a message or a text. -/
def isMarked (element : Element) : Bool := element.message.isSome || !element.texts.isEmpty

/-- The id of the element's message: its constant value, or else its name. -/
def messageId (element : Element) : MessageId :=
  match element.constant with
  | some constant => constant.messageId
  | none => .text element.name

end Element

/-- A constant that configures a round. -/
structure ValueMarker where
  element : String
  value : String
  defaultLanguage : Option String
deriving DecidableEq, Repr

/-- A request to merge additional texts. -/
structure TextsMarker where
  element : String
  location : String
deriving DecidableEq, Repr

/-- Everything that was discovered in one round. -/
structure Round where
  elements : List Element
  messagePrefix : List ValueMarker
  baseBundleName : List ValueMarker
  useAdditionalTexts : List TextsMarker
  errorRaised : Bool
deriving DecidableEq, Repr

namespace Round

/-- The names of the marks that occur in a round, in alphabetical order. -/
def markNames (round : Round) : List String :=
  let present (holds : Bool) (name : String) : List String := if holds then [name] else []
  present (!round.baseBundleName.isEmpty) "BaseBundleName" ++
    present (round.elements.any (·.message.isSome)) "Message" ++
    present (!round.messagePrefix.isEmpty) "MessagePrefix" ++
    present (round.elements.any (·.texts.length == 1)) "Text" ++
    present (round.elements.any fun element => decide (1 < element.texts.length)) "Texts" ++
    present (!round.useAdditionalTexts.isEmpty) "UseAdditionalTexts"

def markedElements (round : Round) : List Element := round.elements.filter (·.isMarked)

end Round

end ResourceBundle
