import ResourceBundle.Element
import ResourceBundle.Json.Writer

/-! # Writing a manifest

The JSON form of a round with all its members, those left at their default included. -/

namespace ResourceBundle.Manifest

/-- A value, or null. -/
def ofOption {α : Type} (write : α → Json) : Option α → Json
  | some a => write a
  | none => .null

def ofTranslation (t : Translation) : Json :=
  .object [("language", .string t.language), ("text", .string t.text)]

def ofTranslations (ts : List Translation) : Json := .array (ts.map ofTranslation)

def ofTextNote (note : TextNote) : Json :=
  .object [("description", .string note.description), ("id", .string note.id),
    ("use", .string note.use.text), ("translations", ofTranslations note.translations)]

def ofMessageNote (note : MessageNote) : Json :=
  .object [("description", .string note.description), ("translations", ofTranslations note.translations)]

def ofConstant : Constant → Json
  | .number n => .int n
  | .text s => .string s

def ofElement (element : Element) : Json :=
  .object [("kind", .string element.kind.text), ("name", .string element.name),
    ("enclosing_type", .string element.enclosingType),
    ("constant_value", ofOption ofConstant element.constant),
    ("message", ofOption ofMessageNote element.message),
    ("texts", .array (element.texts.map ofTextNote))]

def ofValueMarker (marker : ValueMarker) : Json :=
  .object [("element", .string marker.element), ("value", .string marker.value),
    ("default_language", ofOption .string marker.defaultLanguage)]

def ofTextsMarker (marker : TextsMarker) : Json :=
  .object [("element", .string marker.element), ("location", .string marker.location)]

def ofRound (round : Round) : Json :=
  .object [("elements", .array (round.elements.map ofElement)),
    ("message_prefix", .array (round.messagePrefix.map ofValueMarker)),
    ("base_bundle_name", .array (round.baseBundleName.map ofValueMarker)),
    ("use_additional_texts", .array (round.useAdditionalTexts.map ofTextsMarker)),
    ("error_raised", .bool round.errorRaised)]

/-- The manifest of a round. -/
def writeRound (round : Round) : List Char := Json.write (ofRound round)

end ResourceBundle.Manifest
