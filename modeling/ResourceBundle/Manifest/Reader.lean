import ResourceBundle.Element
import ResourceBundle.Json.Binary64
import ResourceBundle.Json.Reader
import ResourceBundle.Manifest.Fault

/-! # Reading a manifest

A manifest is the JSON form of a round. Members that are not known are ignored, lists and texts that
are left out are empty. All faults are reported, in the order of the members of each record. -/

namespace ResourceBundle.Manifest

def string : Json → Checked String
  | .string s => .ok s
  | _ => .fault .notAString

def nonemptyString (value : Json) : Checked String := do
  let s ← string value
  if s = "" then .fault .stringTooShort else pure s

/-- A string that names something of an enumeration. -/
def named {α : Type} (ofText? : String → Option α) : Json → Checked α
  | .string s =>
    match ofText? s with
    | some a => .ok a
    | none => .fault .notOfEnumeration
  | _ => .fault .notOfEnumeration

/-- A list whose items are read alike. -/
def listOf {α : Type} (item : Json → Checked α) : Json → Checked (List α)
  | .array items => .list (items.mapIdx fun i value => (item value).under (.item i))
  | _ => .fault .notAList

def nullable {α : Type} (read : Json → Checked α) : Json → Checked (Option α)
  | .null => .ok none
  | value => (read value).map some

/-- The first number that does not fit a signed word of 64 bits. -/
def wordBound : Int := 0x8000000000000000

/-- Whether a double of this value is taken for an integer. -/
def inWord (n : Int) : Bool := decide (-wordBound < n) && decide (n < wordBound)

/-- A decimal as an integer: its nearest double must be finite, integral and of moderate size. -/
def intOfDecimal (negative : Bool) (mantissa : Nat) (exponent : Int) : Except FaultKind Int :=
  match Json.Binary64.nearest negative mantissa exponent with
  | .infinite => .error .notFinite
  | .fractional => .error .fractionalInt
  | .integral n => if inWord n then .ok n else .error .oversizedInt

/-- A value as an integer; truth values count as 0 and 1. -/
def int : Json → Except FaultKind Int
  | .bool b => .ok (if b then 1 else 0)
  | .number (.int n) => .ok n
  | .number (.decimal negative mantissa exponent) => intOfDecimal negative mantissa exponent
  | .number _ => .error .notFinite
  | _ => .error .notAnInt

/-- A constant: a string, or a value that is an integer. -/
def constant : Json → Checked Constant
  | .string s => .ok (.text s)
  | value =>
    match int value with
    | .ok n => .ok (.number n)
    | .error kind => .error [⟨kind, [.member "int"]⟩, ⟨.notAString, [.member "str"]⟩]

def truthWords : List (String × Bool) := [("0", false), ("off", false), ("f", false),
  ("false", false), ("n", false), ("no", false), ("1", true), ("on", true), ("t", true),
  ("true", true), ("y", true), ("yes", true)]

def boolOfInt (n : Int) : Checked Bool :=
  if n = 0 then .ok false else if n = 1 then .ok true else .fault .unreadableBool

/-- A truth value: `true` and `false`, 0 and 1, or a word for it. -/
def bool : Json → Checked Bool
  | .bool b => .ok b
  | .string s =>
    match truthWords.lookup (String.ofList (s.toList.map Char.toLower)) with
    | some b => .ok b
    | none => .fault .unreadableBool
  | .number (.int n) => if inWord n || n == -wordBound then boolOfInt n else .fault .notABool
  | .number (.decimal negative mantissa exponent) =>
    match intOfDecimal negative mantissa exponent with
    | .ok n => boolOfInt n
    | .error _ => .fault .notABool
  | _ => .fault .notABool

def record {α : Type} (read : List (String × Json) → Checked α) : Json → Checked α
  | .object members => read members
  | _ => .fault .notAnObject

def required {α : Type} (name : String) (read : Json → Checked α) (members : List (String × Json)) :
    Checked α :=
  Checked.under (.member name) (match Json.member? members name with
    | some value => read value
    | none => .fault .missing)

def optional {α : Type} (name : String) (read : Json → Checked α) (default : α)
    (members : List (String × Json)) : Checked α :=
  match Json.member? members name with
  | some value => (read value).under (.member name)
  | none => .ok default

def translation : Json → Checked Translation := record fun members =>
  ((required "language" string members).both (required "text" string members)).map
    fun (language, text) => ⟨language, text⟩

def translations (members : List (String × Json)) : Checked (List Translation) :=
  optional "translations" (listOf translation) [] members

def textNote : Json → Checked TextNote := record fun members =>
  ((optional "description" string "" members).both <|
    (optional "id" string "" members).both <|
    (optional "use" (named TextUse.ofText?) .unspecified members).both (translations members)).map
    fun (description, id, use, translations) => ⟨description, id, use, translations⟩

def messageNote : Json → Checked MessageNote := record fun members =>
  ((optional "description" string "" members).both (translations members)).map
    fun (description, translations) => ⟨description, translations⟩

def element : Json → Checked Element := record fun members =>
  ((required "kind" (named ElementKind.ofText?) members).both <|
    (required "name" nonemptyString members).both <|
    (required "enclosing_type" nonemptyString members).both <|
    (optional "constant_value" (nullable constant) none members).both <|
    (optional "message" (nullable messageNote) none members).both
      (optional "texts" (listOf textNote) [] members)).map
    fun (kind, name, enclosingType, constant, message, texts) =>
      ⟨kind, name, enclosingType, constant, message, texts⟩

def valueMarker : Json → Checked ValueMarker := record fun members =>
  ((required "element" string members).both <|
    (required "value" string members).both
      (optional "default_language" (nullable string) none members)).map
    fun (element, value, defaultLanguage) => ⟨element, value, defaultLanguage⟩

def textsMarker : Json → Checked TextsMarker := record fun members =>
  ((required "element" string members).both (optional "location" string "" members)).map
    fun (element, location) => ⟨element, location⟩

def round : Json → Checked Round := record fun members =>
  ((optional "elements" (listOf element) [] members).both <|
    (optional "message_prefix" (listOf valueMarker) [] members).both <|
    (optional "base_bundle_name" (listOf valueMarker) [] members).both <|
    (optional "use_additional_texts" (listOf textsMarker) [] members).both
      (optional "error_raised" bool false members)).map
    fun (elements, messagePrefix, baseBundleName, useAdditionalTexts, errorRaised) =>
      ⟨elements, messagePrefix, baseBundleName, useAdditionalTexts, errorRaised⟩

/-- The limits of the JSON reader for manifests. -/
def limits : Json.Limits := ⟨4300, 200⟩

def readText {α : Type} (read : Json → Checked α) (text : List Char) : Checked α :=
  match Json.read? limits text with
  | some value => read value
  | none => .fault .jsonInvalid

/-- The round of a manifest. -/
def readRound (text : List Char) : Checked Round := readText round text

def readElement (text : List Char) : Checked Element := readText element text

end ResourceBundle.Manifest
