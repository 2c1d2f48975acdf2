import ResourceBundle.Failure
import ResourceBundle.Text.Blank
import ResourceBundle.Text.Digits
import ResourceBundle.Text.Letter
import ResourceBundle.Text.LineBreak
import ResourceBundle.Text.Quoted

/-! # Resource keys

A text key has the shape `class.USE_id`, a message key is the message prefix followed by the message
id. Where an element gives no id of its own, the id is derived from its kind and its name. -/

namespace ResourceBundle

/-- How a text is used; the use is part of its key. -/
inductive TextUse where
  | caption | description | label | message | mnemonic | name | prompt | string | title | tooltip
  | txt | usage
  /-- The use is left to the derivation of the key. -/
  | unspecified
deriving DecidableEq, Repr

namespace TextUse

def all : List TextUse := [caption, description, label, message, mnemonic, name, prompt, string,
  title, tooltip, txt, usage, unspecified]

/-- The name of a use as it appears in keys and manifests. -/
def text : TextUse → String
  | caption => "CAPTION"
  | description => "DESCRIPTION"
  | label => "LABEL"
  | message => "MESSAGE"
  | mnemonic => "MNEMONIC"
  | name => "NAME"
  | prompt => "PROMPT"
  | string => "STRING"
  | title => "TITLE"
  | tooltip => "TOOLTIP"
  | txt => "TXT"
  | usage => "USAGE"
  | unspecified => "TEXTUSE_DEFAULT"

def ofText? (s : String) : Option TextUse := all.find? (·.text == s)

def ofText (s : String) : Except Failure TextUse :=
  match ofText? s with
  | some use => .ok use
  | none => .error (.notATextUse (Text.quoted s))

theorem ofText?_text (use : TextUse) : ofText? use.text = some use := by
  cases use <;> decide

/-- The use, or another one if it is left open. -/
def orElse (use default : TextUse) : TextUse := if use = unspecified then default else use

end TextUse

/-- What kind of program element carries a text. -/
inductive ElementKind where
  | method
  | field
  | enumConstant
  | other (name : String)
deriving DecidableEq, Repr

namespace ElementKind

def text : ElementKind → String
  | method => "method"
  | field => "field"
  | enumConstant => "enum_constant"
  | other name => name

def ofText? (s : String) : Option ElementKind := [method, field, enumConstant].find? (·.text == s)

/-- The kind of a name; a name that is not known stands for itself. -/
def ofText (s : String) : ElementKind := (ofText? s).getD (other s)

end ElementKind

/-- The use and the id that make up a text key. -/
structure DerivedKey where
  use : TextUse
  id : String
deriving DecidableEq, Repr

inductive MessageId where
  | number (n : Int)
  | text (s : String)
  | flag (b : Bool)
deriving DecidableEq, Repr

/-- A number has at least three characters, a truth value is spelled out, a text stays as it is. No number is
too large to be spelled out here. -/
def MessageId.spelling : MessageId → String
  | number n => String.ofList (Text.paddedInt 3 n)
  | text s => s
  | flag b => if b then "True" else "False"

namespace Key

/-- The key of a text: nested classes are separated by a dot. -/
def ofText (className : String) (use : TextUse) (id : String) : String :=
  String.ofList (Text.replaceChar '$' ['.'] className.toList) ++ "." ++ use.text ++ "_" ++ id

def ofMessage (messagePrefix : String) (id : MessageId) : String := messagePrefix ++ id.spelling

/-- The text after a given start. -/
def after? : (start cs : List Char) → Option (List Char)
  | [], cs => some cs
  | _ :: _, [] => none
  | a :: start, c :: cs => if a = c then after? start cs else none

/-- The starts of a getter, setter or adder name. -/
def accessorStarts : List (List Char) := [['g', 'e', 't'], ['s', 'e', 't'], ['a', 'd', 'd'], ['i', 's']]

def isPropertyStart (c : Char) : Bool := c.isUpper || c == '_' || c == '$'

def isPropertyChar (c : Char) : Bool := Text.isWordChar c || c == '$'

/-- A text that is a property name, up to one line feed at its end. -/
def property? : List Char → Option (List Char)
  | [] => none
  | c :: rest =>
    if isPropertyStart c then
      let further := rest.takeWhile isPropertyChar
      let left := rest.dropWhile isPropertyChar
      if left = [] ∨ left = ['\n'] then some (c :: further) else none
    else
      none

/-- The property that a getter, setter or adder name names. -/
def propertyName? (method : String) : Option String :=
  (accessorStarts.findSome? fun start =>
    (after? start method.toList).bind property?).map String.ofList

/-- The position of the first underscore. -/
def underscore? (cs : List Char) : Option Nat := cs.findIdx? (· == '_')

/-- A field name is split after `m_`, or at its first underscore if at least two characters come
before it, which must then name a text use. -/
def ofField (name : String) (use : TextUse) : Except Failure DerivedKey :=
  match name.toList with
  | 'm' :: '_' :: rest => .ok ⟨use, String.ofList rest⟩
  | cs =>
    match underscore? cs with
    | some position =>
      if 1 < position then
        let part := String.ofList (cs.take position)
        match TextUse.ofText? part with
        | some parsed => .ok ⟨parsed, String.ofList (cs.drop (position + 1))⟩
        | none => .error (.unknownUse name part)
      else
        .ok ⟨use, name⟩
    | none => .ok ⟨use, name⟩

/-- The key of an element, where the use may still be open. -/
def ofElement (kind : ElementKind) (name explicitId : String) (use : TextUse) :
    Except Failure DerivedKey :=
  let blank := Text.isBlankText explicitId
  match kind with
  | .enumConstant => .ok ⟨use.orElse .string, if blank then name else explicitId⟩
  | .method =>
    if blank then
      match propertyName? name with
      | some property => .ok ⟨use.orElse .name, property⟩
      | none => .error (.missingId name)
    else
      .ok ⟨use, explicitId⟩
  | .field => if blank then ofField name use else .ok ⟨use, explicitId⟩
  | .other kindName => .error (.unsupportedKind (Text.quoted kindName))

/-- The key of an element. An explicit id that is not blank wins over the name; a use that is still
open becomes `TXT`. -/
def derive (kind : ElementKind) (name explicitId : String) (use : TextUse) :
    Except Failure DerivedKey :=
  (ofElement kind name explicitId use).map fun key => ⟨key.use.orElse .txt, key.id⟩

end Key

end ResourceBundle
