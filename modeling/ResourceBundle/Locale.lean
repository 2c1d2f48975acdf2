import ResourceBundle.Failure
import ResourceBundle.Text.Blank
import ResourceBundle.Text.Case
import ResourceBundle.Text.Letter
import ResourceBundle.Text.LineBreak

/-! # Locales

A language tag is read as `language[_Script][_TERRITORY][_VARIANT][@modifier]`. A hyphen counts as an
underscore, and a charset between a dot and the modifier is dropped. Only the shape of the parts is
checked, no part is looked up. -/

namespace ResourceBundle

/-- The parts of a locale; none of them is empty. -/
structure Locale where
  language : List Char
  script : Option (List Char)
  territory : Option (List Char)
  variant : Option (List Char)
  modifier : Option (List Char)
deriving DecidableEq, Repr

namespace Locale

/-- The identifier of a locale: its parts joined by underscores, then the modifier. -/
def identifier (locale : Locale) : String :=
  let tail (part : Option (List Char)) : List Char := match part with
    | some cs => '_' :: cs
    | none => []
  String.ofList (locale.language ++ tail locale.script ++ tail locale.territory ++
    tail locale.variant ++ (match locale.modifier with
      | some cs => '@' :: cs
      | none => []))

/-- Whether a part is a script: four letters. -/
def isScript (part : List Char) : Bool := part.length == 4 && part.all Text.isLetter

/-- The territory that a part names: two letters, or three digits. -/
def territory? (part : List Char) : Option (List Char) :=
  if part.length = 2 ∧ part.all Text.isLetter then some (Text.upper part)
  else if part.length = 3 ∧ part.all Text.isDigit then some part
  else none

/-- Whether a part announces a variant: four characters after a digit, or five or more after a letter. -/
def announcesVariant : List Char → Bool
  | [] => false
  | c :: rest => (rest.length == 3 && Text.isDigit c) || (decide (4 ≤ rest.length) && Text.isLetter c)

def takeScript : List (List Char) → Option (List Char) × List (List Char)
  | [] => (none, [])
  | part :: rest => if isScript part then (some (Text.title part), rest) else (none, part :: rest)

def takeTerritory : List (List Char) → Option (List Char) × List (List Char)
  | [] => (none, [])
  | part :: rest =>
    match territory? part with
    | some territory => (some territory, rest)
    | none => (none, part :: rest)

/-- Takes the last part off if the first one announces a variant. -/
def takeVariant : List (List Char) → Option (List Char) × List (List Char)
  | [] => (none, [])
  | part :: rest =>
    if announcesVariant part then
      (((part :: rest).getLast?).map Text.upper, (part :: rest).dropLast)
    else
      (none, part :: rest)

def cutAt (separator : Char) (cs : List Char) : List Char × List Char :=
  (cs.takeWhile (· ≠ separator), (cs.dropWhile (· ≠ separator)).drop 1)

/-- Reads a tag whose hyphens are underscores and whose ends are not blank. -/
def parse? (tag : List Char) : Option Locale :=
  let (head, modifier) := cutAt '@' tag
  match Text.pieces '_' (cutAt '.' head).1 with
  | [] => none
  | first :: rest =>
    let language := Text.lower first
    let (script, rest) := takeScript rest
    let (territory, rest) := takeTerritory rest
    let (variant, rest) := takeVariant rest
    if Text.isAlphabetic language && rest.isEmpty then
      some ⟨language, script, territory, variant, if modifier = [] then none else some modifier⟩
    else
      none

/-- The tag without blanks at its ends, a hyphen read as an underscore. -/
def normalizeTag (cs : List Char) : List Char := Text.replaceChar '-' ['_'] (Text.trim cs)

/-- The identifier of the locale that a language tag names; a missing tag names none. -/
def resolve (language : Option String) : Except Failure String :=
  match language with
  | none => .error (.invalidLocale "")
  | some tag =>
    match parse? (normalizeTag tag.toList) with
    | some locale => .ok locale.identifier
    | none => .error (.invalidLocale tag)

end Locale

end ResourceBundle
