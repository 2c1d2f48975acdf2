import ResourceBundle.Failure
import ResourceBundle.Text.LineBreak

/-! # Text entries

An entry is one text of a bundle in one locale. Its key is not empty, and its text holds no line feed:
line feeds are kept as a backslash and an `n`, so that the text fits on one line. -/

namespace ResourceBundle

/-- One key with its text, destined for the bundle of a locale. -/
structure Entry where
  key : String
  isMessage : Bool
  locale : String
  description : String
  text : String
  className : String
  key_ne_empty : key ≠ ""
  text_single_line : '\n' ∉ text.toList
deriving DecidableEq

namespace Entry

/-- The text with each line feed written as a backslash and an `n`. -/
def singleLine (cs : List Char) : List Char := Text.replaceChar '\n' ['\\', 'n'] cs

theorem not_mem_singleLine (cs : List Char) : '\n' ∉ singleLine cs :=
  Text.not_mem_replaceChar (by decide) cs

/-- An entry with the given content; an empty key is refused. -/
def create (key : String) (isMessage : Bool) (locale description text className : String) :
    Except Failure Entry :=
  if h : key = "" then
    .error .emptyEntryKey
  else
    .ok ⟨key, isMessage, locale, description, String.ofList (singleLine text.toList), className, h,
      by simpa using not_mem_singleLine text.toList⟩

/-- The mark that brings entries of this sort about. -/
def mark (entry : Entry) : String := if entry.isMessage then "@Message" else "@Text"

end Entry

end ResourceBundle
