import ResourceBundle.Entry
import ResourceBundle.Text.Blank
import ResourceBundle.Text.Digits
import ResourceBundle.Text.Normal

/-! # Bundles

A bundle is the file of one locale: a header, then for each entry its description and class name as
comments, the line `key=text`, and an empty line. The file is written in ISO-8859-1. A text with a
character outside of it is normalised and escaped; everything else outside of it becomes `?`. -/

namespace ResourceBundle.Bundle

def ending : String := ".properties"

/-- The path of the bundle of a locale: dots of the base name separate folders, and a locale that is
not the default one is added to the name. -/
def path (baseName locale defaultLocale : String) : String :=
  let stem := String.ofList (Text.replaceChar '.' ['/'] baseName.toList)
  (if locale = defaultLocale then stem else stem ++ "_" ++ locale) ++ ending

def isLatin (c : Char) : Bool := decide (c.toNat < 0x100)

theorem isLatin_iff {c : Char} : isLatin c = true ↔ c.toNat < 256 := by simp [isLatin]

/-- Whether the text can be written in ISO-8859-1. -/
def canEncode (cs : List Char) : Bool := cs.all isLatin

def escapeUnit (n : Nat) : List Char := '\\' :: 'u' :: Text.hex 4 n

/-- An ASCII character as it is, any other one by its units of UTF-16. -/
def escapeChar (c : Char) : List Char :=
  let n := c.toNat
  if n < 0x80 then [c]
  else if n < 0x10000 then escapeUnit n
  else escapeUnit (0xD800 + (n - 0x10000) / 0x400) ++ escapeUnit (0xDC00 + (n - 0x10000) % 0x400)

/-- The text, normalised and in ASCII. -/
def escape (cs : List Char) : List Char := (Text.nfkc cs).flatMap escapeChar

/-- The value that is written for a text. -/
def value (cs : List Char) : List Char := if canEncode cs then cs else escape cs

def header : List Char := "# suppress inspection \"TrailingSpacesInProperty\" for whole file\n".toList

def comment (line : List Char) : List Char := '#' :: ' ' :: line ++ ['\n']

/-- The comments of an entry: each line of its description, and its class name if that is not blank. -/
def comments (entry : Entry) : List Char :=
  (Text.pieces '\n' entry.description.toList).flatMap comment ++
    if Text.isBlankText entry.className then []
    else comment ("Defined in: ".toList ++ entry.className.toList)

def definition (entry : Entry) : List Char := entry.key.toList ++ '=' :: value entry.text.toList

def render (entries : List Entry) : List Char :=
  header ++ entries.flatMap fun entry => comments entry ++ definition entry ++ ['\n', '\n']

/-- The byte of a character; a question mark if it has none. -/
def encodeChar (c : Char) : UInt8 := if isLatin c then c.toNat.toUInt8 else 0x3F

def encode (cs : List Char) : List UInt8 := cs.map encodeChar

/-- The text of bytes, one character each. -/
def decode (bytes : List UInt8) : List Char := bytes.map fun byte => Char.ofNat byte.toNat

/-- What can be written in ISO-8859-1 is read back. -/
theorem decode_encode {cs : List Char} (h : canEncode cs = true) : decode (encode cs) = cs := by
  induction cs with
  | nil => rfl
  | cons c cs ih =>
    simp only [canEncode, List.all_cons, Bool.and_eq_true] at h
    have hc := isLatin_iff.1 h.1
    simp only [encode, decode, List.map_cons, List.cons.injEq]
    refine ⟨?_, ih h.2⟩
    rw [encodeChar, if_pos h.1, UInt8.toNat_ofNat', Nat.mod_eq_of_lt (by omega)]
    exact Char.ofNat_toNat c

def payload (entries : List Entry) : List UInt8 := encode (render entries)

end ResourceBundle.Bundle
