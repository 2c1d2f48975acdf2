import ResourceBundle.Text.Ranges

/-! # Character classes of XML 1.0, fifth edition -/

namespace ResourceBundle.Xml

abbrev Name := List Char

def isSpace (c : Char) : Bool := c.toNat == 0x20 || c.toNat == 9 || c.toNat == 10 || c.toNat == 13

/-- Whether a document may hold the character. -/
def isLegal (c : Char) : Bool :=
  let n := c.toNat
  n == 9 || n == 10 || n == 13 || (decide (0x20 ≤ n) && n != 0xFFFE && n != 0xFFFF)

/-- Whether a name may begin with the character, the colon apart. -/
def isNameStart (c : Char) : Bool :=
  c.isAlpha || c == '_' ||
    (decide (0x80 ≤ c.toNat) && Text.RangeTable.has [
      (0xC0, 0xD6), (0xD8, 0xF6), (0xF8, 0x2FF), (0x370, 0x37D), (0x37F, 0x1FFF), (0x200C, 0x200D),
      (0x2070, 0x218F), (0x2C00, 0x2FEF), (0x3001, 0xD7FF), (0xF900, 0xFDCF), (0xFDF0, 0xFFFD),
      (0x10000, 0xEFFFF)] c)

/-- Whether a name may go on with the character, the colon apart. -/
def isNamePart (c : Char) : Bool :=
  isNameStart c || c.isDigit || c == '-' || c == '.' || c.toNat == 0xB7 ||
    Text.RangeTable.has [(0x300, 0x36F), (0x203F, 0x2040)] c

/-- Whether a name may go on with the character. -/
def isNameChar (c : Char) : Bool := c == ':' || isNamePart c

def isName : List Char → Bool
  | [] => false
  | c :: rest => (c == ':' || isNameStart c) && rest.all isNameChar

def isToken (cs : List Char) : Bool := !cs.isEmpty && cs.all isNameChar

/-- Whether a public identifier may hold the character. -/
def isPubidChar (c : Char) : Bool :=
  c.isAlphanum || [' ', '\r', '\n', '-', '\'', '(', ')', '+', ',', '.', '/', ':', '=', '?', ';', '!',
    '*', '#', '@', '$', '_', '%'].contains c

/-- Whether a text consists of white space only. -/
def isBlank (cs : List Char) : Bool := cs.all isSpace

/-- The pieces of a text between single spaces, empty ones left out. -/
def words (cs : List Char) : List (List Char) := go [] cs
where
  /-- `word` holds the current piece in reverse. -/
  go (word : List Char) : List Char → List (List Char)
    | [] => if word = [] then [] else [word.reverse]
    | c :: rest =>
      if c = ' ' then (if word = [] then go [] rest else word.reverse :: go [] rest)
      else go (c :: word) rest

def unwords : List (List Char) → List Char
  | [] => []
  | [word] => word
  | word :: rest => word ++ ' ' :: unwords rest

/-- The local part of a qualified name, and its prefix if there is one. -/
def splitName (name : Name) : Option Name × Name :=
  match name.span (· ≠ ':') with
  | (before, _ :: after) => if before = [] ∨ after = [] then (none, name) else (some before, after)
  | (_, []) => (none, name)

end ResourceBundle.Xml
