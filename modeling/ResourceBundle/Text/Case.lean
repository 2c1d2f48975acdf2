import ResourceBundle.Text.Case.Table

/-! # Full case conversion

One character may become several. A capital sigma becomes a final sigma when a bicameral letter comes
before it and none after it, where ignorable characters are skipped in both directions. A title-cased
text capitalises every bicameral letter that follows none. -/

namespace ResourceBundle.Text

namespace Case

def expansion? (table : List (Nat × List Nat)) (c : Char) : Option (List Char) :=
  (table.find? (·.1 == c.toNat)).map fun entry => entry.2.map Char.ofNat

/-- The image under an expansion, a run, or else the character itself. -/
def convert (expansions : List (Nat × List Nat)) (runs : List Run) (c : Char) : List Char :=
  match expansion? expansions c with
  | some cs => cs
  | none => [(runImage? runs c).getD c]

def upperChar (c : Char) : List Char :=
  if c.toNat < 128 then [c.toUpper] else convert upperExpansions upperRuns c

/-- The lower-case form of one character that stands alone. -/
def lowerChar (c : Char) : List Char :=
  if c.toNat < 128 then [c.toLower] else convert lowerExpansions lowerRuns c

/-- The form of one character at the start of a title-cased word. -/
def titleChar (c : Char) : List Char :=
  if c.toNat < 128 then [c.toUpper]
  else if titleUnchanged.has c then [c]
  else (expansion? titleForms c).getD (upperChar c)

/-- Whether the character is an upper-, lower- or title-case letter. -/
def isCased (c : Char) : Bool :=
  if c.toNat < 128 then c.isAlpha else cased.has c

/-- Whether the character is skipped in the search for the end of a word. -/
def isIgnorable (c : Char) : Bool :=
  if c.toNat < 128 then c == '\'' || c == '.' || c == ':' || c == '^' || c.toNat == 0x60
  else ignorable.has c

/-- Whether the first character that is not skipped is cased. -/
def meetsCased (cs : List Char) : Bool :=
  match cs.dropWhile isIgnorable with
  | [] => false
  | c :: _ => isCased c

/-- The lower-case form of a character between the text before it, in reverse, and the text after it. -/
def lowerBetween (before : List Char) (c : Char) (after : List Char) : List Char :=
  if c.toNat = 0x3A3 then
    if meetsCased before && !meetsCased after then [Char.ofNat 0x3C2] else [Char.ofNat 0x3C3]
  else
    lowerChar c

/-- Lower-cases a text whose preceding text is given in reverse. -/
def lowerFrom (before : List Char) : List Char → List Char
  | [] => []
  | c :: rest => lowerBetween before c rest ++ lowerFrom (c :: before) rest

/-- Title-cases a text whose preceding text is given in reverse; `inWord` tells whether the last
character was cased. -/
def titleFrom (before : List Char) (inWord : Bool) : List Char → List Char
  | [] => []
  | c :: rest =>
    (if inWord then lowerBetween before c rest else titleChar c) ++
      titleFrom (c :: before) (isCased c) rest

end Case

def upper (cs : List Char) : List Char := cs.flatMap Case.upperChar

def lower (cs : List Char) : List Char := Case.lowerFrom [] cs

/-- The text with the first letter of each word in title case and the other letters in lower case. -/
def title (cs : List Char) : List Char := Case.titleFrom [] false cs

def lowerString (text : String) : String := String.ofList (lower text.toList)

def upperString (text : String) : String := String.ofList (upper text.toList)

end ResourceBundle.Text
