import ResourceBundle.Text.Letter.Table

/-! # Letters, digits and word characters

ASCII is decided by rule, all other characters by the tables. -/

namespace ResourceBundle.Text

def isLetter (c : Char) : Bool :=
  if c.toNat < 128 then c.isAlpha
  else Letter.lowerPlane.has c || Letter.upperPlane.has c

/-- Whether the character is a digit of any script, a superscript or a circled digit among them. -/
def isDigit (c : Char) : Bool :=
  if c.toNat < 128 then c.isDigit else Letter.digits.has c

/-- Whether the character is a decimal digit of any script. -/
def isDecimal (c : Char) : Bool :=
  if c.toNat < 128 then c.isDigit
  else Letter.zeros.any fun first => decide (first ≤ c.toNat) && decide (c.toNat ≤ first + 9)

/-- Whether the character has a numeric value without being a letter. -/
def isNumeral (c : Char) : Bool :=
  if c.toNat < 128 then c.isDigit else Letter.numerals.has c

/-- Letters, numerals and the underscore. -/
def isWordChar (c : Char) : Bool := c == '_' || isLetter c || isNumeral c

/-- A text of one or more letters. -/
def isAlphabetic (cs : List Char) : Bool := !cs.isEmpty && cs.all isLetter

end ResourceBundle.Text
