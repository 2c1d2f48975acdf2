import ResourceBundle.Text.Digits
import ResourceBundle.Text.Printable.Table

/-! # Quoted text

A quoted text stands between single quotes, or between double quotes if it holds a single quote and no
double quote. The quote in use, the backslash, line feed, carriage return and tab are escaped with a
backslash, every other character that is not printable by its code point. -/

namespace ResourceBundle.Text

/-- Whether the character has a visible form; of the blanks only the space has one. -/
def isPrintable (c : Char) : Bool :=
  if c.toNat < 128 then decide (0x20 ≤ c.toNat) && decide (c.toNat < 0x7F)
  else !(Printable.lowerHidden.has c || Printable.upperHidden.has c)

def quoteChar (quote c : Char) : List Char :=
  if c = quote ∨ c = '\\' then ['\\', c]
  else if c = '\n' then ['\\', 'n']
  else if c = '\r' then ['\\', 'r']
  else if c = '\t' then ['\\', 't']
  else if isPrintable c then [c]
  else if c.toNat < 0x100 then '\\' :: 'x' :: lowerHex 2 c.toNat
  else if c.toNat < 0x10000 then '\\' :: 'u' :: lowerHex 4 c.toNat
  else '\\' :: 'U' :: lowerHex 8 c.toNat

def quoted (text : String) : String :=
  let cs := text.toList
  let quote := if cs.contains '\'' && !cs.contains '"' then '"' else '\''
  String.ofList (quote :: cs.flatMap (quoteChar quote) ++ [quote])

end ResourceBundle.Text
