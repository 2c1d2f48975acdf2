import ResourceBundle.Text.Ranges

/-! # Blank characters

Blanks are the separators U+001C to U+001F, the white space of ASCII, and the characters of the
categories Zs, Zl and Zp, together with NEXT LINE. A zero-width space or a byte order mark is not blank. -/

namespace ResourceBundle.Text

def blanks : RangeTable := [
  (0x0009, 0x000D), (0x001C, 0x0020), (0x0085, 0x0085), (0x00A0, 0x00A0), (0x1680, 0x1680),
  (0x2000, 0x200A), (0x2028, 0x2029), (0x202F, 0x202F), (0x205F, 0x205F), (0x3000, 0x3000)]

def isBlank (c : Char) : Bool := blanks.has c

def trimStart (cs : List Char) : List Char := cs.dropWhile isBlank

def trimEnd (cs : List Char) : List Char := (cs.reverse.dropWhile isBlank).reverse

def trim (cs : List Char) : List Char := trimEnd (trimStart cs)

/-- Whether the text consists of blanks only; the empty text does. -/
def isBlankText (text : String) : Bool := text.toList.all isBlank

end ResourceBundle.Text
