/-! # Digits of numbers

Every number has a text. Where numbers are spelled out by an interpreter that limits their digits, to 4300
for instance, larger ones are refused there; they cannot come from a manifest, whose reader has this limit. -/

namespace ResourceBundle.Text

/-! ## Decimal digits -/

def natDigits (n : Nat) : List Char := Nat.toDigits 10 n

/-- The decimal digits, with leading zeros up to the width. -/
def paddedDigits (width n : Nat) : List Char :=
  let digits := natDigits n
  List.replicate (width - digits.length) '0' ++ digits

/-- An integer in at least `width` characters: leading zeros stand between the sign and the digits,
and the sign counts. -/
def paddedInt (width : Nat) : Int → List Char
  | .ofNat n => paddedDigits width n
  | .negSucc n => '-' :: paddedDigits (width - 1) (n + 1)

def intText (n : Int) : String := String.ofList (paddedInt 1 n)

/-! ## Hexadecimal digits -/

def hexDigit (n : Nat) : Char :=
  if n < 10 then Char.ofNat (48 + n) else Char.ofNat (55 + n)

/-- The last `width` hexadecimal digits of a number, in upper case. -/
def hex : (width : Nat) → Nat → List Char
  | 0, _ => []
  | width + 1, n => hex width (n / 16) ++ [hexDigit (n % 16)]

/-- The last `width` hexadecimal digits of a number, in lower case. -/
def lowerHex (width n : Nat) : List Char := (hex width n).map Char.toLower

/-- The value of a hexadecimal digit in either case. -/
def hexValue? (c : Char) : Option Nat :=
  if '0' ≤ c ∧ c ≤ '9' then some (c.toNat - 48)
  else if 'A' ≤ c ∧ c ≤ 'F' then some (c.toNat - 55)
  else if 'a' ≤ c ∧ c ≤ 'f' then some (c.toNat - 87)
  else none

end ResourceBundle.Text
