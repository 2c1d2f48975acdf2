/-! # The double nearest to a decimal

A decimal is rounded to 53 significant bits, a tie to the even neighbour; below the normal range the
precision falls. Everything is computed with integers. -/

namespace ResourceBundle.Json.Binary64

/-- What the double nearest to a decimal is. -/
inductive Nearest where
  | infinite
  | fractional
  | integral (n : Int)
deriving DecidableEq, Repr

/-- A quotient rounded to the nearest integer, a tie to the even one. -/
def roundDiv (num den : Nat) : Nat :=
  let q := num / den
  let r := num % den
  if 2 * r < den ∨ (2 * r = den ∧ q % 2 = 0) then q else q + 1

/-- `num / den * 2 ^ shift` rounded to an integer. -/
def scaled (num den : Nat) (shift : Int) : Nat :=
  match shift with
  | .ofNat k => roundDiv (num * Nat.pow 2 k) den
  | .negSucc k => roundDiv num (den * Nat.pow 2 (k + 1))

/-- Whether `num / den` is below `2 ^ bit`. -/
def isBelow (num den : Nat) (bit : Int) : Bool :=
  match bit with
  | .ofNat k => decide (num < den * Nat.pow 2 k)
  | .negSucc k => decide (num * Nat.pow 2 (k + 1) < den)

/-- The exponent of the last bit of the double nearest to `num / den`. -/
def lastBit (num den : Nat) : Int :=
  let guess : Int := (Nat.log2 num : Int) - (Nat.log2 den : Int) - 52
  max (if isBelow num den (guess + 52) then guess - 1 else guess) (-1074)

def nearestOfFraction (negative : Bool) (num den : Nat) : Nearest :=
  let bit := lastBit num den
  let significand := scaled num den (-bit)
  let signed (n : Nat) : Nearest := .integral (if negative then -(n : Int) else n)
  match bit with
  | .ofNat k =>
    let n := significand * Nat.pow 2 k
    if Nat.pow 2 1024 ≤ n then .infinite else signed n
  | .negSucc k =>
    if significand % Nat.pow 2 (k + 1) = 0 then signed (significand / Nat.pow 2 (k + 1))
    else .fractional

/-- The double nearest to `mantissa * 10 ^ exponent`. -/
def nearest (negative : Bool) (mantissa : Nat) (exponent : Int) : Nearest :=
  let digits : Int := (Nat.toDigits 10 mantissa).length
  if mantissa = 0 ∨ digits + exponent < -400 then .integral 0
  else if 400 < digits + exponent then .infinite
  else
    match exponent with
    | .ofNat k => nearestOfFraction negative (mantissa * Nat.pow 10 k) 1
    | .negSucc k => nearestOfFraction negative mantissa (Nat.pow 10 (k + 1))

end ResourceBundle.Json.Binary64
