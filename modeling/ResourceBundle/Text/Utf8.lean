/-! # UTF-8

Reading accepts exactly the shortest forms of the Unicode scalar values. It reports how far a byte
sequence is well formed, so that a reader may use what comes before the first fault. -/

namespace ResourceBundle.Text.Utf8

def encodeChar (c : Char) : List UInt8 :=
  let n := c.toNat
  if n < 0x80 then [n.toUInt8]
  else if n < 0x800 then [(0xC0 + n / 64).toUInt8, (0x80 + n % 64).toUInt8]
  else if n < 0x10000 then
    [(0xE0 + n / 4096).toUInt8, (0x80 + n / 64 % 64).toUInt8, (0x80 + n % 64).toUInt8]
  else
    [(0xF0 + n / 262144).toUInt8, (0x80 + n / 4096 % 64).toUInt8, (0x80 + n / 64 % 64).toUInt8,
      (0x80 + n % 64).toUInt8]

def encode (cs : List Char) : List UInt8 := cs.flatMap encodeChar

/-- The low six bits of a continuation byte. -/
def continuation? (b : UInt8) : Option Nat :=
  if 0x80 ≤ b.toNat ∧ b.toNat < 0xC0 then some (b.toNat - 0x80) else none

/-- A character from its number, unless the number is a surrogate, too large, or below `least`. -/
def scalar? (least n : Nat) : Option Char :=
  if h : least ≤ n ∧ n.isValidChar then some (Char.ofNatAux n h.2) else none

/-- The first character of a byte sequence and the bytes after it. -/
def decodeChar? : List UInt8 → Option (Char × List UInt8)
  | [] => none
  | a :: rest =>
    let x := a.toNat
    if x < 0x80 then some (Char.ofNat x, rest)
    else if x < 0xC2 then none
    else if x < 0xE0 then
      match rest with
      | b :: rest => do
        let y ← continuation? b
        let c ← scalar? 0x80 ((x - 0xC0) * 64 + y)
        pure (c, rest)
      | _ => none
    else if x < 0xF0 then
      match rest with
      | b :: c :: rest => do
        let y ← continuation? b
        let z ← continuation? c
        let c ← scalar? 0x800 ((x - 0xE0) * 4096 + y * 64 + z)
        pure (c, rest)
      | _ => none
    else if x < 0xF5 then
      match rest with
      | b :: c :: d :: rest => do
        let y ← continuation? b
        let z ← continuation? c
        let w ← continuation? d
        let c ← scalar? 0x10000 ((x - 0xF0) * 262144 + y * 4096 + z * 64 + w)
        pure (c, rest)
      | _ => none
    else none

/-- Reads at most `fuel` characters; the flag tells whether all bytes were used. -/
def decodeUpTo : (fuel : Nat) → List UInt8 → List Char × Bool
  | _, [] => ([], true)
  | 0, _ => ([], false)
  | fuel + 1, bytes =>
    match decodeChar? bytes with
    | none => ([], false)
    | some (c, rest) =>
      let (cs, complete) := decodeUpTo fuel rest
      (c :: cs, complete)

/-- The characters before the first fault, and whether there is none. -/
def decodeStart (bytes : List UInt8) : List Char × Bool := decodeUpTo bytes.length bytes

/-- The text of a byte sequence that is well formed throughout. -/
def decode? (bytes : List UInt8) : Option (List Char) :=
  match decodeStart bytes with
  | (cs, true) => some cs
  | (_, false) => none

end ResourceBundle.Text.Utf8
