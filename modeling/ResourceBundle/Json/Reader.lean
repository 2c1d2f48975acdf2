import ResourceBundle.Json
import ResourceBundle.Text.Digits

/-! # Reading JSON

The grammar is the strict one: no byte order mark, no control character inside a string, no escape of
half a character, no leading zero. `NaN` and `Infinity` are numbers. Of two members with one name the
later one counts. A reader may limit the digits of an integer and the nesting of containers; a
container without content does not nest. -/

namespace ResourceBundle.Json

structure Limits where
  /-- The greatest number of digits of an integer. -/
  digits : Nat
  /-- The greatest nesting of containers with content. -/
  depth : Nat

def isSpace (c : Char) : Bool := c == ' ' || c == '\t' || c == '\n' || c == '\r'

def skipSpace (cs : List Char) : List Char := cs.dropWhile isSpace

/-- The text after a word at its start. -/
def afterWord? : (word cs : List Char) → Option (List Char)
  | [], cs => some cs
  | _ :: _, [] => none
  | a :: word, c :: cs => if a = c then afterWord? word cs else none

def natOfDigits (digits : List Char) : Nat :=
  digits.foldl (fun n d => n * 10 + (d.toNat - 48)) 0

/-- One or more digits at the start of a text, and the text after them. -/
def digits? (cs : List Char) : Option (List Char × List Char) :=
  match cs.takeWhile Char.isDigit with
  | [] => none
  | digits => some (digits, cs.dropWhile Char.isDigit)

def fraction? : List Char → Option (Option (List Char) × List Char)
  | '.' :: rest => (digits? rest).map fun (digits, rest) => (some digits, rest)
  | cs => some (none, cs)

def exponentValue? : List Char → Option (Int × List Char)
  | '+' :: rest => (digits? rest).map fun (digits, rest) => ((natOfDigits digits : Int), rest)
  | '-' :: rest => (digits? rest).map fun (digits, rest) => (-(natOfDigits digits : Int), rest)
  | cs => (digits? cs).map fun (digits, rest) => ((natOfDigits digits : Int), rest)

def exponent? : List Char → Option (Option Int × List Char)
  | 'e' :: rest => (exponentValue? rest).map fun (n, rest) => (some n, rest)
  | 'E' :: rest => (exponentValue? rest).map fun (n, rest) => (some n, rest)
  | cs => some (none, cs)

def unsigned? (limits : Limits) (negative : Bool) (cs : List Char) :
    Option (JsonNumber × List Char) :=
  match afterWord? "Infinity".toList cs with
  | some rest => some (.infinite negative, rest)
  | none => do
    let (whole, rest) ← digits? cs
    if whole.head? = some '0' ∧ whole.length ≠ 1 then
      none
    else
      let (fraction, rest) ← fraction? rest
      let (exponent, rest) ← exponent? rest
      match fraction, exponent with
      | none, none =>
        if limits.digits < whole.length then none
        else
          let n : Int := natOfDigits whole
          some (.int (if negative then -n else n), rest)
      | _, _ =>
        let places := fraction.getD []
        some (.decimal negative (natOfDigits (whole ++ places)) (exponent.getD 0 - places.length), rest)

def number? (limits : Limits) (cs : List Char) : Option (JsonNumber × List Char) :=
  match cs with
  | '-' :: rest => unsigned? limits true rest
  | _ =>
    match afterWord? "NaN".toList cs with
    | some rest => some (.undefined, rest)
    | none => unsigned? limits false cs

/-- Four hexadecimal digits at the start of a text. -/
def unit? : List Char → Option (Nat × List Char)
  | a :: b :: c :: d :: rest => do
    let a ← Text.hexValue? a
    let b ← Text.hexValue? b
    let c ← Text.hexValue? c
    let d ← Text.hexValue? d
    pure (((a * 16 + b) * 16 + c) * 16 + d, rest)
  | _ => none

/-- The character of an escape by code units; a high surrogate needs a low one behind it. -/
def escapedUnit? (cs : List Char) : Option (Char × List Char) := do
  let (unit, rest) ← unit? cs
  if unit < 0xD800 ∨ 0xE000 ≤ unit then
    pure (Char.ofNat unit, rest)
  else if unit < 0xDC00 then
    let rest ← afterWord? ['\\', 'u'] rest
    let (low, rest) ← unit? rest
    if 0xDC00 ≤ low ∧ low < 0xE000 then
      pure (Char.ofNat (0x10000 + (unit - 0xD800) * 0x400 + (low - 0xDC00)), rest)
    else
      none
  else
    none

def escaped? : List Char → Option (Char × List Char)
  | '"' :: rest => some ('"', rest)
  | '\\' :: rest => some ('\\', rest)
  | '/' :: rest => some ('/', rest)
  | 'b' :: rest => some (Char.ofNat 8, rest)
  | 'f' :: rest => some (Char.ofNat 12, rest)
  | 'n' :: rest => some ('\n', rest)
  | 'r' :: rest => some ('\r', rest)
  | 't' :: rest => some ('\t', rest)
  | 'u' :: rest => escapedUnit? rest
  | _ => none

/-- The rest of a string after its opening quote; `read` holds what was read, in reverse. -/
def stringRest? : (fuel : Nat) → (read cs : List Char) → Option (String × List Char)
  | 0, _, _ => none
  | _ + 1, _, [] => none
  | fuel + 1, read, c :: rest =>
    if c = '"' then some (String.ofList read.reverse, rest)
    else if c = '\\' then
      match escaped? rest with
      | some (c, rest) => stringRest? fuel (c :: read) rest
      | none => none
    else if c.toNat < 0x20 then none
    else stringRest? fuel (c :: read) rest

mutual

def value? (limits : Limits) : (fuel depth : Nat) → List Char → Option (Json × List Char)
  | 0, _, _ => none
  | fuel + 1, depth, cs =>
    match cs with
    | '"' :: rest => (stringRest? rest.length [] rest).map fun (s, rest) => (.string s, rest)
    | '[' :: rest =>
      match skipSpace rest with
      | ']' :: rest => some (.array [], rest)
      | rest =>
        if depth = 0 then none
        else (items? limits fuel (depth - 1) rest).map fun (items, rest) => (.array items, rest)
    | '\x7b' :: rest =>
      match skipSpace rest with
      | '\x7d' :: rest => some (.object [], rest)
      | rest =>
        if depth = 0 then none
        else (members? limits fuel (depth - 1) [] rest).map fun (members, rest) =>
          (.object members, rest)
    | _ =>
      match afterWord? "null".toList cs, afterWord? "true".toList cs, afterWord? "false".toList cs with
      | some rest, _, _ => some (.null, rest)
      | _, some rest, _ => some (.bool true, rest)
      | _, _, some rest => some (.bool false, rest)
      | none, none, none => (number? limits cs).map fun (n, rest) => (.number n, rest)

/-- The items of an array up to its closing bracket. -/
def items? (limits : Limits) : (fuel depth : Nat) → List Char → Option (List Json × List Char)
  | 0, _, _ => none
  | fuel + 1, depth, cs =>
    match value? limits fuel depth cs with
    | none => none
    | some (item, rest) =>
      match skipSpace rest with
      | ',' :: rest =>
        (items? limits fuel depth (skipSpace rest)).map fun (items, rest) => (item :: items, rest)
      | ']' :: rest => some ([item], rest)
      | _ => none

/-- The members of an object up to its closing brace, added to the members before them. -/
def members? (limits : Limits) : (fuel depth : Nat) → List (String × Json) → List Char →
    Option (List (String × Json) × List Char)
  | 0, _, _, _ => none
  | fuel + 1, depth, before, cs =>
    match cs with
    | '"' :: rest =>
      match stringRest? rest.length [] rest with
      | none => none
      | some (name, rest) =>
        match skipSpace rest with
        | ':' :: rest =>
          match value? limits fuel depth (skipSpace rest) with
          | none => none
          | some (value, rest) =>
            let members := setMember name value before
            match skipSpace rest with
            | ',' :: rest => members? limits fuel depth members (skipSpace rest)
            | '\x7d' :: rest => some (members, rest)
            | _ => none
        | _ => none
    | _ => none

end

/-- The value of a text that holds one value and nothing else. -/
def read? (limits : Limits) (text : List Char) : Option Json :=
  match value? limits (2 * text.length + 2) limits.depth (skipSpace text) with
  | some (value, rest) => if skipSpace rest = [] then some value else none
  | none => none

end ResourceBundle.Json
