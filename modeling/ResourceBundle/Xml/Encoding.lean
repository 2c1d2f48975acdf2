import ResourceBundle.Text.Utf8
import ResourceBundle.Xml.Charset
import ResourceBundle.Xml.Declaration

/-! # From bytes to characters

A byte order mark, or the pattern of the first characters, decides for UTF-8 or UTF-16. Otherwise the
encoding is the declared one, and UTF-8 if none is declared. What comes before the first byte that
does not fit is kept. -/

namespace ResourceBundle.Xml

inductive Encoding where
  | utf8
  | utf16 (bigEndian : Bool)
  | ascii
  | latin1
  | windows
  /-- The characters of the bytes from 0xA0 on. -/
  | table (high : List Nat)

namespace Encoding

def ofPart? (number : String) : Option Encoding :=
  [("1", latin1), ("2", .table Charset.latin2), ("3", .table Charset.latin3),
    ("4", .table Charset.latin4), ("5", .table Charset.cyrillic), ("6", .table Charset.arabic),
    ("7", .table Charset.greek), ("8", .table Charset.hebrew), ("9", .table Charset.latin5),
    ("10", .table Charset.latin6), ("11", .table Charset.thai), ("13", .table Charset.latin7),
    ("14", .table Charset.latin8), ("15", .table Charset.latin9),
    ("16", .table Charset.latin10)].lookup number

/-- Further names of the parts of ISO 8859. -/
def partNames : List (String × String) := [
  ("LATIN1", "1"), ("L1", "1"), ("ISO-LATIN-1", "1"), ("ISO-IR-100", "1"), ("CP819", "1"),
  ("IBM819", "1"), ("CSISOLATIN1", "1"), ("LATIN2", "2"), ("L2", "2"), ("ISO-LATIN-2", "2"),
  ("ISO-IR-101", "2"), ("CSISOLATIN2", "2"), ("LATIN3", "3"), ("L3", "3"), ("ISO-IR-109", "3"),
  ("CSISOLATIN3", "3"), ("LATIN4", "4"), ("L4", "4"), ("ISO-IR-110", "4"), ("CSISOLATIN4", "4"),
  ("CYRILLIC", "5"), ("ISO-IR-144", "5"), ("CSISOLATINCYRILLIC", "5"), ("ARABIC", "6"),
  ("ISO-IR-127", "6"), ("ECMA-114", "6"), ("ASMO-708", "6"), ("CSISOLATINARABIC", "6"),
  ("GREEK", "7"), ("GREEK8", "7"), ("ISO-IR-126", "7"), ("ECMA-118", "7"), ("ELOT_928", "7"),
  ("CSISOLATINGREEK", "7"), ("HEBREW", "8"), ("ISO-IR-138", "8"), ("CSISOLATINHEBREW", "8"),
  ("LATIN5", "9"), ("L5", "9"), ("ISO-IR-148", "9"), ("CSISOLATIN5", "9"), ("LATIN6", "10"),
  ("L6", "10"), ("ISO-IR-157", "10"), ("CSISOLATIN6", "10"), ("LATIN7", "13"), ("L7", "13"),
  ("ISO-IR-179", "13"), ("LATIN8", "14"), ("L8", "14"), ("ISO-IR-199", "14"), ("ISO-CELTIC", "14"),
  ("LATIN-9", "15"), ("ISO-IR-203", "15"), ("LATIN10", "16"), ("L10", "16"), ("ISO-IR-226", "16")]

def names : List (String × Encoding) := [
  ("UTF-8", utf8), ("UTF8", utf8), ("US-ASCII", ascii), ("ASCII", ascii), ("ISO646-US", ascii),
  ("ISO-IR-6", ascii), ("ANSI_X3.4-1968", ascii), ("ANSI_X3.4-1986", ascii), ("CP367", ascii),
  ("IBM367", ascii), ("US", ascii), ("CSASCII", ascii), ("WINDOWS-1252", windows),
  ("CP1252", windows), ("MS-ANSI", windows)]

/-- The ways in which the name of a part of ISO 8859 begins. -/
def partStarts : List (List Char) := ["ISO-8859-".toList, "ISO_8859-".toList, "ISO8859-".toList]

/-- The encoding of a declared name; the case of its letters does not matter. -/
def ofName? (name : Name) : Option Encoding :=
  let upper := name.map Char.toUpper
  let text := String.ofList upper
  match names.lookup text with
  | some encoding => some encoding
  | none =>
    match partStarts.findSome? fun start => after? start upper with
    | some number => ofPart? (String.ofList number)
    | none => (partNames.lookup text).bind ofPart?

/-- The encoding that the first bytes show, and the number of bytes of the byte order mark. -/
def detect? : List UInt8 → Option (Encoding × Nat)
  | 0xEF :: 0xBB :: 0xBF :: _ => some (.utf8, 3)
  | 0xFF :: 0xFE :: _ => some (.utf16 false, 2)
  | 0xFE :: 0xFF :: _ => some (.utf16 true, 2)
  | 0x3C :: 0x00 :: 0x3F :: 0x00 :: _ => some (.utf16 false, 0)
  | 0x00 :: 0x3C :: 0x00 :: 0x3F :: _ => some (.utf16 true, 0)
  | _ => none

/-- The 16-bit units of a byte sequence, and whether no byte is left over. -/
def units (bigEndian : Bool) : List UInt8 → List Nat × Bool
  | a :: b :: rest =>
    let (us, complete) := units bigEndian rest
    ((if bigEndian then a.toNat * 256 + b.toNat else b.toNat * 256 + a.toNat) :: us, complete)
  | [] => ([], true)
  | [_] => ([], false)

/-- The characters of 16-bit units before the first surrogate that stands alone. -/
def ofUnits : List Nat → List Char × Bool
  | [] => ([], true)
  | u :: rest =>
    if u < 0xD800 ∨ 0xE000 ≤ u then
      let (cs, complete) := ofUnits rest
      (Char.ofNat u :: cs, complete)
    else
      match rest with
      | low :: rest =>
        if u < 0xDC00 ∧ 0xDC00 ≤ low ∧ low < 0xE000 then
          let (cs, complete) := ofUnits rest
          (Char.ofNat (0x10000 + (u - 0xD800) * 0x400 + (low - 0xDC00)) :: cs, complete)
        else
          ([], false)
      | [] => ([], false)

def ofByte? : Encoding → UInt8 → Option Char
  | .ascii, b => if b.toNat < 0x80 then some (Char.ofNat b.toNat) else none
  | .windows, b =>
    if 0x80 ≤ b.toNat ∧ b.toNat < 0xA0 then
      (Charset.windowsControls[b.toNat - 0x80]?).map Char.ofNat
    else
      some (Char.ofNat b.toNat)
  | .table high, b =>
    if b.toNat < 0xA0 then some (Char.ofNat b.toNat)
    else match high[b.toNat - 0xA0]? with
      | some 0 => none
      | some n => some (Char.ofNat n)
      | none => none
  | _, b => some (Char.ofNat b.toNat)

/-- The characters of single bytes before the first one that is not assigned. -/
def ofBytes (encoding : Encoding) : List UInt8 → List Char × Bool
  | [] => ([], true)
  | b :: rest =>
    match encoding.ofByte? b with
    | some c =>
      let (cs, complete) := ofBytes encoding rest
      (c :: cs, complete)
    | none => ([], false)

/-- The characters before the first byte that does not fit, and whether there is none. -/
def decode (encoding : Encoding) (bytes : List UInt8) : List Char × Bool :=
  match encoding with
  | .utf8 => Text.Utf8.decodeStart bytes
  | .utf16 bigEndian =>
    let (us, even) := units bigEndian bytes
    let (cs, complete) := ofUnits us
    (cs, even && complete)
  | _ => encoding.ofBytes bytes

/-- The encoding that a document without a byte order mark declares. -/
def declared (bytes : List UInt8) : Except Fault Encoding := do
  let (declaration, _) ← Declaration.read (bytes.map fun b => Char.ofNat b.toNat)
  match declaration.bind (·.encoding) with
  | none => pure .utf8
  | some name =>
    match ofName? name with
    | some encoding => pure encoding
    | none => throw .unknownEncoding

/-- The text of a document, and whether all its bytes fit the encoding. -/
def readText (bytes : List UInt8) : Except Fault (List Char × Bool) :=
  match detect? bytes with
  | some (encoding, mark) => .ok (encoding.decode (bytes.drop mark))
  | none => (declared bytes).map fun encoding => encoding.decode bytes

end Encoding

end ResourceBundle.Xml
