import ResourceBundle.Xml.Report

/-! # The XML declaration

A declaration gives the version, and may give the encoding and whether the document stands alone. -/

namespace ResourceBundle.Xml

structure Declaration where
  version : List Char
  encoding : Option Name
  standalone : Option Bool
deriving DecidableEq, Repr

/-- The text after a word at its start. -/
def after? : (word cs : List Char) → Option (List Char)
  | [], cs => some cs
  | _ :: _, [] => none
  | a :: word, c :: cs => if a = c then after? word cs else none

def skipSpace (cs : List Char) : List Char := cs.dropWhile isSpace

namespace Declaration

/-- The quoted value after an equals sign. -/
def quotedValue? (cs : List Char) : Option (List Char × List Char) := do
  let rest ← after? ['='] (skipSpace cs)
  match skipSpace rest with
  | quote :: rest =>
    if quote = '"' ∨ quote = '\'' then
      match rest.span (· ≠ quote) with
      | (value, _ :: rest) => some (value, rest)
      | (_, []) => none
    else
      none
  | [] => none

def isVersion : List Char → Bool
  | d :: '.' :: rest => d.isDigit && rest.all Char.isDigit
  | _ => false

def isEncodingName : List Char → Bool
  | c :: rest => c.isAlpha && rest.all fun c => c.isAlphanum || c == '.' || c == '_' || c == '-'
  | [] => false

/-- What `yes` and `no` stand for. -/
def standalone? (value : List Char) : Option Bool :=
  if value = ['y', 'e', 's'] then some true
  else if value = ['n', 'o'] then some false
  else none

/-- A part of the declaration that may be left out: white space, its name, and its value. -/
def part (word cs : List Char) : Except Fault (Option (List Char) × List Char) :=
  match after? word (skipSpace cs) with
  | none => .ok (none, cs)
  | some rest =>
    if (cs.head?.map isSpace).getD false then
      match quotedValue? rest with
      | some (value, rest) => .ok (some value, rest)
      | none => .error .malformedDeclaration
    else
      .error .malformedDeclaration

/-- The parts after the opening of a declaration, and the text after it. -/
def parts (cs : List Char) : Except Fault (Declaration × List Char) := do
  let (version, rest) ← part ['v', 'e', 'r', 's', 'i', 'o', 'n'] cs
  let (encoding, rest) ← part ['e', 'n', 'c', 'o', 'd', 'i', 'n', 'g'] rest
  let (alone, rest) ← part ['s', 't', 'a', 'n', 'd', 'a', 'l', 'o', 'n', 'e'] rest
  match version, after? ['?', '>'] (skipSpace rest) with
  | some version, some rest =>
    if !isVersion version || !(encoding.map isEncodingName).getD true ||
        (alone.isSome && (alone.bind standalone?).isNone) then
      throw .malformedDeclaration
    else if version.head? = some '1' then
      pure (⟨version, encoding, alone.bind standalone?⟩, rest)
    else
      throw .unsupportedVersion
  | _, _ => throw .malformedDeclaration

/-- The declaration of a document, if it has one, and the text after it. -/
def read (cs : List Char) : Except Fault (Option Declaration × List Char) :=
  match after? ['<', '?', 'x', 'm', 'l'] cs with
  | some (c :: rest) =>
    if isSpace c then (parts (c :: rest)).map fun (declaration, rest) => (some declaration, rest)
    else .ok (none, cs)
  | _ => .ok (none, cs)

end Declaration

end ResourceBundle.Xml
