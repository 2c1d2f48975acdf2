import ResourceBundle.Xml.Declaration
import ResourceBundle.Text.Digits

/-! # Scanning markup

A scan reads a text from its start. It keeps what is left of the text and gathers tokens, the last one
first; a fault ends it. -/

namespace ResourceBundle.Xml

/-- An attribute of a start tag: the name as written, the name with its namespace, and the value. -/
structure Attribute where
  name : Name
  expanded : Name
  value : List Char
deriving DecidableEq, Repr

/-- What a document is made of, in the order in which it is read. -/
inductive Token where
  /-- A start tag with the line of its end. -/
  | start (name expanded : Name) (attributes namespaces : List Attribute) (line : Nat)
  | stop
  | text (content : List Char)
  | comment
  | instruction
  | report (report : Report)
deriving DecidableEq, Repr

/-- What is left to read, and what was read. -/
structure ScanState where
  rest : List Char
  /-- The tokens so far, the last one first. -/
  tokens : List Token
  /-- Text that is no token yet, the last character first. -/
  pending : List Char
  /-- How much text came from entities. -/
  expanded : Nat
  /-- The system identifiers that were looked up with success. -/
  served : List (List Char)
deriving Repr

abbrev Scan := EStateM Fault ScanState

namespace Scan

def rest : Scan (List Char) := do return (← get).rest

def setRest (cs : List Char) : Scan Unit := modify fun s => { s with rest := cs }

/-- Makes a token of the pending text. -/
def flushed (s : ScanState) : List Token :=
  if s.pending = [] then s.tokens else .text s.pending.reverse :: s.tokens

def emit (token : Token) : Scan Unit :=
  modify fun s => { s with tokens := token :: flushed s, pending := [] }

def addText (cs : List Char) : Scan Unit :=
  modify fun s => { s with pending := cs.reverseAux s.pending }

def report (r : Report) : Scan Unit := emit (.report r)

def reportIf (condition : Bool) (r : Report) : Scan Unit := if condition then report r else pure ()

def serve (systemId : List Char) : Scan Unit :=
  modify fun s => { s with served := s.served ++ [systemId] }

/-- Skips white space and tells whether there was any. -/
def space : Scan Bool := do
  let cs ← rest
  setRest (skipSpace cs)
  return (cs.head?.map isSpace).getD false

/-- Skips white space, of which there must be some. -/
def someSpace (fault : Fault) : Scan Unit := do
  if !(← space) then throw fault

/-- Reads a word if it comes next, and tells whether it did. -/
def accept (word : List Char) : Scan Bool := do
  match after? word (← rest) with
  | some cs =>
    setRest cs
    return true
  | none => return false

/-- Reads a word that must come next. -/
def expect (word : List Char) (fault : Fault) : Scan Unit := do
  if !(← accept word) then throw fault

def name (fault : Fault) : Scan Name := do
  match ← rest with
  | c :: cs =>
    if c = ':' ∨ isNameStart c then
      setRest (cs.dropWhile isNameChar)
      return c :: cs.takeWhile isNameChar
    else
      throw fault
  | [] => throw fault

def token (fault : Fault) : Scan Name := do
  let cs ← rest
  match cs.takeWhile isNameChar with
  | [] => throw fault
  | word =>
    setRest (cs.dropWhile isNameChar)
    return word

/-- Reads a quoted text as it stands. -/
def literal (fault : Fault) : Scan (List Char) := do
  match ← rest with
  | quote :: cs =>
    if quote = '"' ∨ quote = '\'' then
      match cs.span (· ≠ quote) with
      | (value, _ :: cs) =>
        if !value.all isLegal then throw .illegalCharacter
        setRest cs
        return value
      | (_, []) => throw fault
    else
      throw fault
  | [] => throw fault

def splitAt? (word : List Char) : List Char → Option (List Char × List Char)
  | [] => none
  | c :: cs =>
    match after? word (c :: cs) with
    | some rest => some ([], rest)
    | none => (splitAt? word cs).map fun (before, rest) => (c :: before, rest)

/-- Reads the text up to a word, and the word. -/
def upTo (word : List Char) (fault : Fault) : Scan (List Char) := do
  match splitAt? word (← rest) with
  | some (before, cs) =>
    if !before.all isLegal then throw .illegalCharacter
    setRest cs
    return before
  | none => throw fault

def comment : Scan Unit := do
  let _ ← upTo ['-', '-'] .malformedComment
  expect ['>'] .malformedComment
  emit .comment

/-- Reads a processing instruction after its opening. A target that begins with `xml` is reserved. -/
def instruction : Scan Unit := do
  let target ← name .malformedInstruction
  let lowered := target.map Char.toLower
  if lowered = ['x', 'm', 'l'] then throw .reservedTarget
  let known := [['x', 'm', 'l', '-', 's', 't', 'y', 'l', 'e', 's', 'h', 'e', 'e', 't'],
    ['x', 'm', 'l', '-', 'm', 'o', 'd', 'e', 'l']].contains target
  reportIf (lowered.take 3 == ['x', 'm', 'l'] && !known) .unusualTarget
  reportIf (target.contains ':') .colonInName
  if ← accept ['?', '>'] then
    emit .instruction
  else
    someSpace .malformedInstruction
    let _ ← upTo ['?', '>'] .malformedInstruction
    emit .instruction

/-- The number of a sequence of digits in a base. -/
def number? (base : Nat) (digits : List Char) : Option Nat :=
  if digits = [] then none
  else digits.foldl (fun n d => do
    let n ← n
    let v ← Text.hexValue? d
    if v < base then some (min (n * base + v) 0x110000) else none) (some 0)

/-- The character that a number refers to. -/
def referred? (n : Nat) : Option Char :=
  if h : n.isValidChar then
    let c := Char.ofNatAux n h
    if isLegal c ∧ n ≠ 0 then some c else none
  else
    none

/-- Splits a reference by number off, after its ampersand and hash sign. -/
def splitNumber? (cs : List Char) : Option (Char × List Char) :=
  let (base, cs) := match cs with
    | 'x' :: cs => (16, cs)
    | cs => (10, cs)
  match cs.span (· ≠ ';') with
  | (digits, _ :: rest) => do
    let n ← number? base digits
    let c ← referred? n
    pure (c, rest)
  | (_, []) => none

/-- Splits a name with its semicolon off. -/
def splitReference? (cs : List Char) : Option (Name × List Char) :=
  match cs.span isNameChar with
  | (name, ';' :: rest) => if isName name then some (name, rest) else none
  | _ => none

/-- Runs a scan on a text of its own, all of which must be read. -/
def onText {α : Type} (text : List Char) (scan : Scan α) : Scan α := do
  let before ← rest
  setRest text
  let a ← scan
  setRest before
  return a

end Scan

/-- The characters of the five entities that need no declaration. -/
def predefined : List (Name × Char) := [(['l', 't'], '<'), (['g', 't'], '>'), (['a', 'm', 'p'], '&'),
  (['a', 'p', 'o', 's'], '\''), (['q', 'u', 'o', 't'], '"')]

/-- The text with each line end written as one line feed. -/
def normalizeLines : List Char → List Char
  | [] => []
  | '\r' :: '\n' :: rest => '\n' :: normalizeLines rest
  | c :: rest => (if c = '\r' then '\n' else c) :: normalizeLines rest

end ResourceBundle.Xml
