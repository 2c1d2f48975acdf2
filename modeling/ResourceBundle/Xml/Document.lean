import ResourceBundle.Xml.Content
import ResourceBundle.Xml.Encoding
import ResourceBundle.Xml.Tree
import ResourceBundle.Xml.Validity

/-! # Documents

A document is decoded, read into tokens, and checked against the grammar that its document type
declares. Its tree is given if no fault occurs and the last report is no error. -/

namespace ResourceBundle.Xml

inductive Refusal where
  | fault (fault : Fault)
  | report (report : Report)
deriving DecidableEq, Repr

def Refusal.message : Refusal → String
  | fault f => f.message
  | report r => r.message

namespace Document

/-- Comments, processing instructions and white space outside the document element. -/
def misc : (fuel : Nat) → Scan Unit
  | 0 => pure ()
  | fuel + 1 => do
    let _ ← Scan.space
    if ← Scan.accept ['<', '!', '-', '-'] then
      Scan.comment
      misc fuel
    else if ← Scan.accept ['<', '?'] then
      Scan.instruction
      misc fuel
    else
      pure ()

/-- Reads a document after its declaration; gives its document type, if it has one. -/
def scan (catalog : Catalog) (standalone : Bool) (lineFeeds size : Nat) : Scan (Option Doctype) := do
  let fuel := size + 1
  misc fuel
  let doctype ←
    if ← Scan.accept ['<', '!', 'D', 'O', 'C', 'T', 'Y', 'P', 'E'] then
      let doctype ← Doctype.read ⟨catalog, standalone, false, size⟩
      if !doctype.isBare && !doctype.grammar.isSound then throw .unsoundDeclarations
      misc fuel
      pure (some doctype)
    else
      pure none
  Scan.expect ['<'] .emptyDocument
  let context : Context := match doctype with
    | some d => ⟨d.grammar, standalone || !d.isOpen, size⟩
    | none => ⟨.empty, true, size⟩
  Source.root ⟨context, lineFeeds⟩
  misc fuel
  if (← Scan.rest) != [] then throw .contentOutsideRoot
  return doctype

def reports (doctype : Option Doctype) (standalone : Bool) (tokens : List Token) : List Report :=
  match doctype with
  | some d =>
    if d.isBare then reportsWithoutGrammar tokens
    else Rules.reports ⟨d.root, d.grammar, standalone⟩ tokens
  | none => reportsWithoutGrammar tokens

/-- What comes of reading a document: the system identifiers that were looked up with success, and the
document element. -/
structure Outcome where
  served : List (List Char)
  root : Except Refusal Node

/-- Reads the text of a document; `complete` tells whether all bytes were decoded. -/
def ofText (catalog : Catalog) (text : List Char) (complete : Bool) : Outcome :=
  match Declaration.read text with
  | .error fault => ⟨[], .error (.fault fault)⟩
  | .ok (declaration, rest) =>
    let standalone := ((declaration.bind (·.standalone))).getD false
    match (scan catalog standalone (text.count '\n') text.length).run ⟨rest, [], [], 0, []⟩ with
    | .error fault s => ⟨s.served, .error (.fault fault)⟩
    | .ok doctype s =>
      ⟨s.served,
        if !complete then .error (.fault .invalidBytes)
        else
          let tokens := (Scan.flushed s).reverse
          match refusal? (reports doctype standalone tokens) with
          | some report => .error (.report report)
          | none =>
            match Node.ofTokens? tokens with
            | some node => .ok node
            | none => .error (.fault .unfinishedElement)⟩

def read (catalog : Catalog) (bytes : List UInt8) : Outcome :=
  if bytes = [] then ⟨[], .error (.fault .emptyDocument)⟩
  else
    match Encoding.readText bytes with
    | .error fault => ⟨[], .error (.fault fault)⟩
    | .ok (text, complete) => ofText catalog text complete

end Document

end ResourceBundle.Xml
