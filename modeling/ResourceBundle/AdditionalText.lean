import ResourceBundle.AdditionalText.Dtd
import ResourceBundle.Collection
import ResourceBundle.LinkedTree
import ResourceBundle.Xml.Document

/-! # Merging additional texts

A document is checked as a whole before anything is stored. Then its elements are gone through in
order, start and end, and each translation becomes an entry of the store. The place in the document is
part of the state and survives a document that fails. -/

namespace ResourceBundle

namespace AdditionalText

def fileName : String := "AdditionalTexts.xml"

/-- What the characters that are read belong to. -/
inductive Phase where
  | idle | inText | inDescription | inTranslation
deriving DecidableEq, Repr

/-- A text whose end has not been read. -/
structure PendingText where
  key : String
  description : List (List Char)
deriving DecidableEq, Repr

structure PendingTranslation where
  locale : String
  text : List (List Char)
deriving DecidableEq, Repr

/-- The place in a document. -/
structure Reader where
  phase : Phase
  text : Option PendingText
  translation : Option PendingTranslation
  /-- The number of entries that came from the last document. -/
  inserted : Nat
deriving DecidableEq, Repr

namespace Reader

def start : Reader := ⟨.idle, none, none, 0⟩

def reset (reader : Reader) : Reader := { reader with phase := .idle, text := none, translation := none }

/-- Adds a piece of text to what it belongs to. Line breaks vanish; a piece of a description is
trimmed, and left out if nothing remains. -/
def addPiece (reader : Reader) (piece : List Char) : Reader :=
  let folded := Text.fold piece
  match reader.phase, reader.text, reader.translation with
  | .inDescription, some text, _ =>
    let trimmed := Text.trim folded
    if trimmed = [] then reader
    else { reader with text := some { text with description := text.description ++ [trimmed] } }
  | .inTranslation, _, some translation =>
    { reader with translation := some { translation with text := translation.text ++ [folded] } }
  | _, _, _ => reader

def addPieces (reader : Reader) (pieces : List (List Char)) : Reader := pieces.foldl addPiece reader

end Reader

/-- A store together with the place in the document that is merged into it. -/
structure Merging where
  reader : Reader
  store : Store

/-- The pieces of text right inside an element. -/
def piecesOf (children : List Xml.Node) : List (List Char) :=
  children.filterMap fun
    | .text content => some content
    | _ => none

def attribute? (attributes : List (Xml.Name × List Char)) (name : Xml.Name) : Option String :=
  (attributes.lookup name).map String.ofList

def onReader (change : Reader → Reader) : Action Merging Unit :=
  modify fun session => { session with
    state := { session.state with reader := change session.state.reader } }

def enter (tag : Xml.Name) (attributes : List (Xml.Name × List Char)) (pieces : List (List Char)) :
    Action Merging Unit := do
  if tag = textsName then
    onReader Reader.reset
  else if tag = textName then
    onReader fun reader => { reader.reset with
      text := some ⟨(attribute? attributes keyName).getD "", []⟩, phase := .inText }
  else if tag = descriptionName then
    onReader fun reader => Reader.addPieces { reader with
      phase := .inDescription
      text := reader.text.map fun text => { text with description := [] } } pieces
  else if tag = translationName then
    let locale ← Action.ofExcept (Locale.resolve (attribute? attributes languageName))
    onReader fun reader => Reader.addPieces { reader with
      phase := .inTranslation
      translation := some ⟨locale, []⟩ } pieces

def insert (origin : String) (text : PendingText) (translation : PendingTranslation) :
    Action Merging Unit := do
  let entry ← Action.ofExcept (Entry.create text.key false translation.locale
    (String.ofList text.description.flatten) (String.ofList translation.text.flatten) origin)
  Action.zoom Merging.store (fun store merging => { merging with store := store })
    (Store.place translation.locale entry)
  onReader fun reader => { reader with inserted := reader.inserted + 1 }

def leave (origin : String) (tag : Xml.Name) : Action Merging Unit := do
  if tag = textsName ∨ tag = textName then
    onReader Reader.reset
  else if tag = descriptionName then
    onReader fun reader => { reader with phase := .inText }
  else if tag = translationName then
    let reader := (← Action.getState).reader
    match reader.text, reader.translation with
    | some text, some translation => insert origin text translation
    | _, _ => pure ()
    onReader fun reader => { reader with translation := none, phase := .inText }

mutual

def replay (origin : String) : Xml.Node → Action Merging Unit
  | .element tag attributes _ children => do
    enter tag attributes (piecesOf children)
    replayAll origin children
    leave origin tag
  | _ => pure ()

def replayAll (origin : String) : List Xml.Node → Action Merging Unit
  | [] => pure ()
  | node :: rest => do
    replay origin node
    replayAll origin rest

end

/-- Whether an element is a text without a key. -/
def lacksKey (tag : Xml.Name) (attributes : List (Xml.Name × List Char)) : Bool :=
  decide (tag = textName) && ((attributes.lookup keyName).getD []).all Text.isBlank

mutual

def blankKey? : Xml.Node → Option Nat
  | .element tag attributes line children =>
    if lacksKey tag attributes then some line else firstBlankKey? children
  | _ => none

def firstBlankKey? : List Xml.Node → Option Nat
  | [] => none
  | node :: rest =>
    match blankKey? node with
    | some line => some line
    | none => firstBlankKey? rest

end

/-- The document element of a document that is valid and in which all texts have keys. -/
def check {σ : Type} (origin : String) (bytes : List UInt8) : Action σ Xml.Node := do
  let outcome := Xml.Document.read catalog bytes
  outcome.served.forM fun id => Action.record (.grammarServed (String.ofList id))
  match outcome.root with
  | .error refusal => throw (.rejectedTexts origin refusal.message)
  | .ok root =>
    match blankKey? root with
    | some line => throw (.blankTextKey origin line)
    | none => pure root

/-- Merges a document into the store; gives the number of entries that came from it. -/
def parse (origin : String) (bytes : List UInt8) : Action Merging Nat := do
  let root ← check origin bytes
  onReader fun reader => { reader.reset with inserted := 0 }
  replay origin root
  let count := (← Action.getState).reader.inserted
  Action.record (.merged count)
  pure count

def parseFile (files : LinkedTree) (origin : String) (path : Path) : Action Merging Nat :=
  match files.read path with
  | .ok bytes => parse origin bytes
  | .error _ => throw (.unreadableTexts origin ("'" ++ path.text ++ "' cannot be read"))

end AdditionalText

end ResourceBundle
