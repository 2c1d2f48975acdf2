import ResourceBundle.Locale
import ResourceBundle.Session
import ResourceBundle.Store

/-! # Collecting the texts of elements

Every translation of a message or of a text becomes one entry of the store. The first failure is
reported with its element and ends the collection; the entries before it stay. -/

namespace ResourceBundle

/-- Inserts an entry for a locale and records that. -/
def Store.place (locale : String) (entry : Entry) : Action Store Unit := do
  let store ← Action.ofExcept ((← Action.getState).insert locale entry)
  Action.setState store
  Action.record (.stored entry.key locale)

namespace Collection

def addTranslations (element : Element) (key description : String) (isMessage : Bool) :
    List Translation → Action Store Unit
  | [] => pure ()
  | translation :: rest => do
    Action.reporting (.element element) do
      let locale ← Action.ofExcept (Locale.resolve (some translation.language))
      let entry ← Action.ofExcept
        (Entry.create key isMessage locale description translation.text element.enclosingType)
      Store.place locale entry
    addTranslations element key description isMessage rest

def addText (element : Element) (note : TextNote) : Action Store Unit := do
  let key ← Action.reporting (.element element)
    (Action.ofExcept (Key.derive element.kind element.name note.id note.use))
  addTranslations element (Key.ofText element.enclosingType key.use key.id) note.description false
    note.translations

def addTexts (element : Element) : List TextNote → Action Store Unit
  | [] => pure ()
  | note :: rest => do
    addText element note
    addTexts element rest

def addMessage (messagePrefix : String) (element : Element) : Action Store Unit :=
  match element.message with
  | none => pure ()
  | some note =>
    addTranslations element (Key.ofMessage messagePrefix element.messageId) note.description true
      note.translations

/-- Adds the entries of an element: those of its message, then those of its texts. A method must not
carry a message, and an element of an unknown kind is refused without a report. -/
def collect (messagePrefix : String) (element : Element) : Action Store Unit :=
  match element.kind with
  | .field | .enumConstant => do
    addMessage messagePrefix element
    addTexts element element.texts
  | .method =>
    if element.message.isSome then
      Action.fail (.misplacedMessage element.name) (.element element)
    else
      addTexts element element.texts
  | .other name => throw (.unsupportedKind (Text.quoted name))

def collectAll (messagePrefix : String) : List Element → Action Store Unit
  | [] => pure ()
  | element :: rest => do
    collect messagePrefix element
    collectAll messagePrefix rest

def checkPrefix (messagePrefix : String) : Except Failure Unit :=
  if messagePrefix = "" then .error .emptyMessagePrefix else .ok ()

end Collection

end ResourceBundle
