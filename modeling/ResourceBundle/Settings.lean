import ResourceBundle.Json
import ResourceBundle.Manifest.Reader
import ResourceBundle.Settings.EnvFile
import ResourceBundle.Text.Case
import ResourceBundle.Text.Utf8

/-! # Settings

Each setting has a name of its own and one in the environment. Settings are given as named values, or
taken from the environment and from a file of environment variables, in this order. The name in the
environment goes before the other one. -/

namespace ResourceBundle

structure Settings where
  messagePrefix : String
  baseBundleName : String
  defaultLanguage : String
  additionalTextLocation : Option String
  sourceOutput : String
  classOutput : String
  logLevel : String
deriving DecidableEq, Repr

namespace Settings

/-- The settings if nothing is configured. -/
def default : Settings :=
  ⟨"MSG", "TextsAndMessages", "en", none, "build/generated-sources", "build/classes", "INFO"⟩

inductive Field where
  | messagePrefix
  | baseBundleName
  | defaultLanguage
  | additionalTextLocation
  | sourceOutput
  | classOutput
  | logLevel
deriving DecidableEq, Repr

namespace Field

def all : List Field := [messagePrefix, baseBundleName, defaultLanguage, additionalTextLocation,
  sourceOutput, classOutput, logLevel]

def name : Field → String
  | messagePrefix => "message_prefix"
  | baseBundleName => "base_bundle_name"
  | defaultLanguage => "default_language"
  | additionalTextLocation => "additional_text_location"
  | sourceOutput => "source_output_dir"
  | classOutput => "class_output_dir"
  | logLevel => "log_level"

def outerName : Field → String
  | messagePrefix => "I18N_MESSAGE_PREFIX"
  | baseBundleName => "I18N_BASE_BUNDLE_NAME"
  | defaultLanguage => "I18N_DEFAULT_LANGUAGE"
  | additionalTextLocation => "I18N_ADDITIONAL_TEXT_LOCATION"
  | sourceOutput => "I18N_SOURCE_OUTPUT"
  | classOutput => "I18N_CLASS_OUTPUT"
  | logLevel => "LOG_LEVEL"

/-- Whether a setting goes by the given name. -/
def answersTo (field : Field) (given : String) : Bool :=
  given == field.outerName || given == field.name

/-- The value that is given for a setting, with the name under which it is. -/
def given? {α : Type} (field : Field) (values : List (String × α)) : Option (String × α) :=
  match values.lookup field.outerName with
  | some value => some (field.outerName, value)
  | none => (values.lookup field.name).map fun value => (field.name, value)

def read (field : Field) (value : Json) : Checked (Option String) :=
  match field with
  | additionalTextLocation => Manifest.nullable Manifest.string value
  | _ => (Manifest.string value).map some

end Field

/-- Changes one setting; only the location of additional texts may be absent. -/
def set (settings : Settings) : Field → Option String → Settings
  | .messagePrefix, value => { settings with messagePrefix := value.getD settings.messagePrefix }
  | .baseBundleName, value => { settings with baseBundleName := value.getD settings.baseBundleName }
  | .defaultLanguage, value => { settings with defaultLanguage := value.getD settings.defaultLanguage }
  | .additionalTextLocation, value => { settings with additionalTextLocation := value }
  | .sourceOutput, value => { settings with sourceOutput := value.getD settings.sourceOutput }
  | .classOutput, value => { settings with classOutput := value.getD settings.classOutput }
  | .logLevel, value => { settings with logLevel := value.getD settings.logLevel }

/-- Reads the given settings in order; those that are not given keep their default. -/
def readFields (values : List (String × Json)) : List Field → Checked (List (Field × Option String))
  | [] => .ok []
  | field :: rest =>
    match field.given? values with
    | none => readFields values rest
    | some (place, value) =>
      (Checked.both ((field.read value).under (.member place)) (readFields values rest)).map
        fun (text, texts) => (field, text) :: texts

/-- A fault for each name that belongs to no setting. -/
def unknownNames {α : Type} (values : List (String × α)) : Checked Unit :=
  match values.filter fun value => !Field.all.any (·.answersTo value.1) with
  | [] => .ok ()
  | unknown => .error (unknown.map fun value => ⟨.unknownName, [.member value.1]⟩)

def setAll (settings : Settings) (changes : List (Field × Option String)) : Settings :=
  changes.foldl (fun settings change => settings.set change.1 change.2) settings

/-- The settings that named values give. -/
def ofValues (values : List (String × Json)) : Checked Settings :=
  (Checked.both (readFields values Field.all) (unknownNames values)).map fun (changes, _) =>
    default.setAll changes

/-- Names in lower case; of two that become equal the later one counts. -/
def foldNames {α : Type} (values : List (String × α)) : List (String × α) :=
  values.foldl (fun known (name, value) =>
    let folded := Text.lowerString name
    if known.any (·.1 == folded) then
      known.map fun entry => if entry.1 == folded then (folded, value) else entry
    else known ++ [(folded, value)]) []

def Field.valueIn? (field : Field) (values : List (String × String)) : Option String :=
  match values.lookup (Text.lowerString field.outerName) with
  | some value => some value
  | none => values.lookup field.name

/-- A fault for each variable of a file that has a value and belongs to no setting. -/
def unknownVariables (values : List (String × String)) : Checked Unit :=
  match values.filter fun entry => !(entry.2 == "") &&
      !Field.all.any fun field =>
        entry.1 == Text.lowerString field.outerName || entry.1 == field.name with
  | [] => .ok ()
  | unknown => .error (unknown.map fun entry => ⟨.unknownName, [.member entry.1]⟩)

/-- The settings that the environment and the text of a file of variables give. -/
def ofEnvironment (environment : List (String × String)) (file : List Char) : Checked Settings :=
  let outer := foldNames environment
  let inner := (foldNames (EnvFile.assignments environment file)).filterMap fun (name, value) =>
    value.map fun text => (name, text)
  let changes := Field.all.filterMap fun field =>
    match field.valueIn? outer with
    | some text => some (field, some text)
    | none => (field.valueIn? inner).map fun text => (field, some text)
  (unknownVariables inner).map fun _ => default.setAll changes

end Settings

end ResourceBundle
