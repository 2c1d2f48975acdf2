/-! # Failures

Each constructor is a cause; its wording is given by `message` alone. Processing failures abort a
round and are reported. The remaining ones lie outside the processing of a round: a key that is no
key, a name that is no text use, an unknown home directory, a path that a file system cannot answer for. -/

namespace ResourceBundle

/-- Why an operation came to no result. -/
inductive Failure where
  | emptyMessagePrefix
  | invalidLocale (language : String)
  /-- The part of a field name before its first underscore is no text use. -/
  | unknownUse (name part : String)
  /-- A marker that may occur once occurs several times. -/
  | repeatedMarker (marker : String) (count : Nat)
  | misplacedMessage (element : String)
  /-- A key was inserted before for the same locale. -/
  | duplicateKey (key mark className : String)
  | missingId (element : String)
  | unsupportedKind (quotedKind : String)
  | unreadableTexts (name cause : String)
  /-- A source root holds additional texts that must not be read. -/
  | inaccessibleTexts (path : String)
  /-- A document of additional texts is malformed or invalid. -/
  | rejectedTexts (origin cause : String)
  | blankTextKey (origin : String) (line : Nat)
  | unwrittenBundle (name cause : String)
  | emptyEntryKey
  | notATextUse (quotedName : String)
  | unknownHome
  | nullCharacter
  | forbiddenPath (cause : String)
  | overlongPath (cause : String)
  /-- A link leads back to itself. -/
  | linkLoop (quotedPath : String)
  | deepLinks
deriving DecidableEq, Repr

namespace Failure

def message : Failure → String
  | emptyMessagePrefix => "Message prefix must not be empty"
  | invalidLocale language => "Invalid locale format: '" ++ language ++ "'"
  | unknownUse name part => "Id '" ++ name ++ "' is invalid: '" ++ part ++ "' is not a text use"
  | repeatedMarker marker count =>
    "Only one element may be annotated with @" ++ marker ++ "; found " ++ toString count
  | misplacedMessage element =>
    "Annotation @Message is not allowed on element '" ++ element ++ "'"
  | duplicateKey key mark className =>
    "Key '" ++ key ++ "' is not unique (Annotation: " ++ mark ++ " in class '" ++ className ++ "')\n" ++
      "Check translation locale in case the key is not a real duplicate"
  | missingId element => "Missing id for Element '" ++ element ++ "'"
  | unsupportedKind quotedKind => "Unsupported element kind: " ++ quotedKind
  | unreadableTexts name cause => "Unable to read file '" ++ name ++ "': " ++ cause
  | inaccessibleTexts path => "Unable to read file '" ++ path ++ "' with additional texts"
  | rejectedTexts origin cause => "Unable to parse file '" ++ origin ++ "': " ++ cause
  | blankTextKey origin line =>
    "Unable to parse file '" ++ origin ++ "': line " ++ toString line ++
      ": attribute 'key' must not be empty"
  | unwrittenBundle name cause => "Unable to write resource bundle file '" ++ name ++ "': " ++ cause
  | emptyEntryKey => "TextEntry key must not be empty"
  | notATextUse quotedName => quotedName ++ " is not a valid TextUse"
  | unknownHome => "Could not determine home directory."
  | nullCharacter => "embedded null byte"
  | forbiddenPath cause | overlongPath cause => cause
  | linkLoop quotedPath => "Symlink loop from " ++ quotedPath
  | deepLinks => "maximum recursion depth exceeded"

/-- Whether the failure aborts a round and is reported as such. -/
def isProcessing : Failure → Bool
  | emptyEntryKey | notATextUse _ | unknownHome | nullCharacter | forbiddenPath _ | overlongPath _
  | linkLoop _ | deepLinks => false
  | _ => true

/-- Whether the failure is one of reading or writing a file. -/
def isResource : Failure → Bool
  | unreadableTexts .. | inaccessibleTexts .. | rejectedTexts .. | blankTextKey ..
  | unwrittenBundle .. => true
  | _ => false

end Failure

instance decEqResult {ε α : Type} [DecidableEq ε] [DecidableEq α] : DecidableEq (Except ε α)
  | .ok a, .ok b => decidable_of_iff (a = b) ⟨congrArg _, Except.ok.inj⟩
  | .error a, .error b => decidable_of_iff (a = b) ⟨congrArg _, Except.error.inj⟩
  | .ok _, .error _ => isFalse nofun
  | .error _, .ok _ => isFalse nofun

end ResourceBundle
