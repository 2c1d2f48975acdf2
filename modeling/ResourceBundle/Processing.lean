import ResourceBundle.Generation
import ResourceBundle.Lookup
import ResourceBundle.Settings

/-! # Processing a round

The texts of the elements are collected, additional texts are merged, and the bundles are written. A
round that fails is aborted, and its failure is reported once; nothing is written before everything has
been collected and merged. -/

namespace ResourceBundle

/-- What rounds are processed with. -/
structure Processor (σ ρ : Type) where
  settings : Settings
  homes : Homes
  sourceRoots : List Path
  sink : Sink σ ρ

namespace Processing

variable {σ ρ : Type}

/-- The prefix of message keys: that of the first marker, or else of the settings. -/
def messagePrefix (settings : Settings) (round : Round) : String :=
  match round.messagePrefix with
  | marker :: _ => marker.value
  | [] => settings.messagePrefix

/-- The base name of the bundles: that of the first marker, or else of the settings. -/
def baseName (settings : Settings) (round : Round) : String :=
  match round.baseBundleName with
  | marker :: _ => marker.value
  | [] => settings.baseBundleName

/-- The default language: that of the first marker of the base name, unless it is empty, or else of the
settings. -/
def defaultLanguage (settings : Settings) (round : Round) : String :=
  match round.baseBundleName with
  | marker :: _ =>
    match marker.defaultLanguage with
    | some language => if language = "" then settings.defaultLanguage else language
    | none => settings.defaultLanguage
  | [] => settings.defaultLanguage

def configure (settings : Settings) (round : Round) : Except Failure Configuration := do
  let keyPrefix := messagePrefix settings round
  Collection.checkPrefix keyPrefix
  let locale ← Locale.resolve (some (defaultLanguage settings round))
  pure ⟨keyPrefix, baseName settings round, locale⟩

def announcement (names : List String) : String :=
  match names with
  | [] => "No annotations to process"
  | [name] => "Processing the annotation '" ++ name ++ "'"
  | names => "Processing the annotations '" ++ "', '".intercalate names ++ "'"

def isDue (round : Round) : Bool := !round.errorRaised && !round.markNames.isEmpty

def collect (messagePrefix : String) (elements : List Element) : Action σ Store := do
  let (_, store) ← Action.within Store.empty (Collection.collectAll messagePrefix elements)
  Action.record (.collected store.size elements.length)
  pure store

/-- The folder for additional texts that a round names; there is at most one marker. -/
def providedFolder (round : Round) : Except Failure (Option String) :=
  match round.useAdditionalTexts with
  | [] => .ok none
  | [marker] => .ok (if Text.isBlankText marker.location then none else some marker.location)
  | markers => .error (.repeatedMarker "UseAdditionalTexts" markers.length)

/-- The report of a failure in additional texts; one that does not name the file itself has the name in
front. -/
def mergeReport (failure : Failure) : Diagnostic :=
  .error (if failure.isResource then failure.message
    else AdditionalText.fileName ++ ": " ++ failure.message)

def merge (files : LinkedTree) (path : Path) (store : Store) : Action σ Store :=
  match files.read path with
  | .error fault => Action.fail (.unreadableTexts AdditionalText.fileName fault.message) .nothing
  | .ok bytes => do
    let (_, merging) ← tryCatch
      (Action.within ⟨.start, store⟩ (AdditionalText.parse AdditionalText.fileName bytes))
      fun failure => do
        if failure.isProcessing then Action.report (mergeReport failure)
        throw failure
    pure merging.store

def mergeFound (files : LinkedTree) (store : Store) : Option Path → Action σ Store
  | none => pure store
  | some path => merge files path store

/-- Processes a round; tells whether there was something to do. -/
def process (processor : Processor σ ρ) (files : LinkedTree) (round : Round) : Action σ Bool := do
  Action.note (announcement round.markNames)
  if isDue round then
    let configuration ← Action.reporting .nothing
      (Action.ofExcept (configure processor.settings round))
    let elements := round.markedElements
    let store ← collect configuration.messagePrefix elements
    let provided ← Action.reporting .nothing (Action.ofExcept (providedFolder round))
    Action.note "Generate ResourceBundles"
    let found ← Lookup.locate files
      ⟨processor.homes, processor.settings.additionalTextLocation, processor.sourceRoots⟩ provided
    let store ← mergeFound files store found
    let _ ← Generation.generate configuration processor.sink Output.all store elements
    pure true
  else
    pure false

end Processing

end ResourceBundle
