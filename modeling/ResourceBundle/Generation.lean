import ResourceBundle.Bundle
import ResourceBundle.Session
import ResourceBundle.Sink
import ResourceBundle.Store

/-! # Generating bundles

For each locale, in order, one bundle is written to each output. The first refusal is reported and
ends the generation. -/

namespace ResourceBundle

structure Configuration where
  messagePrefix : String
  baseName : String
  defaultLocale : String
deriving DecidableEq, Repr

def Configuration.default : Configuration := ⟨"MSG", "TextsAndMessages", "en"⟩

namespace Generation

variable {σ ρ : Type}

/-- A step of the sink; a refusal is reported with the name of the bundle. -/
def step {α : Type} (name : String) (action : EStateM String σ α) : Action σ α := do
  let session ← get
  match action.run session.state with
  | .ok a state =>
    Action.setState state
    pure a
  | .error reason state =>
    Action.setState state
    Action.fail (.unwrittenBundle name reason) .nothing

/-- Writes one bundle; gives its URI. -/
def write (sink : Sink σ ρ) (output : Output) (path : String) (bytes : List UInt8)
    (elements : List Element) : Action σ String := do
  let resource ← step path (sink.create output path elements)
  let uri ← step path (sink.uri resource)
  Action.note ("Creating Resource File: " ++ uri)
  step uri (sink.write resource bytes)
  pure uri

structure Task where
  output : Output
  path : String
  bytes : List UInt8
deriving DecidableEq, Repr

/-- The bundles of a store, in the order in which they are written. -/
def tasks (configuration : Configuration) (outputs : List Output) (store : Store) : List Task :=
  store.locales.flatMap fun locale =>
    let path := Bundle.path configuration.baseName locale configuration.defaultLocale
    let bytes := Bundle.payload (store.entriesFor locale)
    outputs.map fun output => ⟨output, path, bytes⟩

def writeAll (sink : Sink σ ρ) (elements : List Element) : List Task → Action σ (List String)
  | [] => pure []
  | task :: rest => do
    let uri ← write sink task.output task.path task.bytes elements
    let uris ← writeAll sink elements rest
    pure (uri :: uris)

def generate (configuration : Configuration) (sink : Sink σ ρ) (outputs : List Output)
    (store : Store) (elements : List Element) : Action σ (List String) :=
  writeAll sink elements (tasks configuration outputs store)

end Generation

end ResourceBundle
