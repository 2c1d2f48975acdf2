import ResourceBundle.Element

/-! # Sinks

A sink takes the bundles. It gives a resource for each of them, names it, and writes its bytes; each of
these steps may be refused with a reason. -/

namespace ResourceBundle

inductive Output where
  | sources
  | classes
deriving DecidableEq, Repr

namespace Output

def text : Output → String
  | sources => "source_output"
  | classes => "class_output"

/-- All outputs, in the order in which they are written. -/
def all : List Output := [sources, classes]

end Output

/-- A sink with state `σ` and resources `ρ`. -/
structure Sink (σ ρ : Type) where
  create : Output → String → List Element → EStateM String σ ρ
  uri : ρ → EStateM String σ String
  write : ρ → List UInt8 → EStateM String σ Unit

end ResourceBundle
