/-! # Faults of structured input

A fault names what is wrong and where: a path of member names and positions. -/

namespace ResourceBundle

inductive FaultKind where
  | jsonInvalid
  | notAnObject
  | notAList
  | notAString
  | stringTooShort
  | notOfEnumeration
  | missing
  | notAnInt
  | fractionalInt
  | oversizedInt
  | notFinite
  | notABool
  | unreadableBool
  | unknownName
deriving DecidableEq, Repr

def FaultKind.text : FaultKind → String
  | jsonInvalid => "json_invalid"
  | notAnObject => "model_type"
  | notAList => "list_type"
  | notAString => "string_type"
  | stringTooShort => "string_too_short"
  | notOfEnumeration => "enum"
  | missing => "missing"
  | notAnInt => "int_type"
  | fractionalInt => "int_from_float"
  | oversizedInt => "int_parsing_size"
  | notFinite => "finite_number"
  | notABool => "bool_type"
  | unreadableBool => "bool_parsing"
  | unknownName => "extra_forbidden"

/-- One step into a value. -/
inductive Step where
  | member (name : String)
  | item (position : Nat)
deriving DecidableEq, Repr

structure Fault where
  kind : FaultKind
  place : List Step
deriving DecidableEq, Repr

/-- A value, or all the faults that were found. -/
abbrev Checked := Except (List Fault)

namespace Checked

variable {α β γ : Type}

/-- One fault at the place itself. -/
def fault (kind : FaultKind) : Checked α := .error [⟨kind, []⟩]

/-- Faults found one step further in. -/
def under (step : Step) : Checked α → Checked α
  | .ok a => .ok a
  | .error faults => .error (faults.map fun fault => { fault with place := step :: fault.place })

/-- Two values; the faults of both are kept, in order. -/
def both : Checked α → Checked β → Checked (α × β)
  | .ok a, .ok b => .ok (a, b)
  | .ok _, .error faults => .error faults
  | .error faults, .ok _ => .error faults
  | .error faults, .error further => .error (faults ++ further)

/-- The values of a list; the faults of all items are kept, in order. -/
def list : List (Checked α) → Checked (List α)
  | [] => .ok []
  | item :: items => (both item (list items)).map fun (a, as) => a :: as

end Checked

end ResourceBundle
