import ResourceBundle.Sink

/-! # A sink in memory

It keeps what is written in order, and refuses what it is told to refuse. -/

namespace ResourceBundle.Memory

inductive Stage where
  | create | write
deriving DecidableEq, Repr

structure Refusal where
  stage : Stage
  output : Output
  path : String
  reason : String
deriving DecidableEq, Repr

structure Resource where
  output : Output
  path : String
deriving DecidableEq, Repr

/-- What a sink was given so far. -/
structure Written where
  files : List (Resource × List UInt8)
  /-- For each resource that was asked for, the elements on whose behalf it was. -/
  origins : List (List Element)
deriving DecidableEq, Repr

def Written.empty : Written := ⟨[], []⟩

/-- Refuses a step if that was demanded. -/
def check (refusals : List Refusal) (stage : Stage) (output : Output) (path : String) :
    EStateM String Written Unit :=
  match refusals.find? fun r => decide (r.stage = stage ∧ r.output = output ∧ r.path = path) with
  | some refusal => throw refusal.reason
  | none => pure ()

/-- A sink with some refusals. -/
def sink (refusals : List Refusal) : Sink Written Resource where
  create output path elements := do
    modify fun written => { written with origins := written.origins ++ [elements] }
    check refusals .create output path
    pure ⟨output, path⟩
  uri resource := pure ("memory://" ++ resource.output.text ++ "/" ++ resource.path)
  write resource bytes := do
    check refusals .write resource.output resource.path
    modify fun written => { written with files := written.files ++ [(resource, bytes)] }

end ResourceBundle.Memory
