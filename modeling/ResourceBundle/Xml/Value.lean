import ResourceBundle.Xml.Grammar
import ResourceBundle.Xml.Scan

/-! # Expanding references

A reference to an internal entity is replaced by the text of the entity, in which references are
replaced in turn. Where a declaration may exist that was not read, a reference to an undeclared entity
is reported and dropped. Nesting and the amount of expanded text are bounded. -/

namespace ResourceBundle.Xml

/-- What references are expanded with. -/
structure Context where
  grammar : Grammar
  /-- Whether every declaration was read. -/
  isClosed : Bool
  /-- The length of the document. -/
  size : Nat

/-- How deep entities may nest. -/
def entityDepth : Nat := 20

namespace Context

/-- Counts text that came from an entity. Expansion beyond a million characters must not be more than
five times the document. -/
def charge (ctx : Context) (text : List Char) : Scan Unit := do
  modify fun s => { s with expanded := s.expanded + text.length + 20 }
  let total := (← get).expanded
  if 1000000 < total ∧ 5 * ctx.size < total then throw .expandedTooFar

/-- What becomes of a reference to an entity that is not declared. -/
def undeclared (ctx : Context) : Scan Unit :=
  if ctx.isClosed then throw .undeclaredEntity else Scan.report .undeclaredReference

/-- Appends the characters of a value, in reverse, to `read`. White space becomes a space; the text of
an entity is appended by `expand`. -/
def valueLoop (ctx : Context) (expand : (read text : List Char) → Scan (List Char)) :
    (fuel : Nat) → (read cs : List Char) → Scan (List Char)
  | 0, read, _ => return read
  | _ + 1, read, [] => return read
  | fuel + 1, read, '&' :: '#' :: cs =>
    match Scan.splitNumber? cs with
    | some (c, cs) => valueLoop ctx expand fuel (c :: read) cs
    | none => throw .malformedReference
  | fuel + 1, read, '&' :: cs =>
    match Scan.splitReference? cs with
    | none => throw .malformedReference
    | some (name, cs) =>
      match predefined.lookup name with
      | some c => valueLoop ctx expand fuel (c :: read) cs
      | none => do
        match ctx.grammar.entity? name with
        | some (.internal text) =>
          ctx.charge text
          valueLoop ctx expand fuel (← expand read text) cs
        | some _ => throw .externalEntity
        | none =>
          ctx.undeclared
          valueLoop ctx expand fuel read cs
  | fuel + 1, read, c :: cs =>
    if c = '<' then throw .malformedAttribute
    else valueLoop ctx expand fuel ((if isSpace c then ' ' else c) :: read) cs

/-- Appends the characters of a value in which entities nest at most `depth` deep. -/
def valueFrom (ctx : Context) : (depth : Nat) → (read cs : List Char) → Scan (List Char)
  | 0, _, _ => throw .nestedTooDeep
  | depth + 1, read, cs =>
    valueLoop ctx (fun read text => valueFrom ctx depth read text) cs.length read cs

/-- The value of an attribute whose literal is given. -/
def value (ctx : Context) (literal : List Char) : Scan (List Char) := do
  let cs := normalizeLines literal
  return (← valueFrom ctx entityDepth [] cs).reverse

end Context

end ResourceBundle.Xml
