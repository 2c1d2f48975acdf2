import ResourceBundle.Xml.Chars

/-! # Content models

A content model is a regular expression over element names. A sequence of names is matched name by
name through derivatives. A model is ambiguous if at some point two of its occurrences of one name
could come next. -/

namespace ResourceBundle.Xml

/-- A regular expression over symbols. -/
inductive Model (α : Type) where
  | never
  | empty
  | symbol (a : α)
  | sequence (first second : Model α)
  | choice (first second : Model α)
  | star (body : Model α)
deriving DecidableEq, Repr

namespace Model

variable {α : Type}

def optional (body : Model α) : Model α := .choice .empty body

def plus (body : Model α) : Model α := .sequence body (.star body)

/-- Whether the model matches the empty sequence. -/
def nullable : Model α → Bool
  | never => false
  | empty => true
  | symbol _ => false
  | sequence first second => first.nullable && second.nullable
  | choice first second => first.nullable || second.nullable
  | star _ => true

/-- What may follow after one symbol. -/
def derivative [DecidableEq α] (a : α) : Model α → Model α
  | never => .never
  | empty => .never
  | symbol b => if a = b then .empty else .never
  | sequence first second =>
    if first.nullable then .choice (.sequence (first.derivative a) second) (second.derivative a)
    else .sequence (first.derivative a) second
  | choice first second => .choice (first.derivative a) (second.derivative a)
  | star body => .sequence (body.derivative a) (.star body)

/-- The model without parts that match nothing. -/
def simplify : Model α → Model α
  | sequence first second =>
    match first.simplify, second.simplify with
    | never, _ => .never
    | _, never => .never
    | empty, second => second
    | first, second => .sequence first second
  | choice first second =>
    match first.simplify, second.simplify with
    | never, second => second
    | first, never => first
    | first, second => .choice first second
  | other => other

/-- Whether the model matches a sequence. -/
def isMatch [DecidableEq α] (model : Model α) : List α → Bool
  | [] => model.nullable
  | a :: rest => isMatch (model.derivative a).simplify rest

/-- The model with its symbols numbered from `start` on, and the next number. -/
def numbered (start : Nat) : Model α → Model (Nat × α) × Nat
  | never => (.never, start)
  | empty => (.empty, start)
  | symbol a => (.symbol (start, a), start + 1)
  | sequence first second =>
    let (first, next) := first.numbered start
    let (second, next) := second.numbered next
    (.sequence first second, next)
  | choice first second =>
    let (first, next) := first.numbered start
    let (second, next) := second.numbered next
    (.choice first second, next)
  | star body =>
    let (body, next) := body.numbered start
    (.star body, next)

/-- The symbols that a matched sequence may begin with. -/
def firsts : Model α → List α
  | never => []
  | empty => []
  | symbol a => [a]
  | sequence first second => if first.nullable then first.firsts ++ second.firsts else first.firsts
  | choice first second => first.firsts ++ second.firsts
  | star body => body.firsts

/-- The symbols that a matched sequence may end with. -/
def lasts : Model α → List α
  | never => []
  | empty => []
  | symbol a => [a]
  | sequence first second => if second.nullable then second.lasts ++ first.lasts else second.lasts
  | choice first second => first.lasts ++ second.lasts
  | star body => body.lasts

/-- The pairs of symbols that may follow one another. -/
def follows : Model α → List (α × α)
  | never => []
  | empty => []
  | symbol _ => []
  | sequence first second => first.follows ++ second.follows ++ pairs first.lasts second.firsts
  | choice first second => first.follows ++ second.follows
  | star body => body.follows ++ pairs body.lasts body.firsts
where
  /-- All pairs of two lists. -/
  pairs (as bs : List α) : List (α × α) := as.flatMap fun a => bs.map fun b => (a, b)

/-- Whether some of the numbered symbols differ in their number only. -/
def clash [DecidableEq α] (symbols : List (Nat × α)) : Bool :=
  symbols.any fun a => symbols.any fun b => decide (a.2 = b.2) && a.1 != b.1

/-- Whether at some point two occurrences of one symbol could come next. -/
def isAmbiguous [DecidableEq α] (model : Model α) : Bool :=
  let marked := (model.numbered 0).1
  let follows := marked.follows
  clash marked.firsts ||
    follows.any fun (a, _) => clash ((follows.filter fun pair => pair.1.1 == a.1).map (·.2))

end Model

end ResourceBundle.Xml
