/-! # JSON values

Numbers are kept as they were written: a number without a fraction and an exponent is an integer, any
other one a decimal. Besides the numbers of the standard there are infinities and a value that is not
a number. -/

namespace ResourceBundle

inductive JsonNumber where
  | int (n : Int)
  /-- `mantissa * 10 ^ exponent`, with a sign. -/
  | decimal (negative : Bool) (mantissa : Nat) (exponent : Int)
  | infinite (negative : Bool)
  | undefined
deriving DecidableEq, Repr

/-- A JSON value; the members of an object keep their order. -/
inductive Json where
  | null
  | bool (b : Bool)
  | number (n : JsonNumber)
  | string (s : String)
  | array (items : List Json)
  | object (members : List (String × Json))
deriving Repr

namespace Json

def int (n : Int) : Json := .number (.int n)

def member? (members : List (String × Json)) (name : String) : Option Json := members.lookup name

/-- Gives a member a value; a member that is there keeps its place. -/
def setMember (name : String) (value : Json) : List (String × Json) → List (String × Json)
  | [] => [(name, value)]
  | (other, old) :: rest =>
    if other = name then (name, value) :: rest else (other, old) :: setMember name value rest

end Json

end ResourceBundle
