/-! # Tables of code points

A property of characters is kept as a list of closed ranges, a regular mapping as a list of runs.
Both are read from front to back; nothing here depends on their order. -/

namespace ResourceBundle.Text

/-- Closed ranges of code points. -/
abbrev RangeTable := List (Nat × Nat)

def RangeTable.has (table : RangeTable) (c : Char) : Bool :=
  table.any fun range => decide (range.1 ≤ c.toNat) && decide (c.toNat ≤ range.2)

/-- The code points `first`, `first + stride`, … up to `last`, which map to `image`,
`image + stride`, …. -/
structure Run where
  first : Nat
  last : Nat
  stride : Nat
  image : Nat
deriving Repr

def Run.imageOf? (run : Run) (c : Char) : Option Char :=
  if run.first ≤ c.toNat ∧ c.toNat ≤ run.last ∧ (c.toNat - run.first) % run.stride = 0 then
    some (Char.ofNat (run.image + (c.toNat - run.first)))
  else
    none

/-- The image of a character under the first run that holds it. -/
def runImage? (runs : List Run) (c : Char) : Option Char :=
  runs.findSome? (·.imageOf? c)

end ResourceBundle.Text
