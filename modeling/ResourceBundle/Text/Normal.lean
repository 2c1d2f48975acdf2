import ResourceBundle.Text.Normal.Composites
import ResourceBundle.Text.Normal.Forms
import ResourceBundle.Text.Normal.Ideographs
import ResourceBundle.Text.Normal.Presentation
import ResourceBundle.Text.Normal.Marks

/-! # Compatibility composition (NFKC)

A text is normalised in three steps: every character is replaced by its full compatibility
decomposition, runs of combining marks are put into the order of their classes, and a starter is
composed with the marks that are not blocked from it. -/

namespace ResourceBundle.Text.Normal

def composites : List (Nat × Nat × Nat) :=
  latinComposites ++ scriptComposites ++ latinAdditional ++ furtherComposites

def forms : List (Nat × List (List Nat)) :=
  latinForms ++ scriptForms ++ symbolForms ++ squareForms ++ ideographForms ++ ligatureForms ++
    presentationForms ++ supplementaryForms ++ supplementaryIdeographs

/-- The replacement of a code point in a list of blocks. -/
def form? (blocks : List (Nat × List (List Nat))) (n : Nat) : Option (List Nat) :=
  blocks.findSome? fun block => if block.1 ≤ n then block.2[n - block.1]? else none

def markClass (c : Char) : Nat :=
  ((markClasses.find? fun entry => decide (entry.1 ≤ c.toNat) && decide (c.toNat ≤ entry.2.1)).map
    (·.2.2)).getD 0

def syllableBase : Nat := 0xAC00

def syllableCount : Nat := 11172

/-- The leading consonant, the vowel and, if there is one, the trailing consonant of a Hangul syllable. -/
def jamo (n : Nat) : List Char :=
  let index := n - syllableBase
  let start := [Char.ofNat (0x1100 + index / 588), Char.ofNat (0x1161 + index % 588 / 28)]
  if index % 28 = 0 then start else start ++ [Char.ofNat (0x11A7 + index % 28)]

/-- The full decomposition of one character; composed characters nest at most `depth` deep. -/
def decomposeChar : (depth : Nat) → Char → List Char
  | 0, c => [c]
  | depth + 1, c =>
    if c.toNat < 128 then [c]
    else if syllableBase ≤ c.toNat ∧ c.toNat < syllableBase + syllableCount then jamo c.toNat
    else
      match composites.find? (·.1 == c.toNat) with
      | some (_, first, second) => decomposeChar depth (Char.ofNat first) ++ [Char.ofNat second]
      | none =>
        match form? forms c.toNat with
        | some cs => cs.map Char.ofNat
        | none => [(runImage? formRuns c).getD c]

/-- Inserts a mark before all marks of its class or a higher one, but not past a starter. -/
def insertMark (mark : Char) : List Char → List Char
  | [] => [mark]
  | c :: rest =>
    if markClass c ≠ 0 ∧ markClass c < markClass mark then c :: insertMark mark rest
    else mark :: c :: rest

/-- Puts runs of marks into the order of their classes; marks of one class keep theirs. -/
def orderMarks : List Char → List Char
  | [] => []
  | c :: rest => if markClass c = 0 then c :: orderMarks rest else insertMark c (orderMarks rest)

/-- The character that two characters compose to. -/
def compose? (a b : Char) : Option Char :=
  let x := a.toNat
  let y := b.toNat
  if 0x1100 ≤ x ∧ x < 0x1113 ∧ 0x1161 ≤ y ∧ y < 0x1176 then
    some (Char.ofNat (syllableBase + ((x - 0x1100) * 21 + (y - 0x1161)) * 28))
  else if syllableBase ≤ x ∧ x < syllableBase + syllableCount ∧ (x - syllableBase) % 28 = 0 ∧
      0x11A7 < y ∧ y < 0x11C3 then
    some (Char.ofNat (x + (y - 0x11A7)))
  else
    (composites.find? fun entry => entry.2.1 == x && entry.2.2 == y).map (Char.ofNat ·.1)

/-- Composes a starter with what follows it. `skipped` holds, in reverse, the marks that did not
compose. -/
def composeFrom (starter : Char) (skipped : List Char) : List Char → List Char
  | [] => starter :: skipped.reverse
  | c :: rest =>
    let blocked := match skipped with
      | [] => false
      | mark :: _ => decide (markClass c ≤ markClass mark)
    match if blocked then none else compose? starter c with
    | some composed => composeFrom composed skipped rest
    | none =>
      if markClass c = 0 then starter :: skipped.reverse ++ composeFrom c [] rest
      else composeFrom starter (c :: skipped) rest

/-- Composes a text from its first starter on. -/
def compose : List Char → List Char
  | [] => []
  | c :: rest => if markClass c = 0 then composeFrom c [] rest else c :: compose rest

end ResourceBundle.Text.Normal

namespace ResourceBundle.Text

def nfkc (cs : List Char) : List Char :=
  Normal.compose (Normal.orderMarks (cs.flatMap (Normal.decomposeChar 4)))

end ResourceBundle.Text
