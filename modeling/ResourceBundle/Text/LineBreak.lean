/-! # Line breaks and separators

A text is broken at line feed, vertical tab, form feed, carriage return, at the separators U+001C to
U+001E, at NEXT LINE and at the line and paragraph separators; a carriage return with a line feed is
one break. Folding a text deletes its breaks and joins the lines. -/

namespace ResourceBundle.Text

def isLineBreak (c : Char) : Bool :=
  (decide (0x0A ≤ c.toNat) && decide (c.toNat ≤ 0x0D)) ||
    (decide (0x1C ≤ c.toNat) && decide (c.toNat ≤ 0x1E)) ||
    c.toNat == 0x85 || c.toNat == 0x2028 || c.toNat == 0x2029

/-- The lines of a text; a break at the end opens no further line. -/
def lines : List Char → List (List Char)
  | [] => []
  | '\r' :: '\n' :: rest => [] :: lines rest
  | c :: rest =>
    if isLineBreak c then
      [] :: lines rest
    else
      match lines rest with
      | [] => [[c]]
      | line :: further => (c :: line) :: further

/-- The text with its lines joined and all breaks gone. -/
def fold (cs : List Char) : List Char := (lines cs).flatten

/-- Folding deletes the characters at which lines end, and nothing else. -/
theorem fold_eq_filter (cs : List Char) : fold cs = cs.filter fun c => !isLineBreak c := by
  unfold fold
  fun_induction lines cs with
  | case1 => rfl
  | case2 rest ih => simp [ih, isLineBreak]
  | case3 c rest _ h ih => simp [ih, h]
  | case4 c rest _ h hlines ih => simp_all
  | case5 c rest _ h line further hlines ih => simp_all

/-- The pieces between the separators; there is always one more piece than separators. -/
def pieces (separator : Char) : List Char → List (List Char)
  | [] => [[]]
  | c :: rest =>
    if c = separator then
      [] :: pieces separator rest
    else
      match pieces separator rest with
      | [] => [[c]]
      | piece :: further => (c :: piece) :: further

theorem pieces_ne_nil (separator : Char) (cs : List Char) : pieces separator cs ≠ [] := by
  fun_cases pieces separator cs <;> simp

theorem not_mem_of_mem_pieces {separator : Char} {cs piece : List Char}
    (h : piece ∈ pieces separator cs) : separator ∉ piece := by
  fun_induction pieces separator cs generalizing piece with
  | case1 => simp_all
  | case2 rest ih => grind
  | case3 c rest hc hnil ih => exact absurd hnil (pieces_ne_nil separator rest)
  | case4 c rest hc first further hpieces ih => grind

theorem pieces_eq_singleton {separator : Char} {cs : List Char} (h : separator ∉ cs) :
    pieces separator cs = [cs] := by
  induction cs with
  | nil => rfl
  | cons c cs ih =>
    obtain ⟨hc, hcs⟩ := not_or.mp (mt List.mem_cons.mpr h)
    rw [pieces, if_neg (Ne.symm hc), ih hcs]

/-- The last piece of the first text and the first piece of the second one are one piece together. -/
theorem pieces_append (separator : Char) (cs ds : List Char) :
    ∃ before last first after, pieces separator cs = before ++ [last] ∧
      pieces separator ds = first :: after ∧
      pieces separator (cs ++ ds) = before ++ (last ++ first) :: after := by
  obtain ⟨first, after, hds⟩ := List.exists_cons_of_ne_nil (pieces_ne_nil separator ds)
  induction cs with
  | nil => exact ⟨[], [], first, after, rfl, hds, hds⟩
  | cons c cs ih =>
    obtain ⟨before, last, first', after', hcs, hds', happend⟩ := ih
    rw [hds] at hds'
    cases hds'
    rw [List.cons_append, pieces, pieces, hcs, happend]
    by_cases hc : c = separator
    · rw [if_pos hc, if_pos hc]
      exact ⟨[] :: before, last, first, after, rfl, hds, rfl⟩
    · rw [if_neg hc, if_neg hc]
      cases before with
      | nil => exact ⟨[], c :: last, first, after, rfl, hds, rfl⟩
      | cons piece before => exact ⟨(c :: piece) :: before, last, first, after, rfl, hds, rfl⟩

theorem mem_of_mem_pieces {separator : Char} {cs piece : List Char} (h : piece ∈ pieces separator cs)
    {c : Char} (hc : c ∈ piece) : c ∈ cs := by
  fun_induction pieces separator cs generalizing piece with
  | case1 => simp_all
  | case2 rest ih => grind
  | case3 c rest hc hnil ih => exact absurd hnil (pieces_ne_nil separator rest)
  | case4 c rest hc first further hpieces ih => grind

/-- The pieces of a string between the separators. -/
def piecesOf (separator : Char) (text : String) : List String :=
  (pieces separator text.toList).map String.ofList

def replaceChar (old : Char) (new : List Char) (cs : List Char) : List Char :=
  cs.flatMap fun c => if c = old then new else [c]

theorem not_mem_replaceChar {old : Char} {new : List Char} (h : old ∉ new) (cs : List Char) :
    old ∉ replaceChar old new cs := by
  simp only [replaceChar, List.mem_flatMap, not_exists, not_and]
  intro c _
  split
  · exact h
  · rw [List.mem_singleton]
    exact fun heq => ‹¬c = old› heq.symm

end ResourceBundle.Text
