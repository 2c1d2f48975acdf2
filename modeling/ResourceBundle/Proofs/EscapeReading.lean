import Mathlib.Data.List.Infix
import ResourceBundle.Json.Reader
import ResourceBundle.Proofs.BundleLines
import ResourceBundle.Xml.Encoding

/-! # Reading escapes back

A reader of properties goes through a text from left to right, takes a unit of UTF-16 from every escape
and from every other character, and decodes the units. It reads what `escape` gives as the normalised
text, exactly if the normalised text holds nothing that looks like an escape. A backslash that stands
before an escape does no harm: four digits and the letter in front of them are no backslashes. -/

namespace ResourceBundle.Text

theorem hexValue?_hexDigit {n : Nat} (h : n < 16) : hexValue? (hexDigit n) = some n :=
  (by decide : ∀ m < 16, hexValue? (hexDigit m) = some m) n h

theorem hexValue?_lt {c : Char} {n : Nat} (h : hexValue? c = some n) : n < 16 := by
  unfold hexValue? at h
  split at h
  · rename_i hc
    have hhigh : c.toNat ≤ 57 := hc.2
    have hn := Option.some.inj h
    omega
  · split at h
    · rename_i hc
      have hhigh : c.toNat ≤ 70 := hc.2
      have hn := Option.some.inj h
      omega
    · split at h
      · rename_i hc
        have hhigh : c.toNat ≤ 102 := hc.2
        have hn := Option.some.inj h
        omega
      · cases h

end ResourceBundle.Text

namespace ResourceBundle.Json

theorem unit?_eq_some_iff {cs rest : List Char} {n : Nat} : unit? cs = some (n, rest) ↔
    ∃ a b c d x y z w, cs = a :: b :: c :: d :: rest ∧ Text.hexValue? a = some x ∧
      Text.hexValue? b = some y ∧ Text.hexValue? c = some z ∧ Text.hexValue? d = some w ∧
      n = ((x * 16 + y) * 16 + z) * 16 + w := by
  constructor
  · intro h
    match cs, h with
    | a :: b :: c :: d :: after, h =>
      obtain ⟨x, hx, h⟩ := Option.bind_eq_some_iff.mp h
      obtain ⟨y, hy, h⟩ := Option.bind_eq_some_iff.mp h
      obtain ⟨z, hz, h⟩ := Option.bind_eq_some_iff.mp h
      obtain ⟨w, hw, h⟩ := Option.bind_eq_some_iff.mp h
      cases h
      exact ⟨a, b, c, d, x, y, z, w, rfl, hx, hy, hz, hw, rfl⟩
  · rintro ⟨a, b, c, d, x, y, z, w, rfl, hx, hy, hz, hw, rfl⟩
    simp [unit?, hx, hy, hz, hw]

/-- The digits of a unit are read as this unit. -/
theorem unit?_hex {n : Nat} (h : n < 0x10000) (rest : List Char) :
    unit? (Text.hex 4 n ++ rest) = some (n, rest) := by
  apply unit?_eq_some_iff.mpr
  refine ⟨_, _, _, _, _, _, _, _, rfl, Text.hexValue?_hexDigit (Nat.mod_lt _ (by decide)),
    Text.hexValue?_hexDigit (Nat.mod_lt _ (by decide)),
    Text.hexValue?_hexDigit (Nat.mod_lt _ (by decide)),
    Text.hexValue?_hexDigit (Nat.mod_lt _ (by decide)), ?_⟩
  omega

end ResourceBundle.Json

namespace ResourceBundle.Bundle

/-- The unit of UTF-16 whose escape a text begins with, and the rest of the text. -/
def escapedUnit? : List Char → Option (Nat × List Char)
  | '\\' :: 'u' :: rest => Json.unit? rest
  | _ => none

/-- Whether no part of a text looks like an escape. -/
def HoldsNoEscape (cs : List Char) : Prop := ∀ tail ∈ cs.tails, escapedUnit? tail = none

instance (cs : List Char) : Decidable (HoldsNoEscape cs) :=
  inferInstanceAs (Decidable (∀ tail ∈ cs.tails, escapedUnit? tail = none))

theorem escapedUnit?_eq_some_iff {cs rest : List Char} {n : Nat} :
    escapedUnit? cs = some (n, rest) ↔
      ∃ digits, cs = '\\' :: 'u' :: digits ∧ Json.unit? digits = some (n, rest) := by
  constructor
  · intro h
    unfold escapedUnit? at h
    split at h
    · exact ⟨_, rfl, h⟩
    · cases h
  · rintro ⟨digits, rfl, h⟩
    exact h

theorem length_of_escapedUnit? {cs rest : List Char} {n : Nat}
    (h : escapedUnit? cs = some (n, rest)) : cs.length = rest.length + 6 := by
  obtain ⟨_, rfl, hunit⟩ := escapedUnit?_eq_some_iff.mp h
  obtain ⟨_, _, _, _, _, _, _, _, rfl, -⟩ := Json.unit?_eq_some_iff.mp hunit
  simp

/-- The units of UTF-16 of a text, in which an escape stands for one unit. -/
def readUnits (cs : List Char) : List Nat :=
  match cs with
  | [] => []
  | c :: rest =>
    match _h : escapedUnit? (c :: rest) with
    | some (n, after) => n :: readUnits after
    | none => c.toNat :: readUnits rest
termination_by cs.length
decreasing_by
  · have := length_of_escapedUnit? _h
    omega
  · simp

/-- The text that a reader of escapes finds, if the units are those of a text. -/
def unescape? (cs : List Char) : Option (List Char) :=
  match Xml.Encoding.ofUnits (readUnits cs) with
  | (text, true) => some text
  | (_, false) => none

theorem readUnits_of_escapedUnit? {cs rest : List Char} {n : Nat}
    (h : escapedUnit? cs = some (n, rest)) : readUnits cs = n :: readUnits rest := by
  cases cs with
  | nil => cases h
  | cons c cs =>
    rw [readUnits]
    split
    · rename_i heq
      rw [h] at heq
      cases heq
      rfl
    · rename_i heq
      rw [h] at heq
      cases heq

theorem readUnits_cons {c : Char} {cs : List Char} (h : escapedUnit? (c :: cs) = none) :
    readUnits (c :: cs) = c.toNat :: readUnits cs := by
  rw [readUnits]
  split
  · rename_i heq
    rw [h] at heq
    cases heq
  · rfl

/-- The units of UTF-16 of a character. -/
def unitsOf (c : Char) : List Nat :=
  if c.toNat < 0x10000 then [c.toNat]
  else [0xD800 + (c.toNat - 0x10000) / 0x400, 0xDC00 + (c.toNat - 0x10000) % 0x400]

theorem readUnits_escapeUnit {n : Nat} (h : n < 0x10000) (rest : List Char) :
    readUnits (escapeUnit n ++ rest) = n :: readUnits rest :=
  readUnits_of_escapedUnit? (escapedUnit?_eq_some_iff.mpr ⟨_, rfl, Json.unit?_hex h rest⟩)

theorem toNat_lt (c : Char) : c.toNat < 0x110000 := by
  rcases c.valid with h | h
  · exact Nat.lt_trans h (by decide)
  · exact h.2

theorem readUnits_escapeChar {c : Char} (h : 0x80 ≤ c.toNat) (rest : List Char) :
    readUnits (escapeChar c ++ rest) = unitsOf c ++ readUnits rest := by
  have hbound := toNat_lt c
  unfold escapeChar unitsOf
  dsimp only
  rw [if_neg (by omega)]
  split
  · rename_i hbasic
    exact readUnits_escapeUnit hbasic rest
  · rw [List.append_assoc, readUnits_escapeUnit (by omega), readUnits_escapeUnit (by omega)]
    rfl

theorem escapeChar_of_lt {c : Char} (h : c.toNat < 0x80) : escapeChar c = [c] := by
  unfold escapeChar
  exact if_pos h

theorem escapeChar_of_le {c : Char} (h : 0x80 ≤ c.toNat) : ∃ rest, escapeChar c = '\\' :: rest := by
  unfold escapeChar
  dsimp only
  rw [if_neg (by omega)]
  split
  · exact ⟨_, rfl⟩
  · exact ⟨_, rfl⟩

/-- What stands before the first backslash of an escaped text is not escaped. -/
theorem of_flatMap_escapeChar_eq_append {cs letters rest : List Char} (hletters : '\\' ∉ letters)
    (h : cs.flatMap escapeChar = letters ++ rest) :
    ∃ tail, cs = letters ++ tail ∧ tail.flatMap escapeChar = rest := by
  induction letters generalizing cs with
  | nil => exact ⟨cs, rfl, h⟩
  | cons letter letters ih =>
    cases cs with
    | nil => cases h
    | cons c cs =>
      rw [List.flatMap_cons] at h
      by_cases hc : c.toNat < 0x80
      · rw [escapeChar_of_lt hc, List.singleton_append, List.cons_append] at h
        obtain ⟨rfl, hcs⟩ := List.cons.inj h
        obtain ⟨tail, rfl, hrest⟩ := ih (fun hmem => hletters (List.mem_cons_of_mem c hmem)) hcs
        exact ⟨tail, rfl, hrest⟩
      · obtain ⟨more, hmore⟩ := escapeChar_of_le (Nat.le_of_not_lt hc)
        rw [hmore, List.cons_append, List.cons_append] at h
        exact absurd (List.mem_cons.mpr (.inl (List.cons.inj h).1)) hletters

theorem ne_backslash_of_hexValue? {c : Char} {n : Nat} (h : Text.hexValue? c = some n) : '\\' ≠ c := by
  rintro rfl
  cases h

/-- An escape that begins with a character of the text stood in the text. -/
theorem escapedUnit?_cons_escape {c : Char} {cs rest : List Char} {n : Nat}
    (h : escapedUnit? (c :: cs.flatMap escapeChar) = some (n, rest)) :
    ∃ tail, escapedUnit? (c :: cs) = some (n, tail) ∧ tail.flatMap escapeChar = rest := by
  obtain ⟨digits, hcons, hunit⟩ := escapedUnit?_eq_some_iff.mp h
  obtain ⟨rfl, hcs⟩ := List.cons.inj hcons
  obtain ⟨a, b, d, e, x, y, z, w, rfl, ha, hb, hd, he, hn⟩ := Json.unit?_eq_some_iff.mp hunit
  have hletters : '\\' ∉ ['u', a, b, d, e] := by
    simp only [List.mem_cons, List.not_mem_nil, or_false, not_or]
    exact ⟨by decide, ne_backslash_of_hexValue? ha, ne_backslash_of_hexValue? hb,
      ne_backslash_of_hexValue? hd, ne_backslash_of_hexValue? he⟩
  have happend : cs.flatMap escapeChar = ['u', a, b, d, e] ++ rest := hcs
  obtain ⟨tail, rfl, hrest⟩ := of_flatMap_escapeChar_eq_append hletters happend
  refine ⟨tail, escapedUnit?_eq_some_iff.mpr ⟨_, rfl, ?_⟩, hrest⟩
  exact Json.unit?_eq_some_iff.mpr ⟨a, b, d, e, x, y, z, w, rfl, ha, hb, hd, he, hn⟩

theorem HoldsNoEscape.of_cons {c : Char} {cs : List Char} (h : HoldsNoEscape (c :: cs)) :
    HoldsNoEscape cs := by
  intro tail htail
  have hsuffix := (List.mem_tails tail cs).mp htail
  exact h tail ((List.mem_tails tail (c :: cs)).mpr (hsuffix.trans (List.suffix_cons c cs)))

theorem HoldsNoEscape.head {cs : List Char} (h : HoldsNoEscape cs) : escapedUnit? cs = none :=
  h cs ((List.mem_tails cs cs).mpr (List.suffix_refl cs))

theorem holdsNoEscape_nil : HoldsNoEscape [] := by decide

theorem holdsNoEscape_cons {c : Char} {cs : List Char} (h : escapedUnit? (c :: cs) = none)
    (hcs : HoldsNoEscape cs) : HoldsNoEscape (c :: cs) := by
  intro tail htail
  rcases List.suffix_cons_iff.mp ((List.mem_tails _ _).mp htail) with rfl | hsuffix
  · exact h
  · exact hcs tail ((List.mem_tails _ _).mpr hsuffix)

/-- A character that begins no escape of the text is read as itself. -/
theorem readUnits_flatMap_cons {c : Char} {cs : List Char} (h : escapedUnit? (c :: cs) = none) :
    readUnits ((c :: cs).flatMap escapeChar) = unitsOf c ++ readUnits (cs.flatMap escapeChar) := by
  rw [List.flatMap_cons]
  by_cases hc : c.toNat < 0x80
  · have hnone : escapedUnit? (c :: cs.flatMap escapeChar) = none := by
      apply Option.eq_none_iff_forall_ne_some.mpr
      rintro ⟨n, rest⟩ hsome
      obtain ⟨tail, htail, -⟩ := escapedUnit?_cons_escape hsome
      rw [h] at htail
      cases htail
    rw [escapeChar_of_lt hc, List.singleton_append, readUnits_cons hnone, unitsOf,
      if_pos (by omega), List.singleton_append]
  · exact readUnits_escapeChar (Nat.le_of_not_lt hc) _

/-- The units that are read from an escaped text are those of the text, if it holds no escape. -/
theorem readUnits_escape {cs : List Char} (h : HoldsNoEscape cs) :
    readUnits (cs.flatMap escapeChar) = cs.flatMap unitsOf := by
  induction cs with
  | nil => rw [List.flatMap_nil, List.flatMap_nil, readUnits]
  | cons c cs ih => rw [readUnits_flatMap_cons h.head, ih h.of_cons, List.flatMap_cons]

/-- A unit that is no surrogate is a character of its own. -/
theorem ofUnits_cons {u : Nat} (h : u < 0xD800 ∨ 0xE000 ≤ u) (units : List Nat) :
    Xml.Encoding.ofUnits (u :: units) =
      (Char.ofNat u :: (Xml.Encoding.ofUnits units).1, (Xml.Encoding.ofUnits units).2) := by
  rw [Xml.Encoding.ofUnits.eq_def]
  exact if_pos h

/-- A high and a low surrogate are one character. -/
theorem ofUnits_pair {u low : Nat} (hu : 0xD800 ≤ u ∧ u < 0xDC00) (hlow : 0xDC00 ≤ low ∧ low < 0xE000)
    (units : List Nat) : Xml.Encoding.ofUnits (u :: low :: units) =
      (Char.ofNat (0x10000 + (u - 0xD800) * 0x400 + (low - 0xDC00)) ::
        (Xml.Encoding.ofUnits units).1, (Xml.Encoding.ofUnits units).2) := by
  rw [Xml.Encoding.ofUnits, if_neg (by omega), if_pos ⟨hu.2, hlow⟩]

theorem ofUnits_unitsOf (c : Char) (units : List Nat) :
    Xml.Encoding.ofUnits (unitsOf c ++ units) =
      (c :: (Xml.Encoding.ofUnits units).1, (Xml.Encoding.ofUnits units).2) := by
  have hbound := toNat_lt c
  unfold unitsOf
  split
  · have hvalid : c.toNat < 0xD800 ∨ 0xE000 ≤ c.toNat := by
      rcases c.valid with h | h
      · exact .inl h
      · exact .inr h.1
    rw [List.singleton_append, ofUnits_cons hvalid, Char.ofNat_toNat]
  · have hc : 0x10000 + (0xD800 + (c.toNat - 0x10000) / 0x400 - 0xD800) * 0x400 +
        (0xDC00 + (c.toNat - 0x10000) % 0x400 - 0xDC00) = c.toNat := by omega
    rw [List.cons_append, List.singleton_append, ofUnits_pair (by omega) (by omega), hc,
      Char.ofNat_toNat]

/-- The units of a text are decoded as this text. -/
theorem ofUnits_flatMap_unitsOf (cs : List Char) :
    Xml.Encoding.ofUnits (cs.flatMap unitsOf) = (cs, true) := by
  induction cs with
  | nil => rfl
  | cons c cs ih => rw [List.flatMap_cons, ofUnits_unitsOf, ih]

/-- Units below 2 ^ 16 are decoded as a text only if they are its units. -/
theorem eq_flatMap_unitsOf {units : List Nat} {cs : List Char} (hunits : ∀ u ∈ units, u < 0x10000)
    (h : Xml.Encoding.ofUnits units = (cs, true)) : units = cs.flatMap unitsOf := by
  fun_induction Xml.Encoding.ofUnits units generalizing cs with
  | case1 =>
    cases h
    rfl
  | case2 u units hu text complete htext ih =>
    obtain ⟨rfl, rfl⟩ := Prod.mk.inj h
    obtain ⟨hlt, hrest⟩ := List.forall_mem_cons.mp hunits
    have hvalid : u.isValidChar := by
      unfold Nat.isValidChar
      omega
    rw [List.flatMap_cons, ← ih hrest htext, unitsOf, Text.Normal.toNat_ofNat_of_valid hvalid,
      if_pos hlt, List.singleton_append]
  | case3 u hu low units hpair text complete htext ih =>
    obtain ⟨rfl, rfl⟩ := Prod.mk.inj h
    obtain ⟨-, hrest⟩ := List.forall_mem_cons.mp (List.forall_mem_cons.mp hunits).2
    generalize hn : 0x10000 + (u - 0xD800) * 0x400 + (low - 0xDC00) = n
    have hvalid : n.isValidChar := by
      unfold Nat.isValidChar
      omega
    have hu' : 0xD800 + (n - 0x10000) / 0x400 = u := by omega
    have hlow : 0xDC00 + (n - 0x10000) % 0x400 = low := by omega
    rw [List.flatMap_cons, ← ih hrest htext, unitsOf, Text.Normal.toNat_ofNat_of_valid hvalid,
      if_neg (by omega), hu', hlow, List.cons_append, List.singleton_append]
  | case4 => cases h
  | case5 => cases h

theorem readUnits_lt {cs : List Char} (h : ∀ c ∈ cs, c.toNat < 0x80) :
    ∀ u ∈ readUnits cs, u < 0x10000 := by
  fun_induction readUnits cs with
  | case1 => exact nofun
  | case2 c cs n rest hunit ih =>
    obtain ⟨digits, heq, hdigits⟩ := escapedUnit?_eq_some_iff.mp hunit
    obtain ⟨rfl, rfl⟩ := List.cons.inj heq
    obtain ⟨a, b, d, e, x, y, z, w, rfl, ha, hb, hd, he, rfl⟩ := Json.unit?_eq_some_iff.mp hdigits
    have hx := Text.hexValue?_lt ha
    have hy := Text.hexValue?_lt hb
    have hz := Text.hexValue?_lt hd
    have hw := Text.hexValue?_lt he
    refine List.forall_mem_cons.mpr ⟨by omega, ih fun c hc => h c ?_⟩
    simp only [List.mem_cons]
    tauto
  | case3 c cs _ ih =>
    obtain ⟨hc, hcs⟩ := List.forall_mem_cons.mp h
    exact List.forall_mem_cons.mpr ⟨by omega, ih hcs⟩

theorem length_le_flatMap_unitsOf (cs : List Char) : cs.length ≤ (cs.flatMap unitsOf).length := by
  induction cs with
  | nil => exact Nat.le_refl 0
  | cons c cs ih =>
    have hc : 0 < (unitsOf c).length := by
      unfold unitsOf
      split <;> exact Nat.succ_pos _
    rw [List.flatMap_cons, List.length_append, List.length_cons]
    omega

theorem lt_of_hexValue? {c : Char} {n : Nat} (h : Text.hexValue? c = some n) : c.toNat < 0x80 := by
  by_contra hc
  unfold Text.hexValue? at h
  have hnot (d : Char) (hd : d.toNat < 0x80) : ¬c ≤ d := fun hle =>
    hc (Nat.lt_of_le_of_lt (hle : c.toNat ≤ d.toNat) hd)
  rw [if_neg fun hle => hnot '9' (by decide) hle.2, if_neg fun hle => hnot 'F' (by decide) hle.2,
    if_neg fun hle => hnot 'f' (by decide) hle.2] at h
  cases h

theorem flatMap_escapeChar_of_lt {letters : List Char} (h : ∀ c ∈ letters, c.toNat < 0x80) :
    letters.flatMap escapeChar = letters := by
  induction letters with
  | nil => rfl
  | cons c letters ih =>
    obtain ⟨hc, hletters⟩ := List.forall_mem_cons.mp h
    rw [List.flatMap_cons, escapeChar_of_lt hc, ih hletters, List.singleton_append]

/-- An escape in a text stands in the escaped text as it is. -/
theorem escapedUnit?_flatMap_escapeChar {cs rest : List Char} {n : Nat}
    (h : escapedUnit? cs = some (n, rest)) :
    escapedUnit? (cs.flatMap escapeChar) = some (n, rest.flatMap escapeChar) := by
  obtain ⟨digits, rfl, hunit⟩ := escapedUnit?_eq_some_iff.mp h
  obtain ⟨a, b, d, e, x, y, z, w, rfl, ha, hb, hd, he, rfl⟩ := Json.unit?_eq_some_iff.mp hunit
  have hletters : ∀ c ∈ ['\\', 'u', a, b, d, e], c.toNat < 0x80 := by
    simp only [List.forall_mem_cons]
    exact ⟨by decide, by decide, lt_of_hexValue? ha, lt_of_hexValue? hb, lt_of_hexValue? hd,
      lt_of_hexValue? he, nofun⟩
  have hcs : '\\' :: 'u' :: a :: b :: d :: e :: rest = ['\\', 'u', a, b, d, e] ++ rest := rfl
  rw [hcs, List.flatMap_append, flatMap_escapeChar_of_lt hletters]
  exact escapedUnit?_eq_some_iff.mpr ⟨_, rfl, Json.unit?_eq_some_iff.mpr
    ⟨a, b, d, e, x, y, z, w, rfl, ha, hb, hd, he, rfl⟩⟩

/-- A text that holds an escape has more units than are read from it, since the escape is read as one. -/
theorem length_readUnits_lt {cs : List Char} (h : ¬HoldsNoEscape cs) :
    (readUnits (cs.flatMap escapeChar)).length < (cs.flatMap unitsOf).length := by
  induction hlength : cs.length using Nat.strong_induction_on generalizing cs with
  | _ length ih =>
    cases hunit : escapedUnit? cs with
    | some found =>
      obtain ⟨n, rest⟩ := found
      have hcs := length_of_escapedUnit? hunit
      have hrest : (readUnits (rest.flatMap escapeChar)).length ≤ (rest.flatMap unitsOf).length := by
        by_cases hplain : HoldsNoEscape rest
        · rw [readUnits_escape hplain]
        · exact Nat.le_of_lt (ih rest.length (by omega) hplain rfl)
      have hdrop : cs.flatMap unitsOf = (cs.take 6).flatMap unitsOf ++ rest.flatMap unitsOf := by
        obtain ⟨digits, rfl, hdigits⟩ := escapedUnit?_eq_some_iff.mp hunit
        obtain ⟨_, _, _, _, _, _, _, _, rfl, -⟩ := Json.unit?_eq_some_iff.mp hdigits
        rw [← List.flatMap_append]
        rfl
      have htake := length_le_flatMap_unitsOf (cs.take 6)
      rw [List.length_take, hcs] at htake
      rw [readUnits_of_escapedUnit? (escapedUnit?_flatMap_escapeChar hunit), List.length_cons, hdrop,
        List.length_append]
      omega
    | none =>
      cases cs with
      | nil => exact absurd holdsNoEscape_nil h
      | cons c cs =>
        have hcs : ¬HoldsNoEscape cs := fun hplain => h (holdsNoEscape_cons hunit hplain)
        have hlt := ih cs.length (hlength ▸ Nat.lt_succ_self cs.length) hcs rfl
        rw [readUnits_flatMap_cons hunit, List.flatMap_cons, List.length_append, List.length_append]
        exact Nat.add_lt_add_left hlt _

/-- The reader finds the normalised text in what `escape` gives, exactly if the normalised text holds no
escape of its own. -/
theorem unescape?_escape_iff {cs : List Char} :
    unescape? (escape cs) = some (Text.nfkc cs) ↔ HoldsNoEscape (Text.nfkc cs) := by
  constructor
  · intro h
    by_contra hescape
    have hread : Xml.Encoding.ofUnits (readUnits (escape cs)) = (Text.nfkc cs, true) := by
      unfold unescape? at h
      split at h
      · rename_i hunits
        rw [hunits, Option.some.inj h]
      · cases h
    have hunits := eq_flatMap_unitsOf (readUnits_lt fun c hc => (mem_escape hc).1) hread
    have hlt := length_readUnits_lt hescape
    rw [← hunits] at hlt
    exact Nat.lt_irrefl _ hlt
  · intro h
    rw [unescape?, escape, readUnits_escape h, ofUnits_flatMap_unitsOf]

/-- What `escape` gives is in ASCII, and a reader of escapes finds the normalised text in it, exactly if
that holds no escape of its own. Two such texts are escaped alike exactly if they are normalised alike. -/
theorem read_escaped (cs : List Char) :
    (∀ c ∈ escape cs, c.toNat < 0x80) ∧
      (unescape? (escape cs) = some (Text.nfkc cs) ↔ HoldsNoEscape (Text.nfkc cs)) ∧
      ∀ other, HoldsNoEscape (Text.nfkc cs) → HoldsNoEscape (Text.nfkc other) →
        (escape cs = escape other ↔ Text.nfkc cs = Text.nfkc other) := by
  refine ⟨fun c hc => (mem_escape hc).1, unescape?_escape_iff, fun other hcs hother => ?_⟩
  constructor
  · intro h
    have hread := unescape?_escape_iff.mpr hcs
    rw [h, unescape?_escape_iff.mpr hother] at hread
    exact (Option.some.inj hread).symm
  · intro h
    rw [escape, escape, h]

def slashedText : List Char := "\\é\\u00😀ﬁ".toList

def plainText : List Char := "\\é\\u00😀fi".toList

theorem read_escaped_slashes :
    HoldsNoEscape (Text.nfkc slashedText) ∧ HoldsNoEscape (Text.nfkc plainText) ∧
      escape slashedText = "\\\\u00E9\\u00\\uD83D\\uDE00fi".toList ∧
      unescape? (escape slashedText) = some plainText ∧ escape slashedText = escape plainText := by
  have hslashed : Text.nfkc slashedText = plainText := by decide +kernel
  have hplain : Text.nfkc plainText = plainText := by decide +kernel
  have hfree : HoldsNoEscape plainText := by decide +kernel
  obtain ⟨-, hread, halike⟩ := read_escaped slashedText
  rw [hslashed] at hread halike ⊢
  have hescape := (halike plainText hfree (hplain.symm ▸ hfree)).mpr hplain.symm
  refine ⟨hfree, hplain.symm ▸ hfree, ?_, hread.mpr hfree, hescape⟩
  rw [escape, hslashed]
  decide +kernel

end ResourceBundle.Bundle
