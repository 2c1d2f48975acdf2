import Mathlib.Tactic.MkIffOfInductiveProp
import ResourceBundle.Proofs.NormalControls
import ResourceBundle.Text.Blank
import ResourceBundle.Text.Case
import ResourceBundle.Text.Letter

/-! # What case conversion makes

Case conversion makes neither characters below `A` nor underscores nor blanks. It has nothing more to do
in its second pass: the images of its tables are none of their sources. A character that becomes one other
character keeps what matters for words: whether it is cased, and that it is a letter. -/

namespace ResourceBundle

namespace Text

/-- The code points of a table as the bits of a number. -/
def RangeTable.bits (table : RangeTable) : Nat :=
  table.foldr (fun range bits => ((1 <<< (range.2 + 1 - range.1) - 1) <<< range.1) ||| bits) 0

theorem RangeTable.testBit_bits (table : RangeTable) (c : Char) :
    table.bits.testBit c.toNat = table.has c := by
  unfold bits has
  induction table with
  | nil => simp
  | cons range table ih =>
    rw [List.foldr_cons, Nat.testBit_or, ih, List.any_cons, Nat.testBit_shiftLeft, Nat.one_shiftLeft,
      Nat.testBit_two_pow_sub_one]
    congr 1
    by_cases h : range.1 ≤ c.toNat
    · simp only [h, decide_true, Bool.true_and, decide_eq_decide]
      omega
    · simp [h]

/-- A character of a table is not among bits that have nothing in common with the table. -/
theorem RangeTable.testBit_eq_false {table : RangeTable} {bits : Nat} (h : table.bits &&& bits = 0)
    {c : Char} (hc : table.has c = true) : bits.testBit c.toNat = false := by
  have hand := congrArg (·.testBit c.toNat) h
  simpa only [Nat.testBit_and, testBit_bits, hc, Bool.true_and, Nat.zero_testBit] using hand

/-- Ranges of ASCII and a table of the other characters make one table. -/
theorem RangeTable.has_append {ascii table : RangeTable}
    (hascii : ascii.all (fun range => decide (range.2 < 128)) = true)
    (htable : table.all (fun range => decide (128 ≤ range.1)) = true) (c : Char) :
    RangeTable.has (ascii ++ table) c = if c.toNat < 128 then ascii.has c else table.has c := by
  have happend : RangeTable.has (ascii ++ table) c = (ascii.has c || table.has c) := List.any_append
  rw [happend]
  split
  · have hnone : table.has c = false := by
      unfold has
      rw [List.any_eq_false]
      intro range hrange
      have hfirst := of_decide_eq_true (List.all_eq_true.mp htable range hrange)
      simp only [Bool.and_eq_true, decide_eq_true_eq]
      omega
    rw [hnone, Bool.or_false]
  · have hnone : ascii.has c = false := by
      unfold has
      rw [List.any_eq_false]
      intro range hrange
      have hlast := of_decide_eq_true (List.all_eq_true.mp hascii range hrange)
      simp only [Bool.and_eq_true, decide_eq_true_eq]
      omega
    rw [hnone, Bool.false_or]

def asciiLetters : RangeTable := [(0x41, 0x5A), (0x61, 0x7A)]

theorem has_asciiLetters (c : Char) : asciiLetters.has c = c.isAlpha := by
  have hletters : asciiLetters.has c = (decide (0x41 ≤ c.toNat) && decide (c.toNat ≤ 0x5A) ||
      (decide (0x61 ≤ c.toNat) && decide (c.toNat ≤ 0x7A) || false)) := rfl
  have halpha : c.isAlpha = (decide (c.val ≥ 0x41 ∧ c.val ≤ 0x5A) ||
      decide (c.val ≥ 0x61) && decide (c.val ≤ 0x7A)) := rfl
  rw [hletters, halpha, Bool.decide_and, Bool.or_false]
  rfl

def asciiDigits : RangeTable := [(0x30, 0x39)]

theorem has_asciiDigits (c : Char) : asciiDigits.has c = c.isDigit := by
  have hdigits : asciiDigits.has c = (decide (0x30 ≤ c.toNat) && decide (c.toNat ≤ 0x39) || false) :=
    rfl
  rw [hdigits, Bool.or_false]
  rfl

def casedTable : RangeTable := asciiLetters ++ Case.cased

def letterTable : RangeTable := asciiLetters ++ (Letter.lowerPlane ++ Letter.upperPlane)

def digitTable : RangeTable := asciiDigits ++ Letter.digits

theorem tables_beyond_ascii :
    Case.cased.all (fun range => decide (128 ≤ range.1)) = true ∧
    (Letter.lowerPlane ++ Letter.upperPlane).all (fun range => decide (128 ≤ range.1)) = true ∧
    Letter.digits.all (fun range => decide (128 ≤ range.1)) = true := by
  decide +kernel

theorem isCased_eq (c : Char) : Case.isCased c = casedTable.has c := by
  rw [casedTable, RangeTable.has_append rfl tables_beyond_ascii.1, has_asciiLetters, Case.isCased]

theorem isLetter_eq (c : Char) : isLetter c = letterTable.has c := by
  rw [letterTable, RangeTable.has_append rfl tables_beyond_ascii.2.1, has_asciiLetters, isLetter,
    RangeTable.has, RangeTable.has, RangeTable.has, List.any_append]

theorem isDigit_eq (c : Char) : isDigit c = digitTable.has c := by
  rw [digitTable, RangeTable.has_append rfl tables_beyond_ascii.2.2, has_asciiDigits, isDigit]

def bitsOf (codes : List Nat) : Nat := codes.foldr (fun n bits => 1 <<< n ||| bits) 0

theorem testBit_bitsOf (codes : List Nat) (n : Nat) :
    (bitsOf codes).testBit n = codes.contains n := by
  unfold bitsOf
  induction codes with
  | nil => simp
  | cons m codes ih =>
    rw [List.foldr_cons, Nat.testBit_or, ih, Nat.one_shiftLeft, Nat.testBit_two_pow,
      List.contains_cons]
    by_cases h : m = n
    · simp [h]
    · simp [h, Ne.symm h]

/-- Whether each bit of a number is a bit of another one. -/
def isWithin (inner outer : Nat) : Bool := inner &&& outer == inner

theorem testBit_of_isWithin {inner outer n : Nat} (h : isWithin inner outer = true)
    (hn : inner.testBit n = true) : outer.testBit n = true := by
  have hbit := congrArg (·.testBit n) (beq_iff_eq.mp h)
  rw [Nat.testBit_and, hn, Bool.true_and] at hbit
  exact hbit

/-- Bits at a distance, from the lowest one on. -/
def every (stride : Nat) : Nat → Nat
  | 0 => 0
  | count + 1 => every stride count <<< stride ||| 1

theorem testBit_every {stride count k : Nat} (h : k < count) :
    (every stride count).testBit (stride * k) = true := by
  induction count generalizing k with
  | zero => cases h
  | succ count ih =>
    rw [every, Nat.testBit_or]
    cases k with
    | zero => simp
    | succ k =>
      have hk := ih (Nat.lt_of_succ_lt_succ h)
      rw [Nat.testBit_shiftLeft, Nat.mul_succ, Nat.add_sub_cancel, hk]
      simp

def Run.bits (run : Run) : Nat := every run.stride ((run.last - run.first) / run.stride + 1)

theorem forall_ascii {p : Char → Prop} (h : ∀ n < 128, p (Char.ofNat n)) {c : Char}
    (hc : c.toNat < 128) : p c := by
  have hp := h c.toNat hc
  rwa [Char.ofNat_toNat] at hp

namespace Case

/-- The characters that no case conversion makes: those below `A`, the underscore and the blanks. -/
def unmade : RangeTable := (0x00, 0x40) :: (0x5F, 0x5F) :: blanks

/-- What a character keeps that becomes another one. -/
structure SameKind (c d : Char) : Prop where
  cased : isCased d = isCased c
  letter : isLetter c = true → isLetter d = true

instance (c d : Char) : Decidable (SameKind c d) :=
  decidable_of_iff (isCased d = isCased c ∧ (isLetter c = true → isLetter d = true))
    ⟨fun h => ⟨h.1, h.2⟩, fun h => ⟨h.cased, h.letter⟩⟩

theorem SameKind.refl (c : Char) : SameKind c c := ⟨rfl, id⟩

/-- The code points that a conversion changes: 26 letters of ASCII and what its table lists. -/
def changes (first : Nat) (expansions : List (Nat × List Nat)) (runs : List Run) : Nat :=
  runs.foldr (fun run bits => run.bits <<< run.first ||| bits)
    (bitsOf (List.range' first 26 ++ expansions.map Prod.fst))

def upperChanges : Nat := changes 0x61 upperExpansions upperRuns

def lowerChanges : Nat := changes 0x41 lowerExpansions lowerRuns

/-- Blanks, digits and letters are apart, and digits have no other case. -/
theorem tables_apart : blanks.bits &&& letterTable.bits = 0 ∧ blanks.bits &&& digitTable.bits = 0 ∧
    digitTable.bits &&& letterTable.bits = 0 ∧ digitTable.bits &&& upperChanges = 0 := by
  decide +kernel

/-- A run has its images from `A` on, between the surrogates or around them. -/
def hasLetterImages (run : Run) : Bool :=
  decide (0x41 ≤ run.image ∧ run.image + (run.last - run.first) < 0xD800) ||
    decide (0xE000 ≤ run.image ∧ run.image + (run.last - run.first) < 0x110000)

/-- The images of a run are not among some bits. -/
def hasImagesOutside (bits : Nat) (run : Run) : Bool := (bits >>> run.image) &&& run.bits == 0

/-- The images of a run are of the same kind as their sources. -/
def keepsKind (run : Run) : Bool :=
  ((casedTable.bits >>> run.image) &&& run.bits == (casedTable.bits >>> run.first) &&& run.bits) &&
    isWithin ((letterTable.bits >>> run.first) &&& run.bits) (letterTable.bits >>> run.image)

/-- The characters of expansions are not among some bits. -/
def hasExpansionsOutside (bits : Nat) (expansions : List (Nat × List Nat)) : Bool :=
  expansions.all fun entry => entry.2.all fun n => !bits.testBit (Char.ofNat n).toNat

/-- What makes one pass of a conversion enough, as far as its table goes. -/
@[mk_iff]
structure IsFinal (changed : Nat) (expansions : List (Nat × List Nat)) (runs : List Run) : Prop where
  images : runs.all hasLetterImages = true
  outside : runs.all (hasImagesOutside unmade.bits) = true
  final : runs.all (hasImagesOutside changed) = true
  kinds : runs.all keepsKind = true
  expansionsOutside : hasExpansionsOutside unmade.bits expansions = true
  expansionsFinal : hasExpansionsOutside changed expansions = true
  expansionsLong : expansions.all (fun entry => decide (1 < entry.2.length)) = true

instance (changed : Nat) (expansions : List (Nat × List Nat)) (runs : List Run) :
    Decidable (IsFinal changed expansions runs) :=
  decidable_of_iff _ (isFinal_iff changed expansions runs).symm

theorem upper_final : IsFinal upperChanges upperExpansions upperRuns := by decide +kernel

theorem lower_final : IsFinal lowerChanges lowerExpansions lowerRuns := by decide +kernel

/-- What makes one pass of each conversion enough in ASCII, where no table is asked. -/
@[mk_iff]
structure IsFinalAscii (c : Char) : Prop where
  upperUnmade : unmade.has c.toUpper = true → c.toUpper = c
  lowerUnmade : unmade.has c.toLower = true → c.toLower = c
  upperSelf : upperChanges.testBit c.toNat = false → c.toUpper = c
  lowerSelf : lowerChanges.testBit c.toNat = false → c.toLower = c
  upperAgain : upperChar c.toUpper = [c.toUpper]
  lowerAgain : lowerChar c.toLower = [c.toLower]
  titleAgain : titleChar c.toUpper = [c.toUpper]
  changeable : titleUnchanged.has c = false
  upperKind : SameKind c c.toUpper
  lowerKind : SameKind c c.toLower

instance (c : Char) : Decidable (IsFinalAscii c) := decidable_of_iff _ (isFinalAscii_iff c).symm

theorem ascii_final {c : Char} (h : c.toNat < 128) : IsFinalAscii c :=
  forall_ascii (by decide +kernel) h

/-- The small sigmas are final, and of the kind of the capital one, which is not. -/
theorem sigma_final : lowerChar (Char.ofNat 0x3A3) ≠ [Char.ofNat 0x3A3] ∧
    ∀ n ∈ [0x3C2, 0x3C3], unmade.has (Char.ofNat n) = false ∧
      lowerChar (Char.ofNat n) = [Char.ofNat n] ∧
      SameKind (Char.ofNat 0x3A3) (Char.ofNat n) := by
  decide +kernel

/-- What a run maps a character to. -/
theorem of_imageOf? {run : Run} (h : hasLetterImages run = true) {c d : Char}
    (hd : run.imageOf? c = some d) : ∃ k, run.bits.testBit k = true ∧
      c.toNat = run.first + k ∧ d.toNat = run.image + k := by
  unfold Run.imageOf? at hd
  split at hd
  · rename_i hc
    obtain ⟨hfirst, hlast, hstride⟩ := hc
    obtain rfl := Option.some.inj hd
    have hle : c.toNat - run.first ≤ run.last - run.first := by omega
    have hvalid : (run.image + (c.toNat - run.first)).isValidChar := by
      simp only [hasLetterImages, Bool.or_eq_true, decide_eq_true_eq] at h
      unfold Nat.isValidChar
      omega
    have hcount : (c.toNat - run.first) / run.stride < (run.last - run.first) / run.stride + 1 :=
      Nat.lt_succ_of_le (Nat.div_le_div_right hle)
    have hbit : run.bits.testBit (run.stride * ((c.toNat - run.first) / run.stride)) = true :=
      testBit_every hcount
    rw [Nat.mul_div_cancel' (Nat.dvd_of_mod_eq_zero hstride)] at hbit
    exact ⟨c.toNat - run.first, hbit, by omega, Normal.toNat_ofNat_of_valid hvalid⟩
  · cases hd

theorem not_testBit_of_mem_expansion? {bits : Nat} {expansions : List (Nat × List Nat)}
    (h : hasExpansionsOutside bits expansions = true) {c d : Char} {cs : List Char}
    (hcs : expansion? expansions c = some cs) (hd : d ∈ cs) : bits.testBit d.toNat = false := by
  obtain ⟨entry, hfind, rfl⟩ := Option.map_eq_some_iff.mp hcs
  obtain ⟨n, hn, rfl⟩ := List.mem_map.mp hd
  have hentry := List.all_eq_true.mp h entry (List.mem_of_find?_eq_some hfind)
  simpa using List.all_eq_true.mp hentry n hn

section

variable {changed : Nat} {expansions : List (Nat × List Nat)} {runs : List Run}

/-- What the runs of a table map a character to. -/
theorem IsFinal.of_runImage? (h : IsFinal changed expansions runs) {c d : Char}
    (hd : runImage? runs c = some d) : ∃ run ∈ runs, ∃ k, run.bits.testBit k = true ∧
      c.toNat = run.first + k ∧ d.toNat = run.image + k := by
  obtain ⟨run, hrun, himage⟩ := List.exists_of_findSome?_eq_some hd
  obtain ⟨k, hk, hc, hcode⟩ := of_imageOf? (List.all_eq_true.mp h.images run hrun) himage
  exact ⟨run, hrun, k, hk, hc, hcode⟩

theorem IsFinal.not_testBit (h : IsFinal changed expansions runs) {bits : Nat}
    (houtside : runs.all (hasImagesOutside bits) = true) {c d : Char}
    (hd : runImage? runs c = some d) : bits.testBit d.toNat = false := by
  obtain ⟨run, hrun, k, hk, _, hcode⟩ := h.of_runImage? hd
  have hnone := congrArg (·.testBit k) (beq_iff_eq.mp (List.all_eq_true.mp houtside run hrun))
  simpa [Nat.testBit_and, Nat.testBit_shiftRight, hk, ← hcode] using hnone

theorem IsFinal.sameKind (h : IsFinal changed expansions runs) {c d : Char}
    (hd : runImage? runs c = some d) : SameKind c d := by
  obtain ⟨run, hrun, k, hk, hsource, hcode⟩ := h.of_runImage? hd
  have hkinds := List.all_eq_true.mp h.kinds run hrun
  rw [keepsKind, Bool.and_eq_true, beq_iff_eq] at hkinds
  obtain ⟨hcased, hletter⟩ := hkinds
  constructor
  · have hbit := congrArg (·.testBit k) hcased
    simp only [Nat.testBit_and, Nat.testBit_shiftRight, hk, Bool.and_true, ← hsource, ← hcode,
      RangeTable.testBit_bits] at hbit
    rw [isCased_eq, isCased_eq, hbit]
  · intro hc
    rw [isLetter_eq] at hc ⊢
    have hbit : ((letterTable.bits >>> run.first) &&& run.bits).testBit k = true := by
      rw [Nat.testBit_and, Nat.testBit_shiftRight, hk, ← hsource, RangeTable.testBit_bits, hc]
      rfl
    have himage := testBit_of_isWithin hletter hbit
    rwa [Nat.testBit_shiftRight, ← hcode, RangeTable.testBit_bits] at himage

/-- A character that is not made only comes from itself. -/
theorem IsFinal.eq_of_mem_convert (h : IsFinal changed expansions runs) {c d : Char}
    (hmem : d ∈ convert expansions runs c) (hd : unmade.has d = true) : d = c := by
  rw [← RangeTable.testBit_bits] at hd
  unfold convert at hmem
  split at hmem
  · rw [not_testBit_of_mem_expansion? h.expansionsOutside ‹_› hmem] at hd
    cases hd
  · have hself := List.mem_singleton.mp hmem
    cases himage : runImage? runs c with
    | none => rw [hself, himage, Option.getD_none]
    | some image =>
      rw [himage, Option.getD_some] at hself
      rw [hself, h.not_testBit h.outside himage] at hd
      cases hd

/-- What becomes of a character is the character itself, or is not changed further. -/
theorem IsFinal.unchanged_of_mem_convert (h : IsFinal changed expansions runs) {c d : Char}
    (hmem : d ∈ convert expansions runs c) :
    convert expansions runs c = [d] ∧ d = c ∨ changed.testBit d.toNat = false := by
  unfold convert at hmem ⊢
  cases hexpansion : expansion? expansions c with
  | some cs =>
    rw [hexpansion] at hmem
    exact .inr (not_testBit_of_mem_expansion? h.expansionsFinal hexpansion hmem)
  | none =>
    rw [hexpansion] at hmem
    have hself := List.mem_singleton.mp hmem
    cases himage : runImage? runs c with
    | none =>
      rw [himage, Option.getD_none] at hself
      exact .inl ⟨by rw [hself, Option.getD_none], hself⟩
    | some image =>
      rw [himage, Option.getD_some] at hself
      rw [hself]
      exact .inr (h.not_testBit h.final himage)

/-- A character that becomes one character stays as it is or is mapped by a run. -/
theorem IsFinal.runImage?_of_convert (h : IsFinal changed expansions runs) {c d : Char}
    (hd : convert expansions runs c = [d]) : d = c ∨ runImage? runs c = some d := by
  unfold convert at hd
  cases hexpansion : expansion? expansions c with
  | some cs =>
    rw [hexpansion] at hd
    obtain ⟨entry, hfind, rfl⟩ := Option.map_eq_some_iff.mp hexpansion
    have hlong := of_decide_eq_true (List.all_eq_true.mp h.expansionsLong entry
      (List.mem_of_find?_eq_some hfind))
    have hlength := congrArg List.length hd
    rw [List.length_map, List.length_singleton] at hlength
    omega
  | none =>
    rw [hexpansion] at hd
    have hself := List.singleton_inj.mp hd
    cases himage : runImage? runs c with
    | none =>
      rw [himage, Option.getD_none] at hself
      exact .inl hself.symm
    | some image =>
      rw [himage, Option.getD_some] at hself
      rw [hself]
      exact .inr rfl

/-- A character that becomes one character becomes one of its kind. -/
theorem IsFinal.sameKind_of_convert (h : IsFinal changed expansions runs) {c d : Char}
    (hd : convert expansions runs c = [d]) : SameKind c d := by
  rcases h.runImage?_of_convert hd with rfl | himage
  · exact .refl _
  · exact h.sameKind himage

theorem IsFinal.convert_ne_nil (h : IsFinal changed expansions runs) (c : Char) :
    convert expansions runs c ≠ [] := by
  unfold convert
  split
  · rename_i cs hexpansion
    obtain ⟨entry, hfind, rfl⟩ := Option.map_eq_some_iff.mp hexpansion
    have hlong := of_decide_eq_true (List.all_eq_true.mp h.expansionsLong entry
      (List.mem_of_find?_eq_some hfind))
    intro hnil
    rw [List.map_eq_nil_iff.mp hnil] at hlong
    cases hlong
  · exact List.cons_ne_nil _ _

/-- What a run maps is among the changes. -/
theorem testBit_changes_of_imageOf? {first : Nat} (hletters : runs.all hasLetterImages = true)
    {run : Run} (hrun : run ∈ runs) {c d : Char} (hd : run.imageOf? c = some d) :
    (changes first expansions runs).testBit c.toNat = true := by
  obtain ⟨k, hk, hsource, _⟩ := of_imageOf? (List.all_eq_true.mp hletters run hrun) hd
  unfold changes
  clear hletters
  induction runs with
  | nil => cases hrun
  | cons other runs ih =>
    rw [List.foldr_cons, Nat.testBit_or]
    rcases List.mem_cons.mp hrun with rfl | hrun
    · rw [Nat.testBit_shiftLeft, hsource, Nat.add_sub_cancel_left, hk]
      simp
    · rw [ih hrun, Bool.or_true]

theorem testBit_changes_of_bitsOf {first n : Nat}
    (h : (bitsOf (List.range' first 26 ++ expansions.map Prod.fst)).testBit n = true) :
    (changes first expansions runs).testBit n = true := by
  unfold changes
  induction runs with
  | nil => exact h
  | cons run runs ih => rw [List.foldr_cons, Nat.testBit_or, ih, Bool.or_true]

/-- What is not among the changes becomes itself. -/
theorem convert_eq_self {first : Nat} (hletters : runs.all hasLetterImages = true) {c : Char}
    (h : (changes first expansions runs).testBit c.toNat = false) :
    convert expansions runs c = [c] := by
  have hexpansion : expansion? expansions c = none := by
    rw [expansion?, Option.map_eq_none_iff, List.find?_eq_none]
    intro entry hentry heq
    have hmem : c.toNat ∈ List.range' first 26 ++ expansions.map Prod.fst :=
      List.mem_append_right _ (List.mem_map.mpr ⟨entry, hentry, beq_iff_eq.mp heq⟩)
    rw [testBit_changes_of_bitsOf ((testBit_bitsOf _ _).trans (List.contains_iff_mem.mpr hmem))] at h
    cases h
  have himage : runImage? runs c = none := by
    rw [runImage?, List.findSome?_eq_none_iff]
    intro run hrun
    cases hd : run.imageOf? c with
    | none => rfl
    | some d =>
      rw [testBit_changes_of_imageOf? hletters hrun hd] at h
      cases h
  rw [convert, hexpansion, himage, Option.getD_none]

end

theorem eq_of_mem_upperChar {c d : Char} (h : d ∈ upperChar c) (hd : unmade.has d = true) :
    d = c := by
  unfold upperChar at h
  split at h
  · obtain rfl := List.mem_singleton.mp h
    exact (ascii_final ‹_›).upperUnmade hd
  · exact upper_final.eq_of_mem_convert h hd

theorem eq_of_mem_lowerChar {c d : Char} (h : d ∈ lowerChar c) (hd : unmade.has d = true) :
    d = c := by
  unfold lowerChar at h
  split at h
  · obtain rfl := List.mem_singleton.mp h
    exact (ascii_final ‹_›).lowerUnmade hd
  · exact lower_final.eq_of_mem_convert h hd

theorem upperChar_eq_self {c : Char} (h : upperChanges.testBit c.toNat = false) :
    upperChar c = [c] := by
  unfold upperChar
  split
  · rw [(ascii_final ‹_›).upperSelf h]
  · exact convert_eq_self upper_final.images h

theorem lowerChar_eq_self {c : Char} (h : lowerChanges.testBit c.toNat = false) :
    lowerChar c = [c] := by
  unfold lowerChar
  split
  · rw [(ascii_final ‹_›).lowerSelf h]
  · exact convert_eq_self lower_final.images h

/-- Upper-casing a character again changes nothing. -/
theorem upperChar_of_mem {c d : Char} (h : d ∈ upperChar c) : upperChar d = [d] := by
  by_cases hc : c.toNat < 128
  · rw [upperChar, if_pos hc] at h
    rw [List.mem_singleton.mp h]
    exact (ascii_final hc).upperAgain
  · rw [upperChar, if_neg hc] at h
    rcases upper_final.unchanged_of_mem_convert h with ⟨hself, rfl⟩ | hkept
    · rw [upperChar, if_neg hc, hself]
    · exact upperChar_eq_self hkept

/-- Lower-casing a character again changes nothing. -/
theorem lowerChar_of_mem {c d : Char} (h : d ∈ lowerChar c) : lowerChar d = [d] := by
  by_cases hc : c.toNat < 128
  · rw [lowerChar, if_pos hc] at h
    rw [List.mem_singleton.mp h]
    exact (ascii_final hc).lowerAgain
  · rw [lowerChar, if_neg hc] at h
    rcases lower_final.unchanged_of_mem_convert h with ⟨hself, rfl⟩ | hkept
    · rw [lowerChar, if_neg hc, hself]
    · exact lowerChar_eq_self hkept

theorem sameKind_of_upperChar {c d : Char} (h : upperChar c = [d]) : SameKind c d := by
  unfold upperChar at h
  split at h
  · rw [← List.singleton_inj.mp h]
    exact (ascii_final ‹_›).upperKind
  · exact upper_final.sameKind_of_convert h

theorem sameKind_of_lowerChar {c d : Char} (h : lowerChar c = [d]) : SameKind c d := by
  unfold lowerChar at h
  split at h
  · rw [← List.singleton_inj.mp h]
    exact (ascii_final ‹_›).lowerKind
  · exact lower_final.sameKind_of_convert h

theorem upperChar_ne_nil (c : Char) : upperChar c ≠ [] := by
  unfold upperChar
  split
  · exact List.cons_ne_nil _ _
  · exact upper_final.convert_ne_nil c

theorem lowerChar_ne_nil (c : Char) : lowerChar c ≠ [] := by
  unfold lowerChar
  split
  · exact List.cons_ne_nil _ _
  · exact lower_final.convert_ne_nil c

/-- The characters with a title form of their own, as bits. -/
def titleBits : Nat := bitsOf (titleForms.map Prod.fst)

theorem testBit_titleBits {c : Char} :
    titleBits.testBit c.toNat = false ↔ expansion? titleForms c = none := by
  rw [titleBits, testBit_bitsOf, ← Bool.not_eq_true, List.contains_iff_mem, expansion?,
    Option.map_eq_none_iff, List.find?_eq_none, List.mem_map]
  constructor
  · intro h entry hentry heq
    exact h ⟨entry, hentry, beq_iff_eq.mp heq⟩
  · rintro h ⟨entry, hentry, heq⟩
    exact h entry hentry (beq_iff_eq.mpr heq)

/-- The images of a run have no title form, unless their sources have one or are their own. -/
def hasFinalTitles (run : Run) : Bool :=
  isWithin ((titleBits >>> run.image) &&& run.bits)
    ((titleUnchanged.bits ||| titleBits) >>> run.first)

/-- A title form of one character stays as it is, and is of the same kind. -/
def isFinalTitle (entry : Nat × List Nat) : Bool :=
  match entry.2 with
  | [n] => titleUnchanged.bits.testBit (Char.ofNat n).toNat &&
      casedTable.bits.testBit (Char.ofNat n).toNat == casedTable.bits.testBit entry.1 &&
      letterTable.bits.testBit (Char.ofNat n).toNat
  | _ => true

/-- What makes one pass of title-casing enough, as far as its table goes. -/
@[mk_iff]
structure IsFinalTitles (forms : List (Nat × List Nat)) : Prop where
  outside : hasExpansionsOutside unmade.bits forms = true
  final : forms.all isFinalTitle = true
  notEmpty : forms.all (fun entry => !entry.2.isEmpty) = true
  images : upperRuns.all hasFinalTitles = true

instance (forms : List (Nat × List Nat)) : Decidable (IsFinalTitles forms) :=
  decidable_of_iff _ (isFinalTitles_iff forms).symm

theorem titles_final : IsFinalTitles titleForms := by decide +kernel

theorem eq_of_mem_titleChar {c d : Char} (h : d ∈ titleChar c) (hd : unmade.has d = true) :
    d = c := by
  unfold titleChar at h
  split at h
  · obtain rfl := List.mem_singleton.mp h
    exact (ascii_final ‹_›).upperUnmade hd
  · split at h
    · exact List.mem_singleton.mp h
    · cases hexpansion : expansion? titleForms c with
      | none =>
        rw [hexpansion, Option.getD_none] at h
        exact eq_of_mem_upperChar h hd
      | some cs =>
        rw [hexpansion, Option.getD_some] at h
        have hnone := not_testBit_of_mem_expansion? titles_final.outside hexpansion h
        rw [RangeTable.testBit_bits, hd] at hnone
        cases hnone

theorem titleChar_ne_nil (c : Char) : titleChar c ≠ [] := by
  unfold titleChar
  split
  · exact List.cons_ne_nil _ _
  · split
    · exact List.cons_ne_nil _ _
    · cases hform : expansion? titleForms c with
      | none => exact upperChar_ne_nil c
      | some cs =>
        obtain ⟨entry, hfind, rfl⟩ := Option.map_eq_some_iff.mp hform
        have hentry := List.all_eq_true.mp titles_final.notEmpty entry
          (List.mem_of_find?_eq_some hfind)
        intro hnil
        rw [Option.getD_some] at hnil
        rw [List.map_eq_nil_iff.mp hnil] at hentry
        cases hentry

theorem titleChar_of_unchanged {c : Char} (h : titleUnchanged.has c = true) :
    titleChar c = [c] := by
  by_cases hc : c.toNat < 128
  · rw [(ascii_final hc).changeable] at h
    cases h
  · rw [titleChar, if_neg hc, if_pos h]

theorem titleChar_of_upperChar {c : Char} (hform : expansion? titleForms c = none)
    (h : upperChar c = [c]) : titleChar c = [c] := by
  unfold titleChar
  split
  · rwa [upperChar, if_pos ‹_›] at h
  · split
    · rfl
    · rw [hform, Option.getD_none, h]

theorem titleChar_of_expansion? {c d : Char} (h : expansion? titleForms c = some [d]) :
    titleChar d = [d] ∧ SameKind c d := by
  obtain ⟨⟨code, image⟩, hfind, hmap⟩ := Option.map_eq_some_iff.mp h
  obtain ⟨n, rfl, hn⟩ := List.map_eq_singleton_iff.mp hmap
  have hfound := List.find?_some hfind
  have hcode : code = c.toNat := beq_iff_eq.mp hfound
  have hentry := List.all_eq_true.mp titles_final.final _ (List.mem_of_find?_eq_some hfind)
  simp only [isFinalTitle, hn, hcode, RangeTable.testBit_bits, ← isCased_eq, ← isLetter_eq,
    Bool.and_eq_true, beq_iff_eq] at hentry
  obtain ⟨⟨hunchanged, hcased⟩, hletter⟩ := hentry
  exact ⟨titleChar_of_unchanged hunchanged, hcased, fun _ => hletter⟩

/-- Without a title form, what upper-casing a character gives has none either. -/
theorem expansion?_of_runImage? {c d : Char} (hform : expansion? titleForms c = none)
    (hunchanged : titleUnchanged.has c = false) (h : runImage? upperRuns c = some d) :
    expansion? titleForms d = none := by
  obtain ⟨run, hrun, k, hk, hsource, hcode⟩ := upper_final.of_runImage? h
  have hwithin := List.all_eq_true.mp titles_final.images run hrun
  rw [← testBit_titleBits] at hform ⊢
  cases hbit : titleBits.testBit d.toNat with
  | false => rfl
  | true =>
    have himage : ((titleBits >>> run.image) &&& run.bits).testBit k = true := by
      rw [Nat.testBit_and, Nat.testBit_shiftRight, ← hcode, hbit, hk]
      rfl
    have hboth := testBit_of_isWithin hwithin himage
    rw [Nat.testBit_shiftRight, Nat.testBit_or, ← hsource, RangeTable.testBit_bits, hunchanged,
      hform] at hboth
    cases hboth

/-- A title form of one character is its own title form and of the same kind. -/
theorem titleChar_of_eq_singleton {c d : Char} (h : titleChar c = [d]) :
    titleChar d = [d] ∧ SameKind c d := by
  unfold titleChar at h
  split at h
  · rw [← List.singleton_inj.mp h]
    exact ⟨(ascii_final ‹_›).titleAgain, (ascii_final ‹_›).upperKind⟩
  · rename_i hascii
    split at h
    · rw [← List.singleton_inj.mp h]
      exact ⟨titleChar_of_unchanged ‹_›, .refl c⟩
    · rename_i hunchanged
      cases hform : expansion? titleForms c with
      | some cs =>
        rw [hform, Option.getD_some] at h
        exact titleChar_of_expansion? (h ▸ hform)
      | none =>
        rw [hform, Option.getD_none] at h
        have hupper : upperChar d = [d] := upperChar_of_mem (h ▸ List.mem_singleton_self d)
        refine ⟨titleChar_of_upperChar ?_ hupper, sameKind_of_upperChar h⟩
        rw [upperChar, if_neg hascii] at h
        rcases upper_final.runImage?_of_convert h with rfl | himage
        · exact hform
        · exact expansion?_of_runImage? hform (Bool.not_eq_true _ ▸ hunchanged) himage

theorem lowerBetween_cases (before after : List Char) (c : Char) :
    lowerBetween before c after = lowerChar c ∨
      ∃ d, lowerBetween before c after = [d] ∧ unmade.has d = false ∧ lowerChar d = [d] ∧
        SameKind c d := by
  unfold lowerBetween
  by_cases hsigma : c.toNat = 0x3A3
  · have hc : c = Char.ofNat 0x3A3 := by rw [← hsigma, Char.ofNat_toNat]
    rw [if_pos hsigma, hc]
    refine .inr ?_
    split
    · exact ⟨_, rfl, sigma_final.2 0x3C2 (by decide)⟩
    · exact ⟨_, rfl, sigma_final.2 0x3C3 (by decide)⟩
  · rw [if_neg hsigma]
    exact .inl rfl

/-- Lower-casing in its context does not change what is not changed by itself. -/
theorem lowerBetween_eq_self {c : Char} (h : lowerChar c = [c]) (before after : List Char) :
    lowerBetween before c after = [c] := by
  unfold lowerBetween
  split
  · rename_i hsigma
    have hc : c = Char.ofNat 0x3A3 := by rw [← hsigma, Char.ofNat_toNat]
    exact absurd (hc ▸ h) sigma_final.1
  · exact h

theorem eq_of_mem_lowerBetween {before after : List Char} {c d : Char}
    (h : d ∈ lowerBetween before c after) (hd : unmade.has d = true) : d = c := by
  rcases lowerBetween_cases before after c with hlower | ⟨e, hsigma, he, _⟩
  · rw [hlower] at h
    exact eq_of_mem_lowerChar h hd
  · rw [hsigma] at h
    rw [List.mem_singleton.mp h, he] at hd
    cases hd

theorem mem_of_mem_lowerFrom {before cs : List Char} {d : Char} (h : d ∈ lowerFrom before cs)
    (hd : unmade.has d = true) : d ∈ cs := by
  induction cs generalizing before with
  | nil => cases h
  | cons c cs ih =>
    rcases List.mem_append.mp h with hfirst | hrest
    · exact eq_of_mem_lowerBetween hfirst hd ▸ List.mem_cons_self
    · exact List.mem_cons_of_mem _ (ih hrest)

theorem mem_of_mem_titleFrom {before cs : List Char} {inWord : Bool} {d : Char}
    (h : d ∈ titleFrom before inWord cs) (hd : unmade.has d = true) : d ∈ cs := by
  induction cs generalizing before inWord with
  | nil => cases h
  | cons c cs ih =>
    rcases List.mem_append.mp h with hfirst | hrest
    · split at hfirst
      · exact eq_of_mem_lowerBetween hfirst hd ▸ List.mem_cons_self
      · exact eq_of_mem_titleChar hfirst hd ▸ List.mem_cons_self
    · exact List.mem_cons_of_mem _ (ih hrest)

theorem lowerChar_of_mem_lowerBetween {before after : List Char} {c d : Char}
    (h : d ∈ lowerBetween before c after) : lowerChar d = [d] := by
  rcases lowerBetween_cases before after c with hlower | ⟨e, hsigma, _, he, _⟩
  · rw [hlower] at h
    exact lowerChar_of_mem h
  · rw [hsigma] at h
    rwa [List.mem_singleton.mp h]

theorem sameKind_of_lowerBetween {before after : List Char} {c d : Char}
    (h : lowerBetween before c after = [d]) : SameKind c d := by
  rcases lowerBetween_cases before after c with hlower | ⟨e, hsigma, _, _, hkind⟩
  · rw [hlower] at h
    exact sameKind_of_lowerChar h
  · rw [hsigma] at h
    rwa [← List.singleton_inj.mp h]

theorem lowerChar_of_mem_lowerFrom {before cs : List Char} {d : Char}
    (h : d ∈ lowerFrom before cs) : lowerChar d = [d] := by
  induction cs generalizing before with
  | nil => cases h
  | cons c cs ih =>
    rcases List.mem_append.mp h with hfirst | hrest
    · exact lowerChar_of_mem_lowerBetween hfirst
    · exact ih hrest

theorem lowerFrom_eq_self {before cs : List Char} (h : ∀ c ∈ cs, lowerChar c = [c]) :
    lowerFrom before cs = cs := by
  induction cs generalizing before with
  | nil => rfl
  | cons c cs ih =>
    obtain ⟨hc, hcs⟩ := List.forall_mem_cons.mp h
    rw [lowerFrom, lowerBetween_eq_self hc, ih hcs]
    rfl

/-- The form of a character in a title-cased text. -/
def titleBetween (before : List Char) (inWord : Bool) (c : Char) (after : List Char) : List Char :=
  if inWord then lowerBetween before c after else titleChar c

theorem titleFrom_cons (before : List Char) (inWord : Bool) (c : Char) (cs : List Char) :
    titleFrom before inWord (c :: cs) =
      titleBetween before inWord c cs ++ titleFrom (c :: before) (isCased c) cs := rfl

theorem titleBetween_ne_nil (before after : List Char) (inWord : Bool) (c : Char) :
    titleBetween before inWord c after ≠ [] := by
  unfold titleBetween
  split
  · rcases lowerBetween_cases before after c with hlower | ⟨d, hsigma, _⟩
    · rw [hlower]
      exact lowerChar_ne_nil c
    · rw [hsigma]
      exact List.cons_ne_nil _ _
  · exact titleChar_ne_nil c

/-- A form of one character in a title-cased text has the same form in its place. -/
theorem titleBetween_of_eq_singleton {before after : List Char} {inWord : Bool} {c d : Char}
    (h : titleBetween before inWord c after = [d]) :
    (∀ others rest, titleBetween others inWord d rest = [d]) ∧ SameKind c d := by
  cases inWord with
  | true =>
    have hd : lowerChar d = [d] := lowerChar_of_mem_lowerBetween (h ▸ List.mem_singleton_self d)
    exact ⟨fun others rest => lowerBetween_eq_self hd others rest, sameKind_of_lowerBetween h⟩
  | false =>
    obtain ⟨hd, hkind⟩ := titleChar_of_eq_singleton h
    exact ⟨fun _ _ => hd, hkind⟩

theorem length_le_titleFrom (before : List Char) (inWord : Bool) (cs : List Char) :
    cs.length ≤ (titleFrom before inWord cs).length := by
  induction cs generalizing before inWord with
  | nil => exact Nat.zero_le _
  | cons c cs ih =>
    have hfirst := List.length_pos_iff.mpr (titleBetween_ne_nil before cs inWord c)
    have hrest := ih (c :: before) (isCased c)
    rw [titleFrom_cons, List.length_append, List.length_cons]
    omega

/-- A text that becomes no longer has a form of one character for each of its characters. -/
theorem exists_of_length_titleFrom {before : List Char} {inWord : Bool} {c : Char} {cs : List Char}
    (h : (titleFrom before inWord (c :: cs)).length = (c :: cs).length) :
    ∃ d, titleBetween before inWord c cs = [d] ∧
      (titleFrom (c :: before) (isCased c) cs).length = cs.length := by
  have hfirst := List.length_pos_iff.mpr (titleBetween_ne_nil before cs inWord c)
  have hrest := length_le_titleFrom (c :: before) (isCased c) cs
  rw [titleFrom_cons, List.length_append, List.length_cons] at h
  obtain ⟨d, hd⟩ := List.length_eq_one_iff.mp (show (titleBetween before inWord c cs).length = 1 by
    omega)
  exact ⟨d, hd, by omega⟩

/-- Title-casing a text again that became no longer changes nothing. -/
theorem titleFrom_titleFrom {before others : List Char} {inWord : Bool} {cs : List Char}
    (h : (titleFrom before inWord cs).length = cs.length) :
    titleFrom others inWord (titleFrom before inWord cs) = titleFrom before inWord cs := by
  induction cs generalizing before others inWord with
  | nil => rfl
  | cons c cs ih =>
    obtain ⟨d, hd, hrest⟩ := exists_of_length_titleFrom h
    obtain ⟨hagain, hkind⟩ := titleBetween_of_eq_singleton hd
    rw [titleFrom_cons, hd, List.singleton_append, titleFrom_cons, hagain, hkind.cased, ih hrest]
    rfl

theorem all_letter_titleFrom {before : List Char} {inWord : Bool} {cs : List Char}
    (h : (titleFrom before inWord cs).length = cs.length) (hletters : cs.all isLetter = true) :
    (titleFrom before inWord cs).all isLetter = true := by
  induction cs generalizing before inWord with
  | nil => rfl
  | cons c cs ih =>
    obtain ⟨d, hd, hrest⟩ := exists_of_length_titleFrom h
    obtain ⟨_, hkind⟩ := titleBetween_of_eq_singleton hd
    rw [List.all_cons, Bool.and_eq_true] at hletters
    rw [titleFrom_cons, hd, List.singleton_append, List.all_cons, hkind.letter hletters.1,
      ih hrest hletters.2]
    rfl

/-- Whether each form of a character is one character. -/
def IsSimple (c : Char) : Prop :=
  (upperChar c).length = 1 ∧ (lowerChar c).length = 1 ∧ (titleChar c).length = 1

instance (c : Char) : Decidable (IsSimple c) := inferInstanceAs (Decidable (_ ∧ _))

theorem isSimple_of_lt {c : Char} (h : c.toNat < 128) : IsSimple c := by
  unfold IsSimple upperChar lowerChar titleChar
  simp only [h, if_true, List.length_singleton, and_self]

theorem length_titleBetween (before after : List Char) (inWord : Bool) {c : Char} (h : IsSimple c) :
    (titleBetween before inWord c after).length = 1 := by
  unfold titleBetween
  split
  · rcases lowerBetween_cases before after c with hlower | ⟨d, hsigma, _⟩
    · rw [hlower]
      exact h.2.1
    · rw [hsigma]
      rfl
  · exact h.2.2

theorem length_titleFrom {cs : List Char} (h : ∀ c ∈ cs, IsSimple c) (before : List Char)
    (inWord : Bool) : (titleFrom before inWord cs).length = cs.length := by
  induction cs generalizing before inWord with
  | nil => rfl
  | cons c cs ih =>
    obtain ⟨hc, hcs⟩ := List.forall_mem_cons.mp h
    rw [titleFrom_cons, List.length_append, length_titleBetween _ _ _ hc, ih hcs, List.length_cons,
      Nat.add_comm]

end Case

theorem upper_cons (c : Char) (cs : List Char) : upper (c :: cs) = Case.upperChar c ++ upper cs := rfl

theorem mem_of_mem_upper {cs : List Char} {d : Char} (h : d ∈ upper cs)
    (hd : Case.unmade.has d = true) : d ∈ cs := by
  obtain ⟨c, hc, hmem⟩ := List.mem_flatMap.mp h
  exact Case.eq_of_mem_upperChar hmem hd ▸ hc

theorem upper_upper (cs : List Char) : upper (upper cs) = upper cs := by
  have hself : ∀ ds : List Char, (∀ d ∈ ds, Case.upperChar d = [d]) → upper ds = ds := by
    intro ds hds
    induction ds with
    | nil => rfl
    | cons d ds ih =>
      obtain ⟨hd, hds⟩ := List.forall_mem_cons.mp hds
      rw [upper_cons, hd, ih hds]
      rfl
  apply hself
  intro d hd
  obtain ⟨c, _, hmem⟩ := List.mem_flatMap.mp hd
  exact Case.upperChar_of_mem hmem

theorem lower_lower (cs : List Char) : lower (lower cs) = lower cs :=
  Case.lowerFrom_eq_self fun _ => Case.lowerChar_of_mem_lowerFrom

theorem title_title {cs : List Char} (h : (title cs).length = cs.length) :
    title (title cs) = title cs := Case.titleFrom_titleFrom h

theorem length_le_upper (cs : List Char) : cs.length ≤ (upper cs).length := by
  induction cs with
  | nil => exact Nat.zero_le _
  | cons c cs ih =>
    have hfirst := List.length_pos_iff.mpr (Case.upperChar_ne_nil c)
    rw [upper_cons, List.length_append, List.length_cons]
    omega

theorem length_upper {cs : List Char} (h : ∀ c ∈ cs, Case.IsSimple c) :
    (upper cs).length = cs.length := by
  induction cs with
  | nil => rfl
  | cons c cs ih =>
    obtain ⟨hc, hcs⟩ := List.forall_mem_cons.mp h
    rw [upper_cons, List.length_append, hc.1, ih hcs, List.length_cons, Nat.add_comm]

theorem all_letter_upper {cs : List Char} (h : ∀ c ∈ cs, Case.IsSimple c)
    (hletters : cs.all isLetter = true) : (upper cs).all isLetter = true := by
  induction cs with
  | nil => rfl
  | cons c cs ih =>
    obtain ⟨hc, hcs⟩ := List.forall_mem_cons.mp h
    obtain ⟨d, hd⟩ := List.length_eq_one_iff.mp hc.1
    rw [List.all_cons, Bool.and_eq_true] at hletters
    rw [upper_cons, hd, List.singleton_append, List.all_cons,
      (Case.sameKind_of_upperChar hd).letter hletters.1, ih hcs hletters.2]
    rfl

theorem not_isLetter_of_isBlank {c : Char} (h : isBlank c = true) : isLetter c = false := by
  rw [isLetter_eq, ← RangeTable.testBit_bits]
  exact RangeTable.testBit_eq_false Case.tables_apart.1 h

theorem not_isDigit_of_isBlank {c : Char} (h : isBlank c = true) : isDigit c = false := by
  rw [isDigit_eq, ← RangeTable.testBit_bits]
  exact RangeTable.testBit_eq_false Case.tables_apart.2.1 h

theorem not_isLetter_of_isDigit {c : Char} (h : isDigit c = true) : isLetter c = false := by
  rw [isLetter_eq, ← RangeTable.testBit_bits]
  exact RangeTable.testBit_eq_false Case.tables_apart.2.2.1 (isDigit_eq c ▸ h)

theorem upperChar_of_isDigit {c : Char} (h : isDigit c = true) : Case.upperChar c = [c] :=
  Case.upperChar_eq_self (RangeTable.testBit_eq_false Case.tables_apart.2.2.2 (isDigit_eq c ▸ h))

end Text

end ResourceBundle
