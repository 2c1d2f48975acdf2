import Mathlib.Data.Nat.Digits.Defs
import ResourceBundle.Json.Reader
import ResourceBundle.Text.Digits

/-! # Decimal texts and their values

A sequence of decimal digits has a value, and its length and its value determine it. The digits of a
number have this number as their value, and no zero leads them unless the number is zero. So an integer
that is padded to a width is the one text with its sign, its value and the right length. -/

namespace ResourceBundle.Text

def AreDigits (cs : List Char) : Prop := ∀ c ∈ cs, c.isDigit = true

theorem toNat_of_isDigit {c : Char} (h : c.isDigit = true) : 48 ≤ c.toNat ∧ c.toNat ≤ 57 := by
  simp only [Char.isDigit, Bool.and_eq_true, decide_eq_true_eq] at h
  exact h

theorem AreDigits.minus_not_mem {cs : List Char} (h : AreDigits cs) : '-' ∉ cs := by
  intro hmem
  exact absurd (h '-' hmem) (by decide)

theorem areDigits_natDigits (n : Nat) : AreDigits (natDigits n) := fun _ =>
  Nat.isDigit_of_mem_toDigits (by decide) (by decide)

theorem natDigits_ne_nil (n : Nat) : natDigits n ≠ [] := Nat.toDigits_ne_nil

theorem areDigits_paddedDigits (width n : Nat) : AreDigits (paddedDigits width n) := by
  intro c hc
  rcases List.mem_append.mp hc with hzero | hdigit
  · rw [List.eq_of_mem_replicate hzero]
    decide
  · exact areDigits_natDigits n c hdigit

theorem length_paddedDigits (width n : Nat) :
    (paddedDigits width n).length = max width (natDigits n).length := by
  simp only [paddedDigits, List.length_append, List.length_replicate]
  omega

theorem ofDigitChars_natDigits (n : Nat) : Nat.ofDigitChars 10 (natDigits n) 0 = n :=
  Nat.ofDigitChars_ten_toDigits

theorem ofDigitChars_paddedDigits (width n : Nat) :
    Nat.ofDigitChars 10 (paddedDigits width n) 0 = n := by
  rw [paddedDigits, Nat.ofDigitChars_append, Nat.ofDigitChars_replicate_zero, Nat.mul_zero,
    ofDigitChars_natDigits]

theorem ofDigitChars_cons (c : Char) (cs : List Char) : Nat.ofDigitChars 10 (c :: cs) 0 =
    10 ^ cs.length * (c.toNat - 48) + Nat.ofDigitChars 10 cs 0 := by
  rw [Nat.ofDigitChars_cons, Nat.ofDigitChars_eq_ofDigitChars_zero, Nat.mul_zero, Nat.zero_add]
  rfl

theorem ofDigitChars_lt {cs : List Char} (h : AreDigits cs) :
    Nat.ofDigitChars 10 cs 0 < 10 ^ cs.length := by
  induction cs with
  | nil => simp
  | cons c cs ih =>
    obtain ⟨hc, hcs⟩ := List.forall_mem_cons.mp h
    have hrest := ih hcs
    have hdigit : c.toNat - 48 ≤ 9 := by
      have := toNat_of_isDigit hc
      omega
    have hhead := Nat.mul_le_mul_left (10 ^ cs.length) hdigit
    rw [ofDigitChars_cons, List.length_cons, Nat.pow_succ]
    omega

/-- Digits are determined by their number and their value. -/
theorem eq_of_ofDigitChars_eq {cs ds : List Char} (hcs : AreDigits cs) (hds : AreDigits ds)
    (hlength : cs.length = ds.length)
    (hvalue : Nat.ofDigitChars 10 cs 0 = Nat.ofDigitChars 10 ds 0) : cs = ds := by
  induction cs generalizing ds with
  | nil => exact (List.eq_nil_of_length_eq_zero hlength.symm).symm
  | cons c cs ih =>
    cases ds with
    | nil => cases hlength
    | cons d ds =>
      obtain ⟨hc, hcs⟩ := List.forall_mem_cons.mp hcs
      obtain ⟨hd, hds⟩ := List.forall_mem_cons.mp hds
      have hlen : cs.length = ds.length := Nat.succ.inj hlength
      have hlow := ofDigitChars_lt hcs
      have hlow' := ofDigitChars_lt hds
      rw [ofDigitChars_cons, ofDigitChars_cons, hlen] at hvalue
      rw [hlen] at hlow
      -- The first digit is the quotient by a power of ten, the rest is the remainder.
      have hpos : 0 < 10 ^ ds.length := Nat.pow_pos (by decide)
      have hquotient := congrArg (· / 10 ^ ds.length) hvalue
      have hremainder := congrArg (· % 10 ^ ds.length) hvalue
      simp only [Nat.mul_add_div hpos, Nat.div_eq_of_lt hlow, Nat.div_eq_of_lt hlow', Nat.add_zero]
        at hquotient
      simp only [Nat.mul_add_mod, Nat.mod_eq_of_lt hlow, Nat.mod_eq_of_lt hlow'] at hremainder
      have hbounds := toNat_of_isDigit hc
      have hbounds' := toNat_of_isDigit hd
      have hnat : c.toNat = d.toNat := by omega
      have hchar : c = d := by rw [← Char.ofNat_toNat c, hnat, Char.ofNat_toNat]
      rw [hchar, ih hcs hds hlen hremainder]

theorem length_natDigits_le {n width : Nat} (hwidth : 0 < width) (h : n < 10 ^ width) :
    (natDigits n).length ≤ width :=
  (Nat.length_toDigits_le_iff (by decide) hwidth).mpr h

/-- No zero leads the digits of a number, unless it is the only one. -/
theorem natDigits_eq_zero_of_head? {n : Nat} (h : (natDigits n).head? = some '0') :
    natDigits n = ['0'] := by
  cases hdigits : natDigits n with
  | nil => exact absurd hdigits (natDigits_ne_nil n)
  | cons c cs =>
    rw [hdigits] at h
    obtain rfl := Option.some.inj h
    have hall : AreDigits ('0' :: cs) := hdigits ▸ areDigits_natDigits n
    have hvalue : Nat.ofDigitChars 10 cs 0 = n := by
      have hn := ofDigitChars_natDigits n
      rw [hdigits, ofDigitChars_cons] at hn
      simpa using hn
    have hlt : n < 10 ^ cs.length := hvalue ▸ ofDigitChars_lt (List.forall_mem_cons.mp hall).2
    cases cs with
    | nil => rfl
    | cons d ds =>
      have hshort := length_natDigits_le (Nat.succ_pos ds.length) hlt
      rw [hdigits, List.length_cons, List.length_cons] at hshort
      omega

def sign (n : Int) : List Char := if n < 0 then ['-'] else []

theorem sign_negSucc (n : Nat) : sign (.negSucc n) = ['-'] := if_pos (Int.negSucc_lt_zero n)

theorem paddedInt_eq (width : Nat) (n : Int) :
    paddedInt width n = sign n ++ paddedDigits (width - (sign n).length) n.natAbs := by
  cases n with
  | ofNat n => rfl
  | negSucc n =>
    rw [sign_negSucc]
    rfl

theorem paddedInt_one (n : Int) : paddedInt 1 n = sign n ++ natDigits n.natAbs := by
  have hlength := List.length_pos_iff.mpr (natDigits_ne_nil n.natAbs)
  have hzeros : 1 - (sign n).length - (natDigits n.natAbs).length = 0 := by omega
  rw [paddedInt_eq, paddedDigits, hzeros]
  rfl

theorem length_repr (n : Nat) : (Nat.repr n).length = (natDigits n).length := by
  rw [Nat.repr_eq_ofList_toDigits, String.length_ofList]
  rfl

theorem length_toString (n : Int) :
    (toString n).length = (sign n).length + (natDigits n.natAbs).length := by
  cases n with
  | ofNat n =>
    change (Nat.repr n).length = 0 + (natDigits n).length
    rw [length_repr, Nat.zero_add]
  | negSucc n =>
    change ("-" ++ Nat.repr (n + 1)).length = (sign (.negSucc n)).length + (natDigits (n + 1)).length
    rw [sign_negSucc, String.length_append, length_repr]
    rfl

/-- Whether a text is the decimal form of an integer, padded with zeros to a width: it has a minus sign
exactly if the integer is negative, then digits of its magnitude, and as many characters as the plain
decimal form has, or as the width demands if this is more. -/
structure IsPadded (width : Nat) (n : Int) (cs : List Char) : Prop where
  reads : ∃ digits, cs = sign n ++ digits ∧ AreDigits digits ∧
    Nat.ofDigitChars 10 digits 0 = n.natAbs
  length : cs.length = max width (toString n).length

theorem isPadded_paddedInt (width : Nat) (n : Int) : IsPadded width n (paddedInt width n) := by
  rw [paddedInt_eq]
  refine ⟨⟨_, rfl, areDigits_paddedDigits _ _, ofDigitChars_paddedDigits _ _⟩, ?_⟩
  rw [List.length_append, length_paddedDigits, length_toString]
  omega

theorem isPadded_iff {width : Nat} {n : Int} {cs : List Char} :
    IsPadded width n cs ↔ cs = paddedInt width n := by
  constructor
  · rintro ⟨⟨digits, rfl, hdigits, hvalue⟩, hlength⟩
    have hpadded := (isPadded_paddedInt width n).length
    rw [← hlength, paddedInt_eq, List.length_append, List.length_append] at hpadded
    rw [paddedInt_eq]
    refine congrArg _ (eq_of_ofDigitChars_eq hdigits (areDigits_paddedDigits _ _) ?_ ?_)
    · omega
    · rw [hvalue, ofDigitChars_paddedDigits]
  · rintro rfl
    exact isPadded_paddedInt width n

/-- A text is the decimal form of one integer at most, whatever the width. -/
theorem IsPadded.unique {width other : Nat} {m n : Int} {cs : List Char} (hm : IsPadded width m cs)
    (hn : IsPadded other n cs) : m = n := by
  obtain ⟨ds, rfl, hds, hmvalue⟩ := hm.reads
  obtain ⟨es, hcs, hes, hnvalue⟩ := hn.reads
  unfold sign at hcs
  split at hcs
  · split at hcs
    · have hsame : ds = es := by simpa using hcs
      subst hsame
      omega
    · have hmem : '-' ∈ es := by simpa using congrArg ('-' ∈ ·) hcs
      exact absurd hmem hes.minus_not_mem
  · split at hcs
    · have hmem : '-' ∈ ds := by simpa using congrArg ('-' ∈ ·) hcs
      exact absurd hmem hds.minus_not_mem
    · have hsame : ds = es := by simpa using hcs
      subst hsame
      omega

theorem paddedInt_injective (width : Nat) : Function.Injective (paddedInt width) := by
  intro m n h
  exact (isPadded_paddedInt width m).unique (isPadded_iff.mpr h)

end ResourceBundle.Text

namespace ResourceBundle.Json

theorem natOfDigits_eq (digits : List Char) : natOfDigits digits = Nat.ofDigitChars 10 digits 0 := by
  rw [Nat.ofDigitChars_eq_foldl]
  simp only [natOfDigits, Nat.mul_comm 10]
  rfl

@[simp] theorem natOfDigits_natDigits (n : Nat) : natOfDigits (Text.natDigits n) = n := by
  rw [natOfDigits_eq, Text.ofDigitChars_natDigits]

end ResourceBundle.Json
