import ResourceBundle.Json.Writer
import ResourceBundle.Proofs.EscapeReading
import ResourceBundle.Proofs.JsonLimits

/-! # Reading written JSON back

A reader with limits finds in a written value this value, if it fits the limits. A written value ends by
itself, except for a number, which ends where a comma, a closing bracket or the end of the text follows. The
induction is on the value; the fuel of the reader lasts for as many steps as the value has characters. -/

namespace ResourceBundle

namespace Json

/-- What may stand behind a value. -/
inductive IsBreak : List Char → Prop where
  | finished : IsBreak []
  | comma (rest : List Char) : IsBreak (',' :: rest)
  | bracket (rest : List Char) : IsBreak (']' :: rest)
  | brace (rest : List Char) : IsBreak ('\x7d' :: rest)

theorem afterWord?_append (word rest : List Char) : afterWord? word (word ++ rest) = some rest := by
  induction word with
  | nil => rfl
  | cons a word ih => exact (if_pos rfl).trans ih

theorem afterWord?_of_ne {a c : Char} (h : a ≠ c) (word cs : List Char) :
    afterWord? (a :: word) (c :: cs) = none := if_neg h

/-- Characters of which a test holds and does not hold are different. -/
theorem ne_of_test {p : Char → Bool} {c d : Char} (hc : p c = true) (hd : p d = false) : d ≠ c := by
  rintro rfl
  rw [hd] at hc
  cases hc

section Numbers

variable {limits : Limits} {rest : List Char}

theorem digits?_append {digits : List Char} (hne : digits ≠ []) (hdigits : Text.AreDigits digits)
    (hrest : ∀ c ∈ rest.head?, c.isDigit = false) : digits? (digits ++ rest) = some (digits, rest) := by
  have htake : rest.takeWhile Char.isDigit = [] := by
    cases rest with
    | nil => rfl
    | cons c rest => simp [hrest c rfl]
  have hdrop : rest.dropWhile Char.isDigit = rest := by
    cases rest with
    | nil => rfl
    | cons c rest => simp [hrest c rfl]
  rw [digits?, List.takeWhile_append_of_pos hdigits, List.dropWhile_append_of_pos hdigits, htake, hdrop,
    List.append_nil]
  cases digits with
  | nil => exact absurd rfl hne
  | cons d digits => rfl

theorem IsBreak.not_isDigit (h : IsBreak rest) : ∀ c ∈ rest.head?, c.isDigit = false := by
  cases h with
  | finished => exact nofun
  | comma | bracket | brace =>
    intro c hc
    obtain rfl := Option.some.inj hc
    decide

theorem IsBreak.fraction? (h : IsBreak rest) : fraction? rest = some (none, rest) := by
  cases h <;> rfl

theorem IsBreak.exponent? (h : IsBreak rest) : exponent? rest = some (none, rest) := by
  cases h <;> rfl

theorem exists_natDigits_eq_cons (n : Nat) (rest : List Char) :
    ∃ c cs, Text.natDigits n ++ rest = c :: cs ∧ c.isDigit = true := by
  cases hdigits : Text.natDigits n with
  | nil => exact absurd hdigits (Text.natDigits_ne_nil n)
  | cons c cs =>
    refine ⟨c, cs ++ rest, rfl, Text.areDigits_natDigits n c ?_⟩
    rw [hdigits]
    exact List.mem_cons_self

/-- A word that begins with no digit does not begin a text of digits. -/
theorem afterWord?_natDigits {a : Char} (h : a.isDigit = false) (word : List Char) (n : Nat)
    (rest : List Char) : afterWord? (a :: word) (Text.natDigits n ++ rest) = none := by
  obtain ⟨c, cs, heq, hc⟩ := exists_natDigits_eq_cons n rest
  rw [heq]
  exact afterWord?_of_ne (ne_of_test hc h) word cs

theorem not_leadingZero (n : Nat) :
    ¬ ((Text.natDigits n).head? = some '0' ∧ (Text.natDigits n).length ≠ 1) := by
  rintro ⟨hhead, hlength⟩
  rw [Text.natDigits_eq_zero_of_head? hhead] at hlength
  exact hlength rfl

theorem unsigned?_int {n : Nat} (negative : Bool) (hn : (Text.natDigits n).length ≤ limits.digits)
    (hrest : IsBreak rest) : unsigned? limits negative (Text.natDigits n ++ rest) =
      some (.int (if negative then -(n : Int) else n), rest) := by
  have hword : afterWord? ['I', 'n', 'f', 'i', 'n', 'i', 't', 'y'] (Text.natDigits n ++ rest) = none :=
    afterWord?_natDigits (by decide) _ n rest
  have hdigits := digits?_append (Text.natDigits_ne_nil n) (Text.areDigits_natDigits n)
    hrest.not_isDigit
  simp [unsigned?, hword, hdigits, not_leadingZero, hrest.fraction?, hrest.exponent?, Nat.not_lt.mpr hn]

theorem exponentValue?_paddedInt (exponent : Int) (hrest : IsBreak rest) :
    exponentValue? (Text.paddedInt 1 exponent ++ rest) = some (exponent, rest) := by
  have hdigits := digits?_append (Text.natDigits_ne_nil exponent.natAbs)
    (Text.areDigits_natDigits exponent.natAbs) hrest.not_isDigit
  rw [Text.paddedInt_one, Text.sign, List.append_assoc]
  by_cases hneg : exponent < 0
  · have hvalue : -(exponent.natAbs : Int) = exponent := by omega
    rw [if_pos hneg, List.singleton_append, exponentValue?, hdigits]
    simp only [Option.map_some, natOfDigits_natDigits, hvalue]
  · rw [if_neg hneg, List.nil_append]
    obtain ⟨c, cs, heq, hc⟩ := exists_natDigits_eq_cons exponent.natAbs rest
    have hplus := ne_of_test (d := '+') hc (by decide)
    have hminus := ne_of_test (d := '-') hc (by decide)
    have hvalue : (exponent.natAbs : Int) = exponent := by omega
    rw [heq] at hdigits ⊢
    simp [exponentValue?, hplus.symm, hminus.symm, hdigits, hvalue]

theorem unsigned?_decimal (negative : Bool) (mantissa : Nat) (exponent : Int) (hrest : IsBreak rest) :
    unsigned? limits negative
      (Text.natDigits mantissa ++ 'e' :: (Text.paddedInt 1 exponent ++ rest)) =
      some (.decimal negative mantissa exponent, rest) := by
  have hword := afterWord?_natDigits (a := 'I') (by decide) ['n', 'f', 'i', 'n', 'i', 't', 'y'] mantissa
    ('e' :: (Text.paddedInt 1 exponent ++ rest))
  have hletter : ∀ c ∈ ('e' :: (Text.paddedInt 1 exponent ++ rest)).head?, c.isDigit = false := by
    intro c hc
    obtain rfl := Option.some.inj hc
    decide
  have hdigits := digits?_append (Text.natDigits_ne_nil mantissa) (Text.areDigits_natDigits mantissa)
    hletter
  have hfraction (cs : List Char) : fraction? ('e' :: cs) = some (none, 'e' :: cs) := rfl
  simp [unsigned?, hword, hdigits, not_leadingZero, hfraction, exponent?,
    exponentValue?_paddedInt exponent hrest]

/-- A text of digits is read without a sign. -/
theorem number?_natDigits (n : Nat) (rest : List Char) :
    number? limits (Text.natDigits n ++ rest) =
      unsigned? limits false (Text.natDigits n ++ rest) := by
  have hword : afterWord? ['N', 'a', 'N'] (Text.natDigits n ++ rest) = none :=
    afterWord?_natDigits (by decide) _ n rest
  obtain ⟨c, cs, heq, hc⟩ := exists_natDigits_eq_cons n rest
  have hminus := ne_of_test (d := '-') hc (by decide)
  rw [heq] at hword ⊢
  simp [number?, hminus.symm, hword]

/-- A number that is written is read back up to the break behind it. -/
theorem number?_writeNumber {n : JsonNumber} (h : n.Fits limits) (hrest : IsBreak rest) :
    number? limits (writeNumber n ++ rest) = some (n, rest) := by
  cases n with
  | int n =>
    rw [writeNumber, Text.paddedInt_one, Text.sign, List.append_assoc]
    by_cases hneg : n < 0
    · have hvalue : -(n.natAbs : Int) = n := by omega
      rw [if_pos hneg, List.singleton_append, number?, unsigned?_int true h hrest, if_pos rfl, hvalue]
    · have hvalue : (n.natAbs : Int) = n := by omega
      rw [if_neg hneg, List.nil_append, number?_natDigits, unsigned?_int false h hrest]
      simp only [Bool.false_eq_true, if_false, hvalue]
  | decimal negative mantissa exponent =>
    have hread : unsigned? limits negative
        (Text.natDigits mantissa ++ 'e' :: (Text.paddedInt 1 exponent ++ rest)) =
        some (.decimal negative mantissa exponent, rest) :=
      unsigned?_decimal negative mantissa exponent hrest
    rw [writeNumber, List.append_assoc, List.append_assoc, List.cons_append]
    cases negative with
    | true => exact hread
    | false => exact (number?_natDigits mantissa _).trans hread
  | infinite negative =>
    have hread := afterWord?_append "Infinity".toList rest
    cases negative with
    | true =>
      change unsigned? limits true ("Infinity".toList ++ rest) = _
      rw [unsigned?, hread]
    | false =>
      change unsigned? limits false ("Infinity".toList ++ rest) = _
      rw [unsigned?, hread]
  | undefined =>
    have hread := afterWord?_append "NaN".toList rest
    rw [writeNumber]
    unfold number?
    split
    · rename_i heq
      cases heq
    · rw [hread]

end Numbers

section Strings

theorem escapedUnit?_hex {c : Char} (h : c.toNat < 0x20) (rest : List Char) :
    escapedUnit? (Text.hex 4 c.toNat ++ rest) = some (c, rest) := by
  have hunit := unit?_hex (n := c.toNat) (by omega) rest
  have hlow : c.toNat < 0xD800 ∨ 0xE000 ≤ c.toNat := by omega
  simp [escapedUnit?, hunit, hlow, Char.ofNat_toNat]

/-- One step of the reader takes one written character. -/
theorem stringRest?_writeChar (c : Char) (fuel : Nat) (read rest : List Char) :
    stringRest? (fuel + 1) read (writeChar c ++ rest) = stringRest? fuel (c :: read) rest := by
  unfold writeChar
  split
  · rename_i hc
    have hescaped : escaped? (c :: rest) = some (c, rest) := by
      rcases hc with rfl | rfl <;> rfl
    change stringRest? (fuel + 1) read ('\\' :: c :: rest) = _
    simp [stringRest?, hescaped]
  · split
    · rename_i hc
      have hescaped : escaped? ('u' :: (Text.hex 4 c.toNat ++ rest)) = some (c, rest) :=
        escapedUnit?_hex hc rest
      change stringRest? (fuel + 1) read ('\\' :: 'u' :: (Text.hex 4 c.toNat ++ rest)) = _
      simp [stringRest?, hescaped]
    · rename_i hquote hcontrol
      obtain ⟨hne, hslash⟩ := not_or.mp hquote
      rw [List.singleton_append, stringRest?, if_neg hne, if_neg hslash, if_neg hcontrol]

theorem stringRest?_flatMap (cs rest : List Char) {fuel : Nat} (hfuel : cs.length < fuel)
    (read : List Char) : stringRest? fuel read (cs.flatMap writeChar ++ '"' :: rest) =
      some (String.ofList (read.reverse ++ cs), rest) := by
  induction cs generalizing fuel read with
  | nil =>
    obtain ⟨fuel, rfl⟩ := Nat.exists_eq_add_one.mpr (Nat.zero_lt_of_lt hfuel)
    rw [List.append_nil]
    rfl
  | cons c cs ih =>
    obtain ⟨fuel, rfl⟩ := Nat.exists_eq_add_one.mpr (Nat.zero_lt_of_lt hfuel)
    have hrest : cs.length < fuel := by simpa using hfuel
    rw [List.flatMap_cons, List.append_assoc, stringRest?_writeChar, ih hrest, List.reverse_cons,
      List.append_assoc, List.singleton_append]

theorem length_le_flatMap_writeChar (cs : List Char) : cs.length ≤ (cs.flatMap writeChar).length := by
  induction cs with
  | nil => exact Nat.le_refl 0
  | cons c cs ih =>
    have hc : 0 < (writeChar c).length := by
      unfold writeChar
      split
      · exact Nat.succ_pos _
      · split <;> exact Nat.succ_pos _
    rw [List.flatMap_cons, List.length_append, List.length_cons]
    omega

theorem writeString_append (s : String) (rest : List Char) :
    writeString s ++ rest = '"' :: (s.toList.flatMap writeChar ++ '"' :: rest) := by
  simp [writeString]

/-- A written string is read back, whatever follows it. -/
theorem stringRest?_writeString (s : String) (rest : List Char) :
    stringRest? (s.toList.flatMap writeChar ++ '"' :: rest).length []
      (s.toList.flatMap writeChar ++ '"' :: rest) = some (s, rest) := by
  have hfuel : s.toList.length < (s.toList.flatMap writeChar ++ '"' :: rest).length := by
    have := length_le_flatMap_writeChar s.toList
    rw [List.length_append, List.length_cons]
    omega
  rw [stringRest?_flatMap s.toList rest hfuel, List.reverse_nil, List.nil_append, String.ofList_toList]

end Strings

section Values

variable {limits : Limits} {depth : Nat}

theorem skipSpace_cons {c : Char} (h : isSpace c = false) (cs : List Char) :
    skipSpace (c :: cs) = c :: cs := by
  simp [skipSpace, h]

def startsNumber (c : Char) : Bool := c.isDigit || c == '-' || c == 'I' || c == 'N'

theorem exists_signed_eq_cons (n : Int) (rest : List Char) :
    ∃ c cs, Text.sign n ++ Text.natDigits n.natAbs ++ rest = c :: cs ∧ startsNumber c = true := by
  unfold Text.sign
  split
  · exact ⟨'-', _, rfl, by decide⟩
  · obtain ⟨c, cs, heq, hc⟩ := exists_natDigits_eq_cons n.natAbs rest
    exact ⟨c, cs, heq, by simp [startsNumber, hc]⟩

theorem exists_writeNumber_eq_cons (n : JsonNumber) :
    ∃ c cs, writeNumber n = c :: cs ∧ startsNumber c = true := by
  cases n with
  | int n =>
    rw [writeNumber, Text.paddedInt_one, ← List.append_nil (Text.sign n ++ _)]
    exact exists_signed_eq_cons n []
  | decimal negative mantissa exponent =>
    cases negative with
    | true => exact ⟨'-', _, rfl, by decide⟩
    | false =>
      obtain ⟨c, cs, heq, hc⟩ :=
        exists_natDigits_eq_cons mantissa ('e' :: Text.paddedInt 1 exponent)
      exact ⟨c, cs, heq, by simp [startsNumber, hc]⟩
  | infinite negative =>
    cases negative with
    | true => exact ⟨'-', _, rfl, by decide⟩
    | false => exact ⟨'I', _, rfl, by decide⟩
  | undefined => exact ⟨'N', _, rfl, by decide⟩

/-- A written value begins with a character that is no space and closes no array. -/
theorem exists_write_eq_cons (value : Json) :
    ∃ c cs, write value = c :: cs ∧ isSpace c = false ∧ c ≠ ']' := by
  cases value with
  | null => exact ⟨'n', _, rfl, by decide, by decide⟩
  | bool b => cases b with
    | true => exact ⟨'t', _, rfl, by decide, by decide⟩
    | false => exact ⟨'f', _, rfl, by decide, by decide⟩
  | number n =>
    obtain ⟨c, cs, heq, hc⟩ := exists_writeNumber_eq_cons n
    refine ⟨c, cs, heq, ?_, ?_⟩
    · cases hspace : isSpace c with
      | false => rfl
      | true =>
        simp only [isSpace, Bool.or_eq_true, beq_iff_eq] at hspace
        rcases hspace with ((rfl | rfl) | rfl) | rfl <;> cases hc
    · rintro rfl
      cases hc
  | string s => exact ⟨'"', _, rfl, by decide, by decide⟩
  | array items => cases items with
    | nil => exact ⟨'[', _, rfl, by decide, by decide⟩
    | cons item items => exact ⟨'[', _, rfl, by decide, by decide⟩
  | object members => cases members with
    | nil => exact ⟨'\x7b', _, rfl, by decide, by decide⟩
    | cons member members => exact ⟨'\x7b', _, rfl, by decide, by decide⟩

theorem value?_number {c : Char} (hc : startsNumber c = true) (fuel : Nat) (cs : List Char) :
    value? limits (fuel + 1) depth (c :: cs) =
      (number? limits (c :: cs)).map fun (n, rest) => (.number n, rest) := by
  have hnull := afterWord?_of_ne (ne_of_test (d := 'n') hc (by decide)) ['u', 'l', 'l'] cs
  have htrue := afterWord?_of_ne (ne_of_test (d := 't') hc (by decide)) ['r', 'u', 'e'] cs
  have hfalse := afterWord?_of_ne (ne_of_test (d := 'f') hc (by decide)) ['a', 'l', 's', 'e'] cs
  have hquote := ne_of_test (d := '"') hc (by decide)
  have hbracket := ne_of_test (d := '[') hc (by decide)
  have hbrace := ne_of_test (d := '\x7b') hc (by decide)
  simp [value?, hnull, htrue, hfalse, hquote.symm, hbracket.symm, hbrace.symm]

theorem value?_string (fuel : Nat) (cs : List Char) : value? limits (fuel + 1) depth ('"' :: cs) =
    (stringRest? cs.length [] cs).map fun (s, rest) => (.string s, rest) := by
  rw [value?.eq_def]
  rfl

theorem value?_emptyArray (fuel : Nat) (rest : List Char) :
    value? limits (fuel + 1) depth ('[' :: ']' :: rest) = some (.array [], rest) := by
  rw [value?.eq_def]
  rfl

theorem value?_array {c : Char} (hspace : isSpace c = false) (hc : c ≠ ']') (fuel : Nat)
    (cs : List Char) : value? limits (fuel + 1) (depth + 1) ('[' :: c :: cs) =
      (items? limits fuel depth (c :: cs)).map fun (items, rest) => (.array items, rest) := by
  have hskip := skipSpace_cons hspace cs
  simp [value?, hskip, hc]

theorem items?_comma {fuel : Nat} {item : Json} {cs rest : List Char}
    (h : value? limits fuel depth cs = some (item, ',' :: rest)) : items? limits (fuel + 1) depth cs =
      (items? limits fuel depth (skipSpace rest)).map fun (items, rest) => (item :: items, rest) := by
  rw [items?.eq_def]
  dsimp only
  rw [h]
  rfl

theorem items?_bracket {fuel : Nat} {item : Json} {cs rest : List Char}
    (h : value? limits fuel depth cs = some (item, ']' :: rest)) :
    items? limits (fuel + 1) depth cs = some ([item], rest) := by
  rw [items?.eq_def]
  dsimp only
  rw [h]
  rfl

theorem value?_emptyObject (fuel : Nat) (rest : List Char) :
    value? limits (fuel + 1) depth ('\x7b' :: '\x7d' :: rest) = some (.object [], rest) := by
  rw [value?.eq_def]
  rfl

theorem value?_object (fuel : Nat) (cs : List Char) :
    value? limits (fuel + 1) (depth + 1) ('\x7b' :: '"' :: cs) =
      (members? limits fuel depth [] ('"' :: cs)).map fun (members, rest) => (.object members, rest) := by
  rw [value?.eq_def]
  rfl

section Members

variable {fuel : Nat} {name : String} {value : Json} {before : List (String × Json)}
  {cs rest more : List Char}
  (hname : stringRest? cs.length [] cs = some (name, ':' :: rest)) (hrest : skipSpace rest = rest)
include hname hrest

theorem members?_comma (hvalue : value? limits fuel depth rest = some (value, ',' :: more)) :
    members? limits (fuel + 1) depth before ('"' :: cs) =
      members? limits fuel depth (setMember name value before) (skipSpace more) := by
  have hcolon := skipSpace_cons (c := ':') (by decide) rest
  have hcomma := skipSpace_cons (c := ',') (by decide) more
  simp [members?, hname, hcolon, hrest, hvalue, hcomma]

theorem members?_brace (hvalue : value? limits fuel depth rest = some (value, '\x7d' :: more)) :
    members? limits (fuel + 1) depth before ('"' :: cs) =
      some (setMember name value before, more) := by
  have hcolon := skipSpace_cons (c := ':') (by decide) rest
  have hbrace := skipSpace_cons (c := '\x7d') (by decide) more
  simp [members?, hname, hcolon, hrest, hvalue, hbrace]

end Members

theorem setMember_of_not_mem {name : String} {before : List (String × Json)}
    (h : name ∉ before.map Prod.fst) (value : Json) :
    setMember name value before = before ++ [(name, value)] := by
  induction before with
  | nil => rfl
  | cons member before ih =>
    rw [List.map_cons, List.mem_cons, not_or] at h
    rw [setMember, if_neg (Ne.symm h.1), ih h.2]
    rfl

/-- Whether a value is read back from what is written of it, with a break behind it. -/
def IsReread (limits : Limits) (depth : Nat) (value : Json) : Prop :=
  ∀ fuel rest, (write value).length ≤ fuel → IsBreak rest →
    value? limits fuel depth (write value ++ rest) = some (value, rest)

/-- Something is written of every value, so the fuel is not zero. -/
theorem IsReread.of_succ {value : Json} (h : ∀ fuel rest, (write value).length ≤ fuel + 1 →
    IsBreak rest → value? limits (fuel + 1) depth (write value ++ rest) = some (value, rest)) :
    IsReread limits depth value := by
  intro fuel rest hfuel hrest
  obtain ⟨c, cs, heq, -⟩ := exists_write_eq_cons value
  have hpos : 0 < (write value).length := by simp [heq]
  obtain ⟨fuel, rfl⟩ : ∃ more, fuel = more + 1 := Nat.exists_eq_add_one.mpr (by omega)
  exact h fuel rest hfuel hrest

theorem isReread_number {n : JsonNumber} (h : n.Fits limits) :
    IsReread limits depth (.number n) := by
  apply IsReread.of_succ
  intro fuel rest _ hrest
  obtain ⟨c, cs, heq, hc⟩ := exists_writeNumber_eq_cons n
  have hread := number?_writeNumber h hrest
  rw [write, heq, List.cons_append, value?_number hc, ← List.cons_append, ← heq, hread]
  rfl

theorem isReread_string (s : String) : IsReread limits depth (.string s) := by
  apply IsReread.of_succ
  intro fuel rest _ _
  rw [write, writeString_append, value?_string, stringRest?_writeString]
  rfl

theorem skipSpace_write (value : Json) (rest : List Char) :
    skipSpace (write value ++ rest) = write value ++ rest := by
  obtain ⟨c, cs, heq, hspace, -⟩ := exists_write_eq_cons value
  rw [heq]
  exact skipSpace_cons hspace _

/-- The items of an array are read back up to the closing bracket. -/
theorem items?_write {item : Json} {items : List Json}
    (h : ∀ value ∈ item :: items, IsReread limits depth value) {fuel : Nat} (rest : List Char)
    (hfuel : (write item ++ writeItems items).length ≤ fuel) :
    items? limits fuel depth (write item ++ (writeItems items ++ rest)) =
      some (item :: items, rest) := by
  obtain ⟨hitem, hitems⟩ := List.forall_mem_cons.mp h
  induction items generalizing item fuel with
  | nil =>
    rw [List.length_append, writeItems, List.length_singleton] at hfuel
    obtain ⟨fuel, rfl⟩ := Nat.exists_eq_add_one.mpr (Nat.zero_lt_of_lt hfuel)
    exact items?_bracket (hitem fuel (']' :: rest) (by omega) (.bracket rest))
  | cons next items ih =>
    rw [List.length_append, writeItems, List.length_cons] at hfuel
    obtain ⟨fuel, rfl⟩ : ∃ more, fuel = more + 1 := Nat.exists_eq_add_one.mpr (by omega)
    obtain ⟨hnext, hmore⟩ := List.forall_mem_cons.mp hitems
    rw [writeItems, List.cons_append, List.append_assoc,
      items?_comma (hitem fuel _ (by omega) (.comma _)), skipSpace_write,
      ih hitems (by omega) hnext hmore]
    rfl

section WrittenMembers

variable {name : String} {value : Json} {before : List (String × Json)} {fuel : Nat}
  (hvalue : IsReread limits depth value) (hnew : name ∉ before.map Prod.fst)
  (hfuel : (write value).length ≤ fuel) (rest : List Char)
include hvalue hnew hfuel

theorem members?_write_comma : members? limits (fuel + 1) depth before
    (writeString name ++ ':' :: (write value ++ ',' :: rest)) =
      members? limits fuel depth (before ++ [(name, value)]) (skipSpace rest) := by
  rw [writeString_append, members?_comma (stringRest?_writeString name _) (skipSpace_write value _)
    (hvalue fuel _ hfuel (.comma rest)), setMember_of_not_mem hnew]

theorem members?_write_brace : members? limits (fuel + 1) depth before
    (writeString name ++ ':' :: (write value ++ '\x7d' :: rest)) =
      some (before ++ [(name, value)], rest) := by
  rw [writeString_append, members?_brace (stringRest?_writeString name _) (skipSpace_write value _)
    (hvalue fuel _ hfuel (.brace rest)), setMember_of_not_mem hnew]

end WrittenMembers

theorem not_mem_of_nodup_append {name : String} {value : Json} {before members : List (String × Json)}
    (h : ((before ++ (name, value) :: members).map Prod.fst).Nodup) : name ∉ before.map Prod.fst := by
  rw [List.map_append, List.map_cons, List.nodup_append] at h
  intro hmem
  exact h.2.2 name hmem name List.mem_cons_self rfl

theorem skipSpace_writeString (s : String) (rest : List Char) :
    skipSpace (writeString s ++ rest) = writeString s ++ rest := skipSpace_cons (by decide) _

/-- The members of an object are read back up to the closing brace, behind those that were read before. -/
theorem members?_write (before : List (String × Json)) {name : String} {value : Json}
    {members : List (String × Json)} (h : ∀ member ∈ (name, value) :: members, IsReread limits depth member.2)
    (hnames : ((before ++ (name, value) :: members).map Prod.fst).Nodup) {fuel : Nat}
    (rest : List Char)
    (hfuel : (writeString name ++ ':' :: (write value ++ writeMembers members)).length ≤ fuel) :
    members? limits fuel depth before
      (writeString name ++ ':' :: (write value ++ (writeMembers members ++ rest))) =
      some (before ++ (name, value) :: members, rest) := by
  induction members generalizing name value before fuel with
  | nil =>
    have hvalue : IsReread limits depth value := h _ List.mem_cons_self
    rw [List.length_append, List.length_cons, List.length_append] at hfuel
    obtain ⟨fuel, rfl⟩ : ∃ more, fuel = more + 1 := Nat.exists_eq_add_one.mpr (by omega)
    exact members?_write_brace hvalue (not_mem_of_nodup_append hnames) (by omega) rest
  | cons next members ih =>
    obtain ⟨nextName, nextValue⟩ := next
    have hvalue : IsReread limits depth value := h _ List.mem_cons_self
    have hmembers := (List.forall_mem_cons.mp h).2
    rw [List.length_append, List.length_cons, List.length_append, writeMembers, List.length_cons]
      at hfuel
    obtain ⟨fuel, rfl⟩ : ∃ more, fuel = more + 1 := Nat.exists_eq_add_one.mpr (by omega)
    have hsplit : before ++ (name, value) :: (nextName, nextValue) :: members =
        before ++ [(name, value)] ++ (nextName, nextValue) :: members := by simp
    rw [writeMembers, List.cons_append, List.append_assoc, List.cons_append, List.append_assoc,
      members?_write_comma hvalue (not_mem_of_nodup_append hnames) (by omega), skipSpace_writeString,
      hsplit]
    exact ih _ hmembers (hsplit ▸ hnames) (by omega)

theorem isReread_array {items : List Json} (h : ∀ item ∈ items, IsReread limits depth item) :
    IsReread limits (depth + 1) (.array items) := by
  apply IsReread.of_succ
  intro fuel rest hfuel _
  cases items with
  | nil => exact value?_emptyArray fuel rest
  | cons item items =>
    obtain ⟨c, cs, heq, hspace, hc⟩ := exists_write_eq_cons item
    rw [write, List.length_cons] at hfuel
    have hitems := items?_write h rest (Nat.le_of_succ_le_succ hfuel)
    rw [write, List.cons_append, List.append_assoc]
    rw [heq] at hitems ⊢
    rw [List.cons_append, value?_array hspace hc, ← List.cons_append, hitems]
    rfl

theorem isReread_object {members : List (String × Json)} (hnames : (members.map Prod.fst).Nodup)
    (h : ∀ member ∈ members, IsReread limits depth member.2) :
    IsReread limits (depth + 1) (.object members) := by
  apply IsReread.of_succ
  intro fuel rest hfuel _
  cases members with
  | nil => exact value?_emptyObject fuel rest
  | cons member members =>
    obtain ⟨name, value⟩ := member
    rw [write, List.length_cons] at hfuel
    have hmembers := members?_write [] h hnames rest (Nat.le_of_succ_le_succ hfuel)
    rw [write, List.cons_append, List.append_assoc, List.cons_append, List.append_assoc]
    rw [writeString_append] at hmembers ⊢
    rw [value?_object, hmembers]
    rfl

/-- A value that fits the limits of the reader is read back. -/
theorem Fits.isReread {value : Json} (h : Fits limits depth value) : IsReread limits depth value := by
  induction h with
  | number h => exact isReread_number h
  | string s => exact isReread_string s
  | array _ ih => exact isReread_array ih
  | object hnames _ ih => exact isReread_object hnames ih
  | null | emptyArray | emptyObject =>
    apply IsReread.of_succ
    intro fuel rest _ _
    rw [value?.eq_def]
    rfl
  | bool b =>
    apply IsReread.of_succ
    intro fuel rest _ _
    rw [value?.eq_def]
    cases b <;> rfl

/-- What is written of a value that fits the limits of a reader is read as this value. -/
theorem read?_write {value : Json} (h : Fits limits limits.depth value) :
    read? limits (write value) = some value := by
  have hskip := skipSpace_write value []
  have hread := h.isReread (2 * (write value).length + 2) [] (by omega) .finished
  rw [List.append_nil] at hskip hread
  rw [read?, hskip, hread]
  rfl

end Values

end Json

end ResourceBundle
