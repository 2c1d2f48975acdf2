import Mathlib.Data.List.Nodup
import Mathlib.Data.List.TakeWhile
import ResourceBundle.Proofs.DecimalText

/-! # What a reader of JSON can give

A reader limits the digits of integers and the nesting of containers, and of two members with one name it
keeps the later value in the earlier place. So every value that it gives fits its limits. Each step of the
reader keeps this, and the induction is on its fuel. -/

namespace ResourceBundle

/-- Whether a number fits the limits of a reader, which an integer does if it has few enough digits. -/
def JsonNumber.Fits (limits : Json.Limits) : JsonNumber → Prop
  | .int n => (Text.natDigits n.natAbs).length ≤ limits.digits
  | _ => True

namespace Json

/-- Whether a value fits the limits of a reader that may open `depth` more containers with content. The
members of an object that is read have different names. -/
inductive Fits (limits : Limits) : (depth : Nat) → Json → Prop where
  | null {depth : Nat} : Fits limits depth .null
  | bool {depth : Nat} (b : Bool) : Fits limits depth (.bool b)
  | number {depth : Nat} {n : JsonNumber} (h : n.Fits limits) : Fits limits depth (.number n)
  | string {depth : Nat} (s : String) : Fits limits depth (.string s)
  | emptyArray {depth : Nat} : Fits limits depth (.array [])
  | array {depth : Nat} {items : List Json} (h : ∀ item ∈ items, Fits limits depth item) :
      Fits limits (depth + 1) (.array items)
  | emptyObject {depth : Nat} : Fits limits depth (.object [])
  | object {depth : Nat} {members : List (String × Json)} (hnames : (members.map Prod.fst).Nodup)
      (h : ∀ member ∈ members, Fits limits depth member.2) : Fits limits (depth + 1) (.object members)

section Numbers

variable {limits : Limits}

theorem areDigits_of_digits? {cs digits rest : List Char} (h : digits? cs = some (digits, rest)) :
    Text.AreDigits digits ∧ digits ≠ [] := by
  unfold digits? at h
  split at h
  · cases h
  · rename_i hne
    obtain ⟨rfl, -⟩ := Prod.mk.inj (Option.some.inj h)
    exact ⟨fun c hc => List.mem_takeWhile_imp hc, hne⟩

/-- A number has no more digits than the sequence of digits that denotes it. -/
theorem length_natDigits_natOfDigits {digits : List Char} (hne : digits ≠ [])
    (hdigits : Text.AreDigits digits) :
    (Text.natDigits (natOfDigits digits)).length ≤ digits.length := by
  apply Text.length_natDigits_le (List.length_pos_iff.mpr hne)
  rw [natOfDigits_eq]
  exact Text.ofDigitChars_lt hdigits

theorem fits_of_unsigned? {negative : Bool} {cs rest : List Char} {n : JsonNumber}
    (h : unsigned? limits negative cs = some (n, rest)) : n.Fits limits := by
  unfold unsigned? at h
  split at h
  · cases h
    trivial
  · obtain ⟨⟨whole, afterWhole⟩, hwhole, h⟩ := Option.bind_eq_some_iff.mp h
    dsimp only at h
    split at h
    · cases h
    · obtain ⟨⟨fraction, afterFraction⟩, -, h⟩ := Option.bind_eq_some_iff.mp h
      obtain ⟨⟨exponent, afterExponent⟩, -, h⟩ := Option.bind_eq_some_iff.mp h
      dsimp only at h
      split at h
      · split at h
        · cases h
        · rename_i hlimit
          cases h
          obtain ⟨hdigits, hne⟩ := areDigits_of_digits? hwhole
          have hlength := length_natDigits_natOfDigits hne hdigits
          have hvalue : (if negative = true then -(natOfDigits whole : Int)
              else (natOfDigits whole : Int)).natAbs = natOfDigits whole := by
            split <;> omega
          rw [JsonNumber.Fits, hvalue]
          omega
      · cases h
        trivial

theorem fits_of_number? {cs rest : List Char} {n : JsonNumber}
    (h : number? limits cs = some (n, rest)) : n.Fits limits := by
  unfold number? at h
  split at h
  · exact fits_of_unsigned? h
  · split at h
    · cases h
      trivial
    · exact fits_of_unsigned? h

end Numbers

section Members

variable {name : String} {value : Json} {members : List (String × Json)}

theorem mem_setMember {member : String × Json} (h : member ∈ setMember name value members) :
    member = (name, value) ∨ member ∈ members := by
  induction members with
  | nil => exact .inl (List.mem_singleton.mp h)
  | cons first members ih =>
    obtain ⟨other, old⟩ := first
    rw [setMember] at h
    split at h
    · rcases List.mem_cons.mp h with hnew | hmem
      · exact .inl hnew
      · exact .inr (List.mem_cons_of_mem _ hmem)
    · rcases List.mem_cons.mp h with hold | hmem
      · exact .inr (List.mem_cons.mpr (.inl hold))
      · exact (ih hmem).imp id (List.mem_cons_of_mem _)

theorem nodup_setMember (h : (members.map Prod.fst).Nodup) :
    ((setMember name value members).map Prod.fst).Nodup := by
  induction members with
  | nil => exact List.nodup_singleton name
  | cons first members ih =>
    obtain ⟨other, old⟩ := first
    obtain ⟨hother, hmembers⟩ := List.nodup_cons.mp h
    rw [setMember]
    split
    · rename_i hsame
      exact List.nodup_cons.mpr ⟨hsame ▸ hother, hmembers⟩
    · rename_i hdifferent
      refine List.nodup_cons.mpr ⟨fun hmem => ?_, ih hmembers⟩
      obtain ⟨member, hmember, hname⟩ := List.mem_map.mp hmem
      rcases mem_setMember hmember with rfl | hold
      · exact hdifferent hname.symm
      · exact hother (List.mem_map.mpr ⟨member, hold, hname⟩)

end Members

section Values

variable {limits : Limits}

/-- The values that a reader gives with some fuel fit its limits. -/
structure Fitting (limits : Limits) (fuel : Nat) : Prop where
  value : ∀ {depth cs value rest}, value? limits fuel depth cs = some (value, rest) →
    Fits limits depth value
  items : ∀ {depth cs items rest}, items? limits fuel depth cs = some (items, rest) →
    ∀ item ∈ items, Fits limits depth item
  members : ∀ {depth before cs members rest}, (before.map Prod.fst).Nodup →
    (∀ member ∈ before, Fits limits depth member.2) →
    members? limits fuel depth before cs = some (members, rest) →
    (members.map Prod.fst).Nodup ∧ ∀ member ∈ members, Fits limits depth member.2

theorem Fitting.value_succ {fuel : Nat} (h : Fitting limits fuel) {depth : Nat} {cs rest : List Char}
    {value : Json} (hread : value? limits (fuel + 1) depth cs = some (value, rest)) :
    Fits limits depth value := by
  rw [value?.eq_def] at hread
  dsimp only at hread
  split at hread
  · obtain ⟨_, _, heq⟩ := Option.map_eq_some_iff.mp hread
    cases heq
    exact .string _
  · split at hread
    · cases hread
      exact .emptyArray
    · split at hread
      · cases hread
      · rename_i hdepth
        obtain ⟨⟨items, _⟩, hitems, heq⟩ := Option.map_eq_some_iff.mp hread
        cases heq
        obtain ⟨depth, rfl⟩ := Nat.exists_eq_succ_of_ne_zero hdepth
        exact .array (h.items hitems)
  · split at hread
    · cases hread
      exact .emptyObject
    · split at hread
      · cases hread
      · rename_i hdepth
        obtain ⟨⟨members, _⟩, hmembers, heq⟩ := Option.map_eq_some_iff.mp hread
        cases heq
        obtain ⟨depth, rfl⟩ := Nat.exists_eq_succ_of_ne_zero hdepth
        have hnames : (([] : List (String × Json)).map Prod.fst).Nodup := List.nodup_nil
        obtain ⟨hnames, hfits⟩ := h.members hnames (by simp) hmembers
        exact .object hnames hfits
  · split at hread
    · cases hread
      exact .null
    · cases hread
      exact .bool true
    · cases hread
      exact .bool false
    · obtain ⟨⟨n, _⟩, hn, heq⟩ := Option.map_eq_some_iff.mp hread
      cases heq
      exact .number (fits_of_number? hn)

theorem Fitting.items_succ {fuel : Nat} (h : Fitting limits fuel) {depth : Nat} {cs rest : List Char}
    {items : List Json} (hread : items? limits (fuel + 1) depth cs = some (items, rest)) :
    ∀ item ∈ items, Fits limits depth item := by
  rw [items?.eq_def] at hread
  dsimp only at hread
  split at hread
  · cases hread
  · rename_i hitem
    split at hread
    · obtain ⟨⟨more, _⟩, hmore, heq⟩ := Option.map_eq_some_iff.mp hread
      cases heq
      exact List.forall_mem_cons.mpr ⟨h.value hitem, h.items hmore⟩
    · cases hread
      exact List.forall_mem_singleton.mpr (h.value hitem)
    · cases hread

theorem Fitting.members_succ {fuel : Nat} (h : Fitting limits fuel) {depth : Nat}
    {cs rest : List Char} {before members : List (String × Json)}
    (hnames : (before.map Prod.fst).Nodup) (hbefore : ∀ member ∈ before, Fits limits depth member.2)
    (hread : members? limits (fuel + 1) depth before cs = some (members, rest)) :
    (members.map Prod.fst).Nodup ∧ ∀ member ∈ members, Fits limits depth member.2 := by
  rw [members?.eq_def] at hread
  dsimp only at hread
  split at hread
  · split at hread
    · cases hread
    · split at hread
      · split at hread
        · cases hread
        · rename_i name _ _ _ _ _ _ value _ hvalue
          -- The new member has a value that fits, whether its name was there before or not.
          have hset : ∀ member ∈ setMember name value before, Fits limits depth member.2 := by
            intro member hmember
            rcases mem_setMember hmember with rfl | hold
            · exact h.value hvalue
            · exact hbefore member hold
          split at hread
          · exact h.members (nodup_setMember hnames) hset hread
          · cases hread
            exact ⟨nodup_setMember hnames, hset⟩
          · cases hread
      · cases hread
  · cases hread

theorem fitting (limits : Limits) (fuel : Nat) : Fitting limits fuel := by
  induction fuel with
  | zero =>
    refine ⟨fun hread => ?_, fun hread => ?_, fun _ _ hread => ?_⟩
    · rw [value?.eq_def] at hread
      cases hread
    · rw [items?.eq_def] at hread
      cases hread
    · rw [members?.eq_def] at hread
      cases hread
  | succ fuel ih => exact ⟨ih.value_succ, ih.items_succ, ih.members_succ⟩

/-- A value that is read from a text fits the limits of the reader. -/
theorem fits_of_read? {text : List Char} {value : Json} (h : read? limits text = some value) :
    Fits limits limits.depth value := by
  unfold read? at h
  split at h
  · rename_i hvalue
    split at h
    · cases h
      exact (fitting limits _).value hvalue
    · cases h
  · cases h

end Values

end Json

end ResourceBundle
