import Mathlib.Data.List.TakeWhile
import ResourceBundle.Key

/-! # How keys are derived

An id that is not blank is kept. If it is blank, the id comes from the name of the element: a constant lends
its name, a method the property that it reads or writes, and a field what follows its member prefix, what
follows the use at its first underscore, or its whole name. These rules are stated as a relation, with the
two ways in which they fail, and the derivation follows them. The laws of the derived use and id are read
off the rules. -/

namespace ResourceBundle

namespace TextUse

theorem ofText?_eq_some_iff {s : String} {use : TextUse} : ofText? s = some use ↔ use.text = s := by
  constructor
  · intro h
    have hfound := List.find?_some h
    exact beq_iff_eq.mp hfound
  · rintro rfl
    exact ofText?_text use

theorem ofText?_eq_none_iff {s : String} : ofText? s = none ↔ ∀ use : TextUse, use.text ≠ s := by
  constructor
  · intro h use huse
    rw [ofText?_eq_some_iff.mpr huse] at h
    cases h
  · intro h
    cases hfound : ofText? s with
    | none => rfl
    | some use => exact absurd (ofText?_eq_some_iff.mp hfound) (h use)

theorem score_not_mem_text_iff (use : TextUse) : '_' ∉ use.text.toList ↔ use ≠ .unspecified := by
  cases use <;> decide

theorem orElse_eq_self {use : TextUse} (h : use ≠ .unspecified) (default : TextUse) :
    use.orElse default = use := if_neg h

theorem orElse_ne_unspecified (use : TextUse) {default : TextUse} (h : default ≠ .unspecified) :
    use.orElse default ≠ .unspecified := by
  by_cases huse : use = .unspecified
  · rw [orElse, if_pos huse]
    exact h
  · rw [orElse_eq_self huse]
    exact huse

theorem orElse_orElse (use : TextUse) {default : TextUse} (h : default ≠ .unspecified)
    (further : TextUse) : (use.orElse default).orElse further = use.orElse default :=
  orElse_eq_self (use.orElse_ne_unspecified h) further

end TextUse

namespace Key

/-- Whether nothing is left at the end of a name, or a line feed. -/
def IsEnd (tail : List Char) : Prop := tail = [] ∨ tail = ['\n']

/-- Whether a text can be a property: it begins with a capital letter of ASCII, an underscore or a dollar
sign, and goes on with word characters and dollar signs. -/
def IsProperty (property : List Char) : Prop :=
  ∃ c rest, property = c :: rest ∧ isPropertyStart c = true ∧ ∀ d ∈ rest, isPropertyChar d = true

/-- Whether a name is that of a getter, setter or adder of a property, up to a line feed at its end. -/
def IsAccessor (name property : List Char) : Prop :=
  IsProperty property ∧ ∃ start ∈ ["get", "set", "add", "is"], ∃ tail, IsEnd tail ∧
    name = start.toList ++ (property ++ tail)

/-- Whether a name falls apart at its first underscore, which has at least two characters before it. -/
structure SplitsAt (name part rest : List Char) : Prop where
  name_eq : name = part ++ '_' :: rest
  first : '_' ∉ part
  long : 2 ≤ part.length

theorem after?_eq_some_iff {start cs rest : List Char} :
    after? start cs = some rest ↔ cs = start ++ rest := by
  induction start generalizing cs with
  | nil => exact Option.some_inj
  | cons a start ih =>
    cases cs with
    | nil => exact ⟨nofun, nofun⟩
    | cons c cs =>
      by_cases h : a = c
      · rw [after?, if_pos h, ih, h, List.cons_append, List.cons.injEq]
        simp
      · rw [after?, if_neg h, List.cons_append, List.cons.injEq]
        simp [Ne.symm h]

theorem takeWhile_isPropertyChar {rest tail : List Char} (hrest : ∀ d ∈ rest, isPropertyChar d = true)
    (htail : IsEnd tail) : (rest ++ tail).takeWhile isPropertyChar = rest := by
  rw [List.takeWhile_append_of_pos hrest]
  rcases htail with rfl | rfl
  · simp
  · have hfeed : isPropertyChar '\n' = false := by decide
    simp [hfeed]

theorem property?_eq_some_iff {cs property : List Char} : property? cs = some property ↔
    IsProperty property ∧ ∃ tail, IsEnd tail ∧ cs = property ++ tail := by
  constructor
  · intro h
    cases cs with
    | nil => cases h
    | cons c rest =>
      rw [property?] at h
      split at h
      · rename_i hstart
        dsimp only at h
        split at h
        · rename_i hend
          obtain rfl := Option.some.inj h
          refine ⟨⟨c, _, rfl, hstart, fun d hd => List.mem_takeWhile_imp hd⟩, _, hend, ?_⟩
          rw [List.cons_append, List.takeWhile_append_dropWhile]
        · cases h
      · cases h
  · rintro ⟨⟨c, rest, rfl, hstart, hrest⟩, tail, htail, rfl⟩
    have htake := takeWhile_isPropertyChar hrest htail
    have hdrop : (rest ++ tail).dropWhile isPropertyChar = tail := by
      have hboth := List.takeWhile_append_dropWhile (p := isPropertyChar) (l := rest ++ tail)
      rw [htake] at hboth
      exact List.append_cancel_left hboth
    rw [List.cons_append, property?, if_pos hstart]
    dsimp only
    rw [hdrop, htake]
    exact if_pos htail

theorem isAccessor_iff {name property : List Char} : IsAccessor name property ↔
    ∃ start ∈ accessorStarts, (after? start name).bind property? = some property := by
  simp only [IsAccessor, accessorStarts, List.mem_cons, List.not_mem_nil, or_false,
    Option.bind_eq_some_iff, after?_eq_some_iff, property?_eq_some_iff]
  constructor
  · rintro ⟨hproperty, start, hstart, tail, htail, rfl⟩
    refine ⟨start.toList, ?_, _, rfl, hproperty, tail, htail, rfl⟩
    rcases hstart with rfl | rfl | rfl | rfl <;> simp
  · rintro ⟨start, hstart, _, rfl, hproperty, tail, htail, rfl⟩
    refine ⟨hproperty, String.ofList start, ?_, tail, htail, ?_⟩
    · rcases hstart with rfl | rfl | rfl | rfl <;> simp
    · rw [String.toList_ofList]

theorem isAccessor_of_propertyName? {method property : String}
    (h : propertyName? method = some property) : IsAccessor method.toList property.toList := by
  obtain ⟨own, hown, rfl⟩ := Option.map_eq_some_iff.mp h
  obtain ⟨start, hstart, hproperty⟩ := List.exists_of_findSome?_eq_some hown
  rw [String.toList_ofList]
  exact isAccessor_iff.mpr ⟨start, hstart, hproperty⟩

theorem propertyName?_eq_none_iff {method : String} :
    propertyName? method = none ↔ ∀ property, ¬ IsAccessor method.toList property := by
  simp only [propertyName?, Option.map_eq_none_iff, List.findSome?_eq_none_iff, isAccessor_iff]
  constructor
  · rintro h property ⟨start, hstart, hproperty⟩
    rw [h start hstart] at hproperty
    cases hproperty
  · intro h start hstart
    cases hproperty : (after? start method.toList).bind property? with
    | none => rfl
    | some property => exact absurd ⟨start, hstart, hproperty⟩ (h property)

theorem underscore?_append {part : List Char} (h : '_' ∉ part) (rest : List Char) :
    underscore? (part ++ '_' :: rest) = some part.length := by
  have hpart : part.findIdx? (· == '_') = none := by
    rw [List.findIdx?_eq_none_iff]
    intro c hc
    exact beq_eq_false_iff_ne.mpr fun hscore => h (hscore ▸ hc)
  simp [underscore?, List.findIdx?_append, hpart, List.findIdx?_cons]

theorem SplitsAt.not_member {name part rest : List Char} (h : SplitsAt name part rest) :
    ¬ ['m', '_'] <+: name := by
  rintro ⟨tail, htail⟩
  obtain ⟨rfl, hfirst, hlong⟩ := h
  match part, hfirst, hlong with
  | a :: b :: part, hfirst, _ =>
    obtain ⟨-, hb⟩ := List.cons.inj htail
    obtain ⟨rfl, -⟩ := List.cons.inj hb
    exact hfirst (by simp)

theorem SplitsAt.unique {name part rest part' rest' : List Char} (h : SplitsAt name part rest)
    (h' : SplitsAt name part' rest') : part = part' ∧ rest = rest' := by
  have hlength : part.length = part'.length := by
    have hposition := underscore?_append h.first rest
    rw [← h.name_eq, h'.name_eq, underscore?_append h'.first] at hposition
    exact (Option.some.inj hposition).symm
  obtain ⟨hpart, hrest⟩ := List.append_inj (h.name_eq.symm.trans h'.name_eq) hlength
  exact ⟨hpart, (List.cons.inj hrest).2⟩

/-- How an element of a known kind comes to its use and its id, or fails to. -/
inductive Derivation (name explicitId : String) (use : TextUse) :
    ElementKind → Except Failure DerivedKey → Prop where
  | explicit {kind : ElementKind} (default : TextUse) (hdefault : default ≠ .unspecified)
      (hid : Text.isBlankText explicitId = false) :
      Derivation name explicitId use kind (.ok ⟨use.orElse default, explicitId⟩)
  | constant (hid : Text.isBlankText explicitId = true) :
      Derivation name explicitId use .enumConstant (.ok ⟨use.orElse .string, name⟩)
  | accessor {property : String} (hid : Text.isBlankText explicitId = true)
      (hname : IsAccessor name.toList property.toList) :
      Derivation name explicitId use .method (.ok ⟨use.orElse .name, property⟩)
  | noAccessor (hid : Text.isBlankText explicitId = true)
      (hname : ∀ property, ¬ IsAccessor name.toList property) :
      Derivation name explicitId use .method (.error (.missingId name))
  | member {rest : List Char} (hid : Text.isBlankText explicitId = true)
      (hname : name.toList = ['m', '_'] ++ rest) :
      Derivation name explicitId use .field (.ok ⟨use.orElse .txt, String.ofList rest⟩)
  | split {parsed : TextUse} {rest : List Char} (hid : Text.isBlankText explicitId = true)
      (hname : SplitsAt name.toList parsed.text.toList rest) :
      Derivation name explicitId use .field (.ok ⟨parsed, String.ofList rest⟩)
  | unknown {part rest : List Char} (hid : Text.isBlankText explicitId = true)
      (hname : SplitsAt name.toList part rest) (hpart : ∀ other : TextUse, other.text.toList ≠ part) :
      Derivation name explicitId use .field (.error (.unknownUse name (String.ofList part)))
  | whole (hid : Text.isBlankText explicitId = true) (hmember : ¬ ['m', '_'] <+: name.toList)
      (hsplit : ∀ part rest, ¬ SplitsAt name.toList part rest) :
      Derivation name explicitId use .field (.ok ⟨use.orElse .txt, name⟩)

section Field

variable {name : String} {use : TextUse} {part rest : List Char}

theorem ofField_of_member (h : name.toList = ['m', '_'] ++ rest) :
    ofField name use = .ok ⟨use, String.ofList rest⟩ := by
  unfold ofField
  rw [h]
  rfl

/-- Without a member prefix, the first underscore decides. -/
theorem ofField_of_not_member (h : ¬ ['m', '_'] <+: name.toList) : ofField name use =
    match underscore? name.toList with
    | some position =>
      if 1 < position then
        match TextUse.ofText? (String.ofList (name.toList.take position)) with
        | some parsed => .ok ⟨parsed, String.ofList (name.toList.drop (position + 1))⟩
        | none => .error (.unknownUse name (String.ofList (name.toList.take position)))
      else
        .ok ⟨use, name⟩
    | none => .ok ⟨use, name⟩ := by
  unfold ofField
  split
  · rename_i rest hname
    exact absurd ⟨rest, hname.symm⟩ h
  · rfl

theorem ofField_of_splitsAt (h : SplitsAt name.toList part rest) : ofField name use =
    match TextUse.ofText? (String.ofList part) with
    | some parsed => .ok ⟨parsed, String.ofList rest⟩
    | none => .error (.unknownUse name (String.ofList part)) := by
  have hposition : underscore? name.toList = some part.length := by
    rw [h.name_eq, underscore?_append h.first]
  have htake : name.toList.take part.length = part := by rw [h.name_eq, List.take_left]
  have hdrop : name.toList.drop (part.length + 1) = rest := by
    rw [h.name_eq, ← List.drop_drop, List.drop_left]
    rfl
  rw [ofField_of_not_member h.not_member, hposition]
  dsimp only
  rw [htake, hdrop]
  exact if_pos h.long

theorem ofField_of_not_splitsAt (hmember : ¬ ['m', '_'] <+: name.toList)
    (h : ∀ part rest, ¬ SplitsAt name.toList part rest) : ofField name use = .ok ⟨use, name⟩ := by
  rw [ofField_of_not_member hmember]
  by_cases hscore : '_' ∈ name.toList
  · obtain ⟨part, rest, hname, hfirst⟩ := List.eq_append_cons_of_mem hscore
    have hshort : ¬ 1 < part.length := fun hlong => h part rest ⟨hname, hfirst, hlong⟩
    rw [hname, underscore?_append hfirst]
    exact if_neg hshort
  · have hnone : underscore? name.toList = none := by
      rw [underscore?, List.findIdx?_eq_none_iff]
      intro c hc
      exact beq_eq_false_iff_ne.mpr fun heq => hscore (heq ▸ hc)
    rw [hnone]

end Field

theorem derive_of_ofElement {kind : ElementKind} {name explicitId : String} {use : TextUse}
    {key : DerivedKey} (h : ofElement kind name explicitId use = .ok key) :
    derive kind name explicitId use = .ok ⟨key.use.orElse .txt, key.id⟩ := by
  rw [derive, h]
  rfl

theorem derive_of_ofElement_error {kind : ElementKind} {name explicitId : String} {use : TextUse}
    {failure : Failure} (h : ofElement kind name explicitId use = .error failure) :
    derive kind name explicitId use = .error failure := by
  rw [derive, h]
  rfl

section Derive

variable (name : String) {explicitId : String} (use : TextUse)

theorem derivation_of_not_blank {kind : ElementKind} (hkind : ∀ other, kind ≠ .other other)
    (hid : Text.isBlankText explicitId = false) :
    Derivation name explicitId use kind (derive kind name explicitId use) := by
  cases kind with
  | enumConstant =>
    have hkey : ofElement .enumConstant name explicitId use =
        .ok ⟨use.orElse .string, explicitId⟩ := by simp [ofElement, hid]
    rw [derive_of_ofElement hkey, TextUse.orElse_orElse use (by decide)]
    exact .explicit .string (by decide) hid
  | method =>
    have hkey : ofElement .method name explicitId use = .ok ⟨use, explicitId⟩ := by
      simp [ofElement, hid]
    rw [derive_of_ofElement hkey]
    exact .explicit .txt (by decide) hid
  | field =>
    have hkey : ofElement .field name explicitId use = .ok ⟨use, explicitId⟩ := by
      simp [ofElement, hid]
    rw [derive_of_ofElement hkey]
    exact .explicit .txt (by decide) hid
  | other name => exact absurd rfl (hkind name)

variable (hid : Text.isBlankText explicitId = true)
include hid

theorem derivation_constant :
    Derivation name explicitId use .enumConstant (derive .enumConstant name explicitId use) := by
  have hkey : ofElement .enumConstant name explicitId use = .ok ⟨use.orElse .string, name⟩ := by
    simp [ofElement, hid]
  rw [derive_of_ofElement hkey, TextUse.orElse_orElse use (by decide)]
  exact .constant hid

theorem derivation_method :
    Derivation name explicitId use .method (derive .method name explicitId use) := by
  cases hproperty : propertyName? name with
  | some property =>
    have hkey : ofElement .method name explicitId use = .ok ⟨use.orElse .name, property⟩ := by
      simp [ofElement, hid, hproperty]
    rw [derive_of_ofElement hkey, TextUse.orElse_orElse use (by decide)]
    exact .accessor hid (isAccessor_of_propertyName? hproperty)
  | none =>
    have hfailure : ofElement .method name explicitId use = .error (.missingId name) := by
      simp [ofElement, hid, hproperty]
    rw [derive_of_ofElement_error hfailure]
    exact .noAccessor hid (propertyName?_eq_none_iff.mp hproperty)

theorem derivation_splitsAt {part rest : List Char} (hname : SplitsAt name.toList part rest) :
    Derivation name explicitId use .field (derive .field name explicitId use) := by
  have hfield : ofElement .field name explicitId use = ofField name use := by simp [ofElement, hid]
  rw [ofField_of_splitsAt hname] at hfield
  cases hpart : TextUse.ofText? (String.ofList part) with
  | some parsed =>
    rw [hpart] at hfield
    have htext : parsed.text.toList = part := by
      rw [TextUse.ofText?_eq_some_iff.mp hpart, String.toList_ofList]
    subst htext
    rw [derive_of_ofElement hfield,
      TextUse.orElse_eq_self (parsed.score_not_mem_text_iff.mp hname.first)]
    exact .split hid hname
  | none =>
    rw [hpart] at hfield
    rw [derive_of_ofElement_error hfield]
    refine .unknown hid hname fun other hother => ?_
    apply TextUse.ofText?_eq_none_iff.mp hpart other
    rw [← hother, String.ofList_toList]

theorem derivation_field :
    Derivation name explicitId use .field (derive .field name explicitId use) := by
  have hfield : ofElement .field name explicitId use = ofField name use := by simp [ofElement, hid]
  by_cases hmember : ['m', '_'] <+: name.toList
  · obtain ⟨rest, hrest⟩ := hmember
    rw [derive_of_ofElement (hfield.trans (ofField_of_member hrest.symm))]
    exact .member hid hrest.symm
  · by_cases hsplit : ∃ part rest, SplitsAt name.toList part rest
    · obtain ⟨part, rest, hname⟩ := hsplit
      exact derivation_splitsAt name use hid hname
    · have hnone : ∀ part rest, ¬ SplitsAt name.toList part rest := fun part rest hname =>
        hsplit ⟨part, rest, hname⟩
      rw [derive_of_ofElement (hfield.trans (ofField_of_not_splitsAt hmember hnone))]
      exact .whole hid hmember hnone

end Derive

/-- The derivation of keys follows its rules. -/
theorem derivation_derive {kind : ElementKind} (hkind : ∀ other, kind ≠ .other other)
    (name explicitId : String) (use : TextUse) :
    Derivation name explicitId use kind (derive kind name explicitId use) := by
  cases hid : Text.isBlankText explicitId with
  | false => exact derivation_of_not_blank name use hkind hid
  | true =>
    cases kind with
    | enumConstant => exact derivation_constant name use hid
    | method => exact derivation_method name use hid
    | field => exact derivation_field name use hid
    | other kindName => exact absurd rfl (hkind kindName)

namespace Derivation

variable {name explicitId : String} {use : TextUse} {kind : ElementKind}

theorem exists_ok {outcome : Except Failure DerivedKey}
    (h : Derivation name explicitId use kind outcome) (hid : ¬ Text.isBlankText explicitId = true) :
    ∃ own, outcome = .ok ⟨own, explicitId⟩ := by
  cases h with
  | explicit default _ _ => exact ⟨_, rfl⟩
  | constant hblank | accessor hblank _ | noAccessor hblank _ | member hblank _ | split hblank _
  | unknown hblank _ _ | whole hblank _ _ => exact absurd hblank hid

theorem eq_error_iff {outcome : Except Failure DerivedKey}
    (h : Derivation name explicitId use kind outcome) (failure : Failure) :
    outcome = .error failure ↔ Text.isBlankText explicitId = true ∧
      (kind = .method ∧ (∀ property, ¬ IsAccessor name.toList property) ∧
          failure = .missingId name ∨
        kind = .field ∧ ¬ ['m', '_'] <+: name.toList ∧ ∃ part rest, SplitsAt name.toList part rest ∧
          (∀ other : TextUse, other.text.toList ≠ part) ∧
          failure = .unknownUse name (String.ofList part)) := by
  constructor
  · intro heq
    cases h with
    | noAccessor hid hname =>
      cases heq
      exact ⟨hid, .inl ⟨rfl, hname, rfl⟩⟩
    | unknown hid hname hpart =>
      cases heq
      exact ⟨hid, .inr ⟨rfl, hname.not_member, _, _, hname, hpart, rfl⟩⟩
    | explicit | constant | accessor | member | split | whole => cases heq
  · rintro ⟨hid, ⟨rfl, hnone, rfl⟩ | ⟨rfl, hmember, part, rest, hsplit, hother, rfl⟩⟩
    · cases h with
      | explicit _ _ hblank => rw [hid] at hblank; cases hblank
      | accessor _ hname => exact absurd hname (hnone _)
      | noAccessor => rfl
    · cases h with
      | explicit _ _ hblank => rw [hid] at hblank; cases hblank
      | member _ hname => exact absurd ⟨_, hname.symm⟩ hmember
      | split _ hname => exact absurd (hname.unique hsplit).1 (hother _)
      | unknown _ hname _ => rw [(hname.unique hsplit).1]
      | whole _ _ hnone => exact absurd hsplit (hnone part rest)

variable {key : DerivedKey} (h : Derivation name explicitId use kind (.ok key))
include h

theorem use_ne_unspecified : key.use ≠ .unspecified := by
  cases h with
  | explicit default hdefault _ => exact use.orElse_ne_unspecified hdefault
  | constant | accessor | member | whole => exact use.orElse_ne_unspecified (by decide)
  | split _ hname => exact (TextUse.score_not_mem_text_iff _).mp hname.first

theorem use_eq_or_split (huse : use ≠ .unspecified) : key.use = use ∨
    Text.isBlankText explicitId = true ∧ kind = .field ∧
      ∃ rest, SplitsAt name.toList key.use.text.toList rest := by
  cases h with
  | explicit | constant | accessor | member | whole => exact .inl (TextUse.orElse_eq_self huse _)
  | split hid hname => exact .inr ⟨hid, rfl, _, hname⟩

theorem exists_name_eq (hid : Text.isBlankText explicitId = true) :
    ∃ front tail, IsEnd tail ∧ name.toList = front ++ (key.id.toList ++ tail) := by
  cases h with
  | explicit _ _ hblank => rw [hid] at hblank; cases hblank
  | constant | whole => exact ⟨[], [], .inl rfl, (List.append_nil _).symm⟩
  | accessor _ hname =>
    obtain ⟨_, start, _, tail, htail, hname⟩ := hname
    exact ⟨start.toList, tail, htail, hname⟩
  | member _ hname =>
    refine ⟨['m', '_'], [], .inl rfl, ?_⟩
    rw [hname, String.toList_ofList, List.append_nil]
  | @split parsed rest _ hname =>
    refine ⟨parsed.text.toList ++ ['_'], [], .inl rfl, ?_⟩
    rw [hname.name_eq, String.toList_ofList, List.append_nil, List.append_assoc]
    rfl

end Derivation

/-- The laws of derived keys, for an element of a known kind. An id that is not blank is kept. The
derivation fails exactly for a blank id, if the element is a method that is no accessor, or a field whose
name is split after something that is no use. A derived use is never open; a use that was chosen is kept,
unless a blank id makes the name of a field split at a use, which is then taken. For a blank id, the
derived id is the end of the name, up to a line feed. -/
theorem derive_laws {kind : ElementKind} (hkind : ∀ other, kind ≠ .other other)
    (name explicitId : String) (use : TextUse) :
    let blank := Text.isBlankText explicitId = true
    let outcome := derive kind name explicitId use
    (¬ blank → ∃ own, outcome = .ok ⟨own, explicitId⟩) ∧
    (∀ failure, outcome = .error failure ↔ blank ∧
      (kind = .method ∧ (∀ property, ¬ IsAccessor name.toList property) ∧
          failure = .missingId name ∨
        kind = .field ∧ ¬ ['m', '_'] <+: name.toList ∧ ∃ part rest, SplitsAt name.toList part rest ∧
          (∀ other : TextUse, other.text.toList ≠ part) ∧
          failure = .unknownUse name (String.ofList part))) ∧
    ∀ key, outcome = .ok key →
      key.use ≠ .unspecified ∧
      (use ≠ .unspecified → key.use = use ∨
        blank ∧ kind = .field ∧ ∃ rest, SplitsAt name.toList key.use.text.toList rest) ∧
      (blank → ∃ front tail, IsEnd tail ∧ name.toList = front ++ (key.id.toList ++ tail)) := by
  intro blank outcome
  have hrules : Derivation name explicitId use kind outcome :=
    derivation_derive hkind name explicitId use
  refine ⟨hrules.exists_ok, hrules.eq_error_iff, fun key hkey => ?_⟩
  rw [hkey] at hrules
  exact ⟨hrules.use_ne_unspecified, hrules.use_eq_or_split, hrules.exists_name_eq⟩

/-- The name of a field that is split at a use overrides the use that was chosen. -/
theorem derive_laws_caption : (∀ other, ElementKind.field ≠ .other other) ∧
    derive .field "CAPTION_Save" " " .tooltip = .ok ⟨.caption, "Save"⟩ ∧
    ∃ rest, SplitsAt "CAPTION_Save".toList "CAPTION".toList rest := by
  have hkind : ∀ other, ElementKind.field ≠ .other other := fun _ => nofun
  have hkey : derive .field "CAPTION_Save" " " .tooltip = .ok ⟨.caption, "Save"⟩ := by decide
  obtain ⟨-, huse, -⟩ := (derive_laws hkind "CAPTION_Save" " " .tooltip).2.2 _ hkey
  rcases huse (by decide) with hsame | ⟨-, -, hsplit⟩
  · cases hsame
  · exact ⟨hkind, hkey, hsplit⟩

theorem splitsAt_text {own : TextUse} (h : own ≠ .unspecified) (rest : List Char) :
    SplitsAt (own.text.toList ++ '_' :: rest) own.text.toList rest := by
  refine ⟨rfl, own.score_not_mem_text_iff.mpr h, ?_⟩
  cases own <;> decide

theorem not_member_text {own : TextUse} (h : own ≠ .unspecified) :
    ¬ ['m', '_'] <+: (own.text ++ "_").toList := by
  rw [String.toList_append]
  exact (splitsAt_text h []).not_member

/-- Whether the name of a field has nothing behind its member prefix or behind its use. -/
def EndsInPrefix (name : String) : Prop :=
  name = "m_" ∨ ∃ own : TextUse, own ≠ .unspecified ∧ name = own.text ++ "_"

/-- A name with a member prefix ends in a prefix only if nothing follows. -/
theorem endsInPrefix_member_iff {name : String} {rest : List Char}
    (hname : name.toList = ['m', '_'] ++ rest) : EndsInPrefix name ↔ rest = [] := by
  constructor
  · rintro (rfl | ⟨own, hown, rfl⟩)
    · have hnothing : ['m', '_'] ++ [] = ['m', '_'] ++ rest := hname
      exact (List.append_cancel_left hnothing).symm
    · exact absurd ⟨rest, hname.symm⟩ (not_member_text hown)
  · rintro rfl
    exact .inl (String.toList_inj.mp hname)

theorem endsInPrefix_split_iff {name : String} {parsed : TextUse} {rest : List Char}
    (hname : SplitsAt name.toList parsed.text.toList rest) : EndsInPrefix name ↔ rest = [] := by
  constructor
  · rintro (rfl | ⟨own, hown, rfl⟩)
    · exact absurd (List.prefix_refl _) hname.not_member
    · rw [String.toList_append] at hname
      exact (hname.unique (splitsAt_text hown [])).2
  · rintro rfl
    refine .inr ⟨parsed, parsed.score_not_mem_text_iff.mp hname.first, ?_⟩
    apply String.toList_inj.mp
    rw [hname.name_eq, String.toList_append]
    rfl

theorem not_endsInPrefix {name : String} (hmember : ¬ ['m', '_'] <+: name.toList)
    (hsplit : ∀ part rest, ¬ SplitsAt name.toList part rest) : ¬ EndsInPrefix name := by
  rintro (rfl | ⟨own, hown, rfl⟩)
  · exact hmember (List.prefix_refl _)
  · apply hsplit own.text.toList []
    rw [String.toList_append]
    exact splitsAt_text hown []

theorem Derivation.id_eq_empty_iff {name explicitId : String} {use : TextUse} {kind : ElementKind}
    {key : DerivedKey} (h : Derivation name explicitId use kind (.ok key)) (hname : name ≠ "") :
    key.id = "" ↔
      Text.isBlankText explicitId = true ∧ kind = .field ∧ EndsInPrefix name := by
  cases h with
  | explicit _ _ hid =>
    refine ⟨?_, fun hblank => ?_⟩
    · rintro rfl
      cases hid
    · rw [hid] at hblank
      cases hblank.1
  | constant => exact ⟨fun hempty => absurd hempty hname, nofun⟩
  | @accessor property _ haccessor =>
    obtain ⟨⟨c, rest, hproperty, -⟩, -⟩ := haccessor
    refine ⟨?_, nofun⟩
    rintro rfl
    cases hproperty
  | member hid hmember =>
    rw [endsInPrefix_member_iff hmember, String.ofList_eq_empty_iff]
    exact ⟨fun hrest => ⟨hid, rfl, hrest⟩, fun hall => hall.2.2⟩
  | split hid hsplit =>
    rw [endsInPrefix_split_iff hsplit, String.ofList_eq_empty_iff]
    exact ⟨fun hrest => ⟨hid, rfl, hrest⟩, fun hall => hall.2.2⟩
  | whole _ hmember hsplit =>
    exact ⟨fun hempty => absurd hempty hname,
      fun hall => absurd hall.2.2 (not_endsInPrefix hmember hsplit)⟩

/-- The id that is derived for an element with a name is empty exactly if its own id is blank, the element
is a field, and its name is a member prefix or a use with an underscore, and nothing else. Only then a
text key ends right after the underscore behind its use. -/
theorem derive_id_empty_iff {kind : ElementKind} {name explicitId : String} {use : TextUse}
    {key : DerivedKey} (hkind : ∀ other, kind ≠ .other other) (hname : name ≠ "")
    (h : derive kind name explicitId use = .ok key) :
    (key.id = "" ↔ Text.isBlankText explicitId = true ∧ kind = .field ∧ EndsInPrefix name) ∧
    ∀ className, ofText className key.use key.id = ofText className key.use "" ↔ key.id = "" := by
  have hrules := derivation_derive hkind name explicitId use
  rw [h] at hrules
  exact ⟨hrules.id_eq_empty_iff hname, fun _ => String.append_right_inj _⟩

theorem derive_id_empty_iff_label : (∀ other, ElementKind.field ≠ .other other) ∧ "LABEL_" ≠ "" ∧
    derive .field "LABEL_" "" .unspecified = .ok ⟨.label, ""⟩ ∧
    ∃ own : TextUse, own ≠ .unspecified ∧ "LABEL_" = own.text ++ "_" := by
  have hkind : ∀ other, ElementKind.field ≠ .other other := fun _ => nofun
  have hname : "LABEL_" ≠ "" := by decide
  have hkey : derive .field "LABEL_" "" .unspecified = .ok ⟨.label, ""⟩ := by decide
  obtain ⟨-, -, hmember | huse⟩ := (derive_id_empty_iff hkind hname hkey).1.mp rfl
  · exact absurd hmember (by decide)
  · exact ⟨hkind, hname, hkey, huse⟩

/-- A field whose name is the member prefix gets an empty id. -/
theorem derive_id_empty_prefix : "m_" ≠ "" ∧
    derive .field "m_" "" .unspecified = .ok ⟨.txt, ""⟩ ∧
    ofText "app.Form" .txt "" = "app.Form.TXT_" := by
  exact ⟨by decide, by decide, by decide +kernel⟩

end Key

end ResourceBundle
