import Mathlib.Data.List.TakeWhile
import ResourceBundle.Locale
import ResourceBundle.Proofs.CaseConversion

/-! # The parts of a locale

Each part of a locale is a piece of the tag in another case, and the modifier is the rest of the tag as it
is. Case conversion makes neither characters below `A` nor underscores nor blanks, so a dot of an
identifier is one of the modifier. -/

namespace ResourceBundle

namespace Text

theorem mem_of_mem_trim {cs : List Char} {d : Char} (h : d ∈ trim cs) : d ∈ cs := by
  have hstart := (List.dropWhile_sublist _).subset (List.mem_reverse.mp h)
  exact (List.dropWhile_sublist _).subset (List.mem_reverse.mp hstart)

end Text

namespace Locale

/-- What the parts of a locale are made of. -/
structure MadeOf (locale : Locale) (pieces : List (List Char)) : Prop where
  language : ∃ piece ∈ pieces, locale.language = Text.lower piece
  script : ∀ script, locale.script = some script → ∃ piece ∈ pieces, script = Text.title piece
  territory : ∀ territory, locale.territory = some territory →
    ∃ piece ∈ pieces, territory = Text.upper piece ∨ territory = piece
  variant : ∀ variant, locale.variant = some variant → ∃ piece ∈ pieces, variant = Text.upper piece

theorem takeScript_subset (pieces : List (List Char)) : (takeScript pieces).2 ⊆ pieces := by
  unfold takeScript
  split
  · exact List.Subset.refl _
  · split
    · exact List.subset_cons_self _ _
    · exact List.Subset.refl _

theorem mem_of_takeScript {pieces : List (List Char)} {script : List Char}
    (h : (takeScript pieces).1 = some script) : ∃ piece ∈ pieces, script = Text.title piece := by
  unfold takeScript at h
  split at h
  · cases h
  · split at h
    · exact ⟨_, List.mem_cons_self, (Option.some.inj h).symm⟩
    · cases h

theorem eq_of_territory? {piece territory : List Char} (h : territory? piece = some territory) :
    territory = Text.upper piece ∨ territory = piece := by
  unfold territory? at h
  split at h
  · exact .inl (Option.some.inj h).symm
  · split at h
    · exact .inr (Option.some.inj h).symm
    · cases h

theorem takeTerritory_subset (pieces : List (List Char)) : (takeTerritory pieces).2 ⊆ pieces := by
  unfold takeTerritory
  split
  · exact List.Subset.refl _
  · split
    · exact List.subset_cons_self _ _
    · exact List.Subset.refl _

theorem mem_of_takeTerritory {pieces : List (List Char)} {territory : List Char}
    (h : (takeTerritory pieces).1 = some territory) :
    ∃ piece ∈ pieces, territory = Text.upper piece ∨ territory = piece := by
  unfold takeTerritory at h
  split at h
  · cases h
  · split at h
    · obtain rfl := Option.some.inj h
      exact ⟨_, List.mem_cons_self, eq_of_territory? ‹_›⟩
    · cases h

theorem mem_of_takeVariant {pieces : List (List Char)} {variant : List Char}
    (h : (takeVariant pieces).1 = some variant) : ∃ piece ∈ pieces, variant = Text.upper piece := by
  unfold takeVariant at h
  split at h
  · cases h
  · split at h
    · dsimp only at h
      obtain ⟨piece, hlast, rfl⟩ := Option.map_eq_some_iff.mp h
      exact ⟨piece, List.mem_of_getLast? hlast, rfl⟩
    · cases h

/-- What a locale is made of: pieces of the tag before the modifier and the charset, and the modifier. -/
theorem madeOf_of_parse? {tag : List Char} {locale : Locale} (h : parse? tag = some locale) :
    locale.MadeOf (Text.pieces '_' (cutAt '.' (cutAt '@' tag).1).1) ∧
      locale.modifier = if (cutAt '@' tag).2 = [] then none else some (cutAt '@' tag).2 := by
  unfold parse? at h
  obtain ⟨first, rest, hpieces⟩ :=
    List.exists_cons_of_ne_nil (Text.pieces_ne_nil '_' (cutAt '.' (cutAt '@' tag).1).1)
  simp only [hpieces] at h ⊢
  split at h
  · cases h
    have hrest : rest ⊆ first :: rest := List.subset_cons_self first rest
    have hscript := List.Subset.trans (takeScript_subset rest) hrest
    have hterritory := List.Subset.trans (takeTerritory_subset (takeScript rest).2) hscript
    refine ⟨⟨⟨first, List.mem_cons_self, rfl⟩, fun script h => ?_, fun territory h => ?_,
      fun variant h => ?_⟩, rfl⟩
    · obtain ⟨piece, hpiece, heq⟩ := mem_of_takeScript h
      exact ⟨piece, hrest hpiece, heq⟩
    · obtain ⟨piece, hpiece, heq⟩ := mem_of_takeTerritory h
      exact ⟨piece, hscript hpiece, heq⟩
    · obtain ⟨piece, hpiece, heq⟩ := mem_of_takeVariant h
      exact ⟨piece, hterritory hpiece, heq⟩
  · cases h

theorem not_mem_cutAt (separator : Char) (cs : List Char) : separator ∉ (cutAt separator cs).1 := by
  intro h
  simpa using List.mem_takeWhile_imp h

theorem mem_of_mem_cutAt_fst {separator c : Char} {cs : List Char} (h : c ∈ (cutAt separator cs).1) :
    c ∈ cs := (List.takeWhile_sublist _).subset h

theorem mem_of_mem_cutAt_snd {separator c : Char} {cs : List Char} (h : c ∈ (cutAt separator cs).2) :
    c ∈ cs := (List.dropWhile_sublist _).subset (List.mem_of_mem_drop h)

theorem cutAt_of_not_mem {separator : Char} {cs : List Char} (h : separator ∉ cs) :
    cutAt separator cs = (cs, []) := by
  have hne : ∀ c ∈ cs, decide (c ≠ separator) = true := fun c hc =>
    decide_eq_true fun heq => h (heq ▸ hc)
  simp only [cutAt, List.takeWhile_eq_self_iff.mpr hne, List.dropWhile_eq_nil_iff.mpr hne, List.drop_nil]

@[simp] theorem cutAt_cons_self (separator : Char) (cs : List Char) :
    cutAt separator (separator :: cs) = ([], cs) := by simp [cutAt]

@[simp] theorem cutAt_cons_of_ne {separator c : Char} (hc : c ≠ separator) (cs : List Char) :
    cutAt separator (c :: cs) = (c :: (cutAt separator cs).1, (cutAt separator cs).2) := by
  simp [cutAt, hc]

theorem cutAt_append {separator : Char} {before : List Char} (hbefore : separator ∉ before)
    (after : List Char) : cutAt separator (before ++ after) =
      (before ++ (cutAt separator after).1, (cutAt separator after).2) := by
  induction before with
  | nil => rfl
  | cons c before ih =>
    obtain ⟨hc, hrest⟩ := not_or.mp (mt List.mem_cons.mpr hbefore)
    rw [List.cons_append, cutAt_cons_of_ne (Ne.symm hc), ih hrest, List.cons_append]

namespace MadeOf

variable {locale : Locale} {pieces : List (List Char)}

/-- A character that is not made and that is in no piece is in no part. -/
theorem not_mem (h : locale.MadeOf pieces) {d : Char} (hd : Text.Case.unmade.has d = true)
    (hpieces : ∀ piece ∈ pieces, d ∉ piece) : d ∉ locale.language ∧
      (∀ script, locale.script = some script → d ∉ script) ∧
      (∀ territory, locale.territory = some territory → d ∉ territory) ∧
      ∀ variant, locale.variant = some variant → d ∉ variant := by
  obtain ⟨first, hfirst, hlanguage⟩ := h.language
  refine ⟨?_, fun script hscript => ?_, fun territory hterritory => ?_, fun variant hvariant => ?_⟩
  · rw [hlanguage]
    exact fun hmem => hpieces first hfirst (Text.Case.mem_of_mem_lowerFrom hmem hd)
  · obtain ⟨piece, hpiece, rfl⟩ := h.script script hscript
    exact fun hmem => hpieces piece hpiece (Text.Case.mem_of_mem_titleFrom hmem hd)
  · obtain ⟨piece, hpiece, rfl | rfl⟩ := h.territory territory hterritory
    · exact fun hmem => hpieces piece hpiece (Text.mem_of_mem_upper hmem hd)
    · exact hpieces _ hpiece
  · obtain ⟨piece, hpiece, rfl⟩ := h.variant variant hvariant
    exact fun hmem => hpieces piece hpiece (Text.mem_of_mem_upper hmem hd)

end MadeOf

theorem toList_identifier (locale : Locale) : locale.identifier.toList =
    locale.language ++ (locale.script.elim [] (List.cons '_')) ++
      (locale.territory.elim [] (List.cons '_')) ++ (locale.variant.elim [] (List.cons '_')) ++
      locale.modifier.elim [] (List.cons '@') := by
  obtain ⟨language, script, territory, variant, modifier⟩ := locale
  cases script <;> cases territory <;> cases variant <;> cases modifier <;> simp [identifier]

/-- A tag that names a locale is read as one. -/
theorem parse?_of_resolve {tag identifier : String} (h : resolve (some tag) = .ok identifier) :
    ∃ locale, parse? (normalizeTag tag.toList) = some locale ∧ identifier = locale.identifier := by
  unfold resolve at h
  split at h
  · cases h
  · rename_i heq
    cases heq
    split at h
    · exact ⟨_, ‹_›, (Except.ok.inj h).symm⟩
    · cases h

theorem mem_of_mem_normalizeTag {cs : List Char} {d : Char} (h : d ∈ normalizeTag cs) (hd : d ≠ '_') :
    d ∈ cs := by
  obtain ⟨c, hc, hmem⟩ := List.mem_flatMap.mp h
  split at hmem
  · exact absurd (List.mem_singleton.mp hmem) hd
  · exact List.mem_singleton.mp hmem ▸ Text.mem_of_mem_trim hc

/-- A character that is not made is in an identifier only if it is in a piece or in the modifier, or is
one of the separators. -/
theorem MadeOf.not_mem_identifier {locale : Locale} {pieces : List (List Char)}
    (h : locale.MadeOf pieces) {d : Char} (hd : Text.Case.unmade.has d = true) (hat : d ≠ '@')
    (hscore : d ≠ '_')
    (hpieces : ∀ piece ∈ pieces, d ∉ piece)
    (hmodifier : ∀ modifier, locale.modifier = some modifier → d ∉ modifier) :
    d ∉ locale.identifier.toList := by
  have htail : ∀ {separator : Char} {part : Option (List Char)}, d ≠ separator →
      (∀ cs, part = some cs → d ∉ cs) → d ∉ part.elim [] (List.cons separator) := by
    rintro separator (_ | cs) hseparator hpart hmem
    · cases hmem
    · exact hpart cs rfl ((List.mem_cons.mp hmem).resolve_left hseparator)
  obtain ⟨hlanguage, hscript, hterritory, hvariant⟩ := h.not_mem hd hpieces
  simp only [toList_identifier, List.mem_append, not_or]
  exact ⟨⟨⟨⟨hlanguage, htail hscore hscript⟩, htail hscore hterritory⟩, htail hscore hvariant⟩,
    htail hat hmodifier⟩

/-- A tag without a modifier names a locale without dots. -/
theorem dot_not_mem_of_resolve {tag identifier : String} (h : resolve (some tag) = .ok identifier)
    (hmodifier : '@' ∉ tag.toList) : '.' ∉ identifier.toList := by
  obtain ⟨locale, hparse, rfl⟩ := parse?_of_resolve h
  have hnormal : '@' ∉ normalizeTag tag.toList := fun hmem =>
    hmodifier (mem_of_mem_normalizeTag hmem (by decide))
  obtain ⟨hmade, hmod⟩ := madeOf_of_parse? hparse
  rw [cutAt_of_not_mem hnormal] at hmade hmod
  refine hmade.not_mem_identifier (by decide) (by decide) (by decide) (fun piece hpiece hdot =>
    not_mem_cutAt '.' _ (Text.mem_of_mem_pieces hpiece hdot)) fun modifier hsome => ?_
  rw [if_pos rfl] at hmod
  rw [hmod] at hsome
  cases hsome

/-- A tag without slashes names a locale without slashes. -/
theorem slash_not_mem_of_resolve {tag identifier : String} (h : resolve (some tag) = .ok identifier)
    (hslash : '/' ∉ tag.toList) : '/' ∉ identifier.toList := by
  obtain ⟨locale, hparse, rfl⟩ := parse?_of_resolve h
  have hnormal : '/' ∉ normalizeTag tag.toList := fun hmem =>
    hslash (mem_of_mem_normalizeTag hmem (by decide))
  obtain ⟨hmade, hmod⟩ := madeOf_of_parse? hparse
  refine hmade.not_mem_identifier (by decide) (by decide) (by decide) (fun piece hpiece hmem => ?_)
    fun modifier hsome hmem => ?_
  · have htag := mem_of_mem_cutAt_fst (mem_of_mem_cutAt_fst (Text.mem_of_mem_pieces hpiece hmem))
    exact hnormal htag
  · rw [hmod] at hsome
    split at hsome
    · cases hsome
    · obtain rfl := Option.some.inj hsome
      exact hnormal (mem_of_mem_cutAt_snd hmem)

end Locale

end ResourceBundle
