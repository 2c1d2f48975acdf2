import ResourceBundle.Proofs.BundleLines
import ResourceBundle.Proofs.BundlePaths
import ResourceBundle.Proofs.LocaleParts

/-! # Reading an identifier again

The identifier of a locale may be taken for a tag. It names itself exactly if it does not end in a blank and
each of its parts stands for what conversion would make of it. A part may not, since it can become longer in
another case and is then read as another part, or as none. -/

namespace ResourceBundle

namespace Text

theorem Case.unmade_of_isBlank {c : Char} (h : isBlank c = true) : unmade.has c = true := by
  rw [RangeTable.has, unmade, List.any_cons, List.any_cons]
  rw [isBlank, RangeTable.has] at h
  rw [h, Bool.or_true, Bool.or_true]

/-- Whether the last character is a blank. -/
def endsInBlank (cs : List Char) : Bool := cs.getLast?.any isBlank

theorem endsInBlank_append {before cs : List Char} (h : cs ≠ []) :
    endsInBlank (before ++ cs) = endsInBlank cs := by
  rw [endsInBlank, List.getLast?_append, List.getLast?_eq_some_getLast h, endsInBlank,
    List.getLast?_eq_some_getLast h, Option.some_or]

theorem endsInBlank_trimEnd (cs : List Char) : endsInBlank (trimEnd cs) = false := by
  rw [endsInBlank, trimEnd, List.getLast?_reverse]
  cases hrest : cs.reverse.dropWhile isBlank with
  | nil => rfl
  | cons c rest =>
    have hc := List.head?_dropWhile_not isBlank cs.reverse
    rw [hrest] at hc
    simpa using hc

theorem trimEnd_eq_self {cs : List Char} (h : endsInBlank cs = false) : trimEnd cs = cs := by
  rw [endsInBlank, List.getLast?_eq_head?_reverse] at h
  rw [trimEnd]
  cases hreverse : cs.reverse with
  | nil => rw [List.dropWhile_nil, ← hreverse, List.reverse_reverse]
  | cons c rest =>
    rw [hreverse, List.head?_cons, Option.any_some] at h
    rw [List.dropWhile_cons_of_neg (by simp [h]), ← hreverse, List.reverse_reverse]

theorem trim_eq_self {c : Char} {cs : List Char} (hc : isBlank c = false)
    (h : endsInBlank (c :: cs) = false) : trim (c :: cs) = c :: cs := by
  have hstart : trimStart (c :: cs) = c :: cs := by simp [trimStart, hc]
  rw [trim, hstart, trimEnd_eq_self h]

theorem replaceChar_eq_map (old new : Char) (cs : List Char) :
    replaceChar old [new] cs = cs.map fun c => if c = old then new else c := by
  induction cs with
  | nil => rfl
  | cons c cs ih =>
    rw [replaceChar, List.flatMap_cons, ← replaceChar, ih, List.map_cons]
    split <;> rfl

/-- A text ends in a blank in upper case only if it does so itself. -/
theorem endsInBlank_upper {cs : List Char} (h : endsInBlank cs = false) :
    endsInBlank (upper cs) = false := by
  rcases List.eq_nil_or_concat cs with rfl | ⟨start, c, rfl⟩
  · rfl
  · rw [List.concat_eq_append] at h ⊢
    rw [endsInBlank, List.getLast?_concat, Option.any_some] at h
    have hupper : upper (start ++ [c]) = upper start ++ Case.upperChar c := by
      rw [upper, List.flatMap_append, List.flatMap_singleton, ← upper]
    rw [hupper, endsInBlank_append (Case.upperChar_ne_nil c)]
    by_contra hblank
    rw [Bool.not_eq_false, endsInBlank, Option.any_eq_true] at hblank
    obtain ⟨d, hlast, hd⟩ := hblank
    have hsame := Case.eq_of_mem_upperChar (List.mem_of_getLast? hlast) (Case.unmade_of_isBlank hd)
    rw [hsame, h] at hd
    cases hd

theorem pieces_join {separator : Char} {first : List Char} {parts : List (List Char)}
    (hfirst : separator ∉ first) (hparts : ∀ part ∈ parts, separator ∉ part) :
    pieces separator (first ++ parts.flatMap (List.cons separator)) = first :: parts := by
  induction parts generalizing first with
  | nil => rw [List.flatMap_nil, List.append_nil, pieces_eq_singleton hfirst]
  | cons part parts ih =>
    obtain ⟨hpart, hparts⟩ := List.forall_mem_cons.mp hparts
    rw [List.flatMap_cons, List.cons_append, pieces_append_cons hfirst, ih hpart hparts]

/-- A text ends with its last piece. -/
theorem exists_of_pieces_eq_append {separator : Char} {cs last : List Char}
    {before : List (List Char)} (h : pieces separator cs = before ++ [last]) :
    ∃ start, cs = start ++ last := by
  have hjoin := flatMap_pieces separator cs
  rw [h, List.flatMap_append, List.flatMap_singleton] at hjoin
  cases before with
  | nil => exact ⟨[], (List.cons.inj hjoin).2.symm⟩
  | cons first before =>
    rw [List.flatMap_cons, List.cons_append, List.cons_append] at hjoin
    refine ⟨first ++ before.flatMap (List.cons separator) ++ [separator], ?_⟩
    rw [← (List.cons.inj hjoin).2, List.append_assoc _ [separator], List.singleton_append]

end Text

namespace Locale

/-- Whether the parts of a locale are read from pieces of a tag. -/
structure ReadFrom (locale : Locale) (first : List Char) (script territory variant : Option (List Char)) :
    Prop where
  language : locale.language = Text.lower first
  alphabetic : Text.isAlphabetic locale.language = true
  script : Option.Rel (fun piece part => isScript piece = true ∧ part = Text.title piece) script
    locale.script
  territory : Option.Rel (fun piece part => territory? piece = some part) territory locale.territory
  variant : Option.Rel (fun piece part => announcesVariant piece = true ∧ part = Text.upper piece) variant
    locale.variant

theorem not_isScript_of_territory? {piece territory : List Char} (h : territory? piece = some territory) :
    isScript piece = false := by
  unfold territory? at h
  unfold isScript
  split at h
  · simp [‹_ ∧ _›.1]
  · split at h
    · simp [‹_ ∧ _›.1]
    · cases h

theorem not_isScript_of_announcesVariant {piece : List Char} (h : announcesVariant piece = true) :
    isScript piece = false := by
  cases piece with
  | nil => cases h
  | cons c rest =>
    simp only [announcesVariant, Bool.or_eq_true, Bool.and_eq_true, beq_iff_eq,
      decide_eq_true_eq] at h
    rcases h with ⟨hlength, hdigit⟩ | ⟨hlength, _⟩
    · have hletter : Text.isLetter c = false := Text.not_isLetter_of_isDigit hdigit
      simp [isScript, hletter]
    · have hfour : rest.length ≠ 3 := by omega
      simp [isScript, hfour]

theorem territory?_of_announcesVariant {piece : List Char} (h : announcesVariant piece = true) :
    territory? piece = none := by
  cases piece with
  | nil => cases h
  | cons c rest =>
    have hlength : 3 ≤ rest.length := by
      simp only [announcesVariant, Bool.or_eq_true, Bool.and_eq_true, beq_iff_eq,
        decide_eq_true_eq] at h
      omega
    unfold territory?
    rw [List.length_cons, if_neg (by omega), if_neg (by omega)]

theorem exists_of_takeScript (parts : List (List Char)) :
    ∃ script, parts = script.toList ++ (takeScript parts).2 ∧
      Option.Rel (fun piece part => isScript piece = true ∧ part = Text.title piece) script
        (takeScript parts).1 := by
  cases parts with
  | nil => exact ⟨none, rfl, .none⟩
  | cons part rest =>
    by_cases h : isScript part = true
    · rw [takeScript, if_pos h]
      exact ⟨some part, rfl, .some ⟨h, rfl⟩⟩
    · rw [takeScript, if_neg h]
      exact ⟨none, rfl, .none⟩

theorem exists_of_takeTerritory (parts : List (List Char)) :
    ∃ territory, parts = territory.toList ++ (takeTerritory parts).2 ∧
      Option.Rel (fun piece part => territory? piece = some part) territory
        (takeTerritory parts).1 := by
  cases parts with
  | nil => exact ⟨none, rfl, .none⟩
  | cons part rest =>
    cases h : territory? part with
    | none =>
      simp only [takeTerritory, h]
      exact ⟨none, rfl, .none⟩
    | some territory =>
      simp only [takeTerritory, h]
      exact ⟨some part, rfl, .some h⟩

/-- If nothing is left, the one part that was there is the variant. -/
theorem exists_of_takeVariant {parts : List (List Char)} (h : (takeVariant parts).2 = []) :
    ∃ variant, parts = variant.toList ∧
      Option.Rel (fun piece part => announcesVariant piece = true ∧ part = Text.upper piece) variant
        (takeVariant parts).1 := by
  cases parts with
  | nil => exact ⟨none, rfl, .none⟩
  | cons part rest =>
    by_cases hvariant : announcesVariant part = true
    · rw [takeVariant, if_pos hvariant] at h ⊢
      cases rest with
      | nil => exact ⟨some part, rfl, .some ⟨hvariant, rfl⟩⟩
      | cons second rest => cases h
    · rw [takeVariant, if_neg hvariant] at h
      cases h

theorem exists_of_rel {r : List Char → List Char → Prop} {piece? part? : Option (List Char)}
    (h : Option.Rel r piece? part?) {piece : List Char} (hpiece : piece ∈ piece?.toList) :
    ∃ part, r piece part := by
  cases h with
  | some h =>
    rw [Option.toList_some, List.mem_singleton] at hpiece
    rw [hpiece]
    exact ⟨_, h⟩
  | none => cases hpiece

theorem takeScript_of_read {script : Option (List Char)} {part : Option (List Char)}
    (h : Option.Rel (fun piece part => isScript piece = true ∧ part = Text.title piece) script part)
    {rest : List (List Char)} (hrest : ∀ piece ∈ rest, isScript piece = false) :
    takeScript (script.toList ++ rest) = (part, rest) := by
  cases h with
  | @some piece _ h =>
    obtain ⟨hscript, rfl⟩ := h
    exact if_pos hscript
  | none =>
    cases rest with
    | nil => rfl
    | cons piece rest => exact if_neg (by simp [hrest piece List.mem_cons_self])

theorem takeTerritory_of_read {territory : Option (List Char)} {part : Option (List Char)}
    (h : Option.Rel (fun piece part => territory? piece = some part) territory part)
    {rest : List (List Char)} (hrest : ∀ piece ∈ rest, territory? piece = none) :
    takeTerritory (territory.toList ++ rest) = (part, rest) := by
  cases h with
  | some h => simp [takeTerritory, h]
  | none =>
    cases rest with
    | nil => rfl
    | cons piece rest => simp [takeTerritory, hrest piece List.mem_cons_self]

theorem takeVariant_of_read {variant : Option (List Char)} {part : Option (List Char)}
    (h : Option.Rel (fun piece part => announcesVariant piece = true ∧ part = Text.upper piece) variant
      part) : takeVariant variant.toList = (part, []) := by
  cases h with
  | some h =>
    obtain ⟨hvariant, rfl⟩ := h
    exact if_pos hvariant
  | none => rfl

/-- A tag is read as a locale exactly if its pieces before the modifier and the charset are, in order, those
of the parts of the locale. -/
theorem parse?_eq_some_iff {tag : List Char} {locale : Locale} : parse? tag = some locale ↔
    (∃ first script territory variant, Text.pieces '_' (cutAt '.' (cutAt '@' tag).1).1 =
      first :: (script.toList ++ (territory.toList ++ variant.toList)) ∧
        locale.ReadFrom first script territory variant) ∧
    locale.modifier = if (cutAt '@' tag).2 = [] then none else some (cutAt '@' tag).2 := by
  obtain ⟨first, rest, hpieces⟩ :=
    List.exists_cons_of_ne_nil (Text.pieces_ne_nil '_' (cutAt '.' (cutAt '@' tag).1).1)
  constructor
  · intro h
    unfold parse? at h
    simp only [hpieces] at h
    split at h
    · rename_i hread
      rw [Bool.and_eq_true, List.isEmpty_iff] at hread
      obtain ⟨hlanguage, hempty⟩ := hread
      cases h
      obtain ⟨script, hscript, hscriptRel⟩ := exists_of_takeScript rest
      obtain ⟨territory, hterritory, hterritoryRel⟩ := exists_of_takeTerritory (takeScript rest).2
      obtain ⟨variant, hvariant, hvariantRel⟩ := exists_of_takeVariant hempty
      refine ⟨⟨first, script, territory, variant, ?_, ⟨rfl, hlanguage, hscriptRel, hterritoryRel,
        hvariantRel⟩⟩, rfl⟩
      rw [hpieces, ← hvariant, ← hterritory, ← hscript]
    · cases h
  · obtain ⟨language, script', territory', variant', modifier⟩ := locale
    rintro ⟨⟨first', script, territory, variant, hread, hlanguage, halphabetic, hscript, hterritory,
      hvariant⟩, hmodifier⟩
    dsimp only at hlanguage halphabetic hscript hterritory hvariant hmodifier
    have hvariants : ∀ piece ∈ variant.toList, announcesVariant piece = true := by
      intro piece hpiece
      obtain ⟨_, h, _⟩ := exists_of_rel hvariant hpiece
      exact h
    have hscriptless : ∀ piece ∈ territory.toList ++ variant.toList, isScript piece = false := by
      intro piece hpiece
      rcases List.mem_append.mp hpiece with hpiece | hpiece
      · obtain ⟨_, h⟩ := exists_of_rel hterritory hpiece
        exact not_isScript_of_territory? h
      · exact not_isScript_of_announcesVariant (hvariants piece hpiece)
    have htake := takeScript_of_read hscript hscriptless
    have htake' := takeTerritory_of_read hterritory fun piece hpiece =>
      territory?_of_announcesVariant (hvariants piece hpiece)
    have htake'' := takeVariant_of_read hvariant
    simp only [parse?, hread, htake, htake', htake'', ← hlanguage, halphabetic, hmodifier,
      List.isEmpty_nil, Bool.and_self, if_true]

def parts (locale : Locale) : List (List Char) :=
  locale.script.toList ++ (locale.territory.toList ++ locale.variant.toList)

def head (locale : Locale) : List Char := locale.language ++ locale.parts.flatMap (List.cons '_')

theorem toList_identifier_eq (locale : Locale) :
    locale.identifier.toList = locale.head ++ locale.modifier.elim [] (List.cons '@') := by
  obtain ⟨language, script, territory, variant, modifier⟩ := locale
  rw [toList_identifier]
  cases script <;> cases territory <;> cases variant <;> simp [head, parts]

/-- What all locales have in common that are read from tags. -/
structure IsRead (locale : Locale) : Prop where
  alphabetic : Text.isAlphabetic locale.language = true
  lower : Text.lower locale.language = locale.language
  separators : ∀ part ∈ locale.language :: locale.parts, '_' ∉ part ∧ '-' ∉ part ∧ '@' ∉ part ∧ '.' ∉ part
  modifier : ∀ cs, locale.modifier = some cs → cs ≠ [] ∧ '-' ∉ cs ∧ Text.endsInBlank cs = false

theorem MadeOf.not_mem_parts {locale : Locale} {pieces : List (List Char)} (h : locale.MadeOf pieces)
    {d : Char} (hd : Text.Case.unmade.has d = true) (hpieces : ∀ piece ∈ pieces, d ∉ piece)
    {part : List Char} (hpart : part ∈ locale.language :: locale.parts) : d ∉ part := by
  obtain ⟨hlanguage, hscript, hterritory, hvariant⟩ := h.not_mem hd hpieces
  simp only [parts, List.mem_cons, List.mem_append, Option.mem_toList] at hpart
  rcases hpart with rfl | hpart | hpart | hpart
  · exact hlanguage
  · exact hscript part hpart
  · exact hterritory part hpart
  · exact hvariant part hpart

theorem endsInBlank_normalizeTag (tag : List Char) : Text.endsInBlank (normalizeTag tag) = false := by
  have hend := Text.endsInBlank_trimEnd (Text.trimStart tag)
  rw [normalizeTag, Text.replaceChar_eq_map, Text.trim]
  rw [Text.endsInBlank, List.getLast?_map]
  rw [Text.endsInBlank] at hend
  cases hlast : (Text.trimEnd (Text.trimStart tag)).getLast? with
  | none => rfl
  | some c =>
    rw [hlast, Option.any_some] at hend
    rw [Option.map_some, Option.any_some]
    split
    · decide
    · exact hend

theorem exists_append_cutAt_snd (separator : Char) (cs : List Char) :
    ∃ start, cs = start ++ (cutAt separator cs).2 := by
  refine ⟨cs.takeWhile (· ≠ separator) ++ (cs.dropWhile (· ≠ separator)).take 1, ?_⟩
  rw [cutAt, List.append_assoc, List.take_append_drop, List.takeWhile_append_dropWhile]

theorem isRead_of_parse? {tag : List Char} {locale : Locale}
    (h : parse? (normalizeTag tag) = some locale) : locale.IsRead := by
  obtain ⟨hmade, hmodifier⟩ := madeOf_of_parse? h
  obtain ⟨⟨first, script, territory, variant, _, hread⟩, _⟩ := parse?_eq_some_iff.mp h
  have hhyphen : '-' ∉ normalizeTag tag := Text.not_mem_replaceChar (by decide) _
  refine ⟨hread.alphabetic, ?_, ?_, ?_⟩
  · rw [hread.language, Text.lower_lower]
  · intro part hpart
    refine ⟨?_, ?_, ?_, ?_⟩
    · exact hmade.not_mem_parts (by decide) (fun _ => Text.not_mem_of_mem_pieces) hpart
    · refine hmade.not_mem_parts (by decide) (fun piece hpiece hmem => hhyphen ?_) hpart
      exact mem_of_mem_cutAt_fst (mem_of_mem_cutAt_fst (Text.mem_of_mem_pieces hpiece hmem))
    · refine hmade.not_mem_parts (by decide) (fun piece hpiece hmem => ?_) hpart
      exact not_mem_cutAt '@' _ (mem_of_mem_cutAt_fst (Text.mem_of_mem_pieces hpiece hmem))
    · refine hmade.not_mem_parts (by decide) (fun piece hpiece hmem => ?_) hpart
      exact not_mem_cutAt '.' _ (Text.mem_of_mem_pieces hpiece hmem)
  · intro cs hcs
    rw [hmodifier] at hcs
    split at hcs
    · cases hcs
    · rename_i hne
      cases hcs
      refine ⟨hne, fun hmem => hhyphen (mem_of_mem_cutAt_snd hmem), ?_⟩
      obtain ⟨start, hstart⟩ := exists_append_cutAt_snd '@' (normalizeTag tag)
      have hend := endsInBlank_normalizeTag tag
      rwa [hstart, Text.endsInBlank_append hne] at hend

namespace IsRead

variable {locale : Locale}

theorem not_mem_head {d : Char} (hd : d ≠ '_')
    (hparts : ∀ part ∈ locale.language :: locale.parts, d ∉ part) : d ∉ locale.head := by
  obtain ⟨hlanguage, hparts⟩ := List.forall_mem_cons.mp hparts
  rw [head, List.mem_append, List.mem_flatMap]
  rintro (hmem | ⟨part, hpart, hmem⟩)
  · exact hlanguage hmem
  · rcases List.mem_cons.mp hmem with heq | hmem
    · exact hd heq
    · exact hparts part hpart hmem

theorem cutAt_identifier (h : locale.IsRead) :
    cutAt '@' locale.identifier.toList = (locale.head, locale.modifier.getD []) := by
  have hat : '@' ∉ locale.head :=
    not_mem_head (by decide) fun part hpart => (h.separators part hpart).2.2.1
  rw [toList_identifier_eq]
  cases locale.modifier with
  | none => rw [Option.elim_none, List.append_nil, cutAt_of_not_mem hat, Option.getD_none]
  | some cs =>
    rw [Option.elim_some, cutAt_append hat, cutAt_cons_self, List.append_nil, Option.getD_some]

theorem pieces_head (h : locale.IsRead) :
    Text.pieces '_' (cutAt '.' locale.head).1 = locale.language :: locale.parts := by
  have hdot : '.' ∉ locale.head :=
    not_mem_head (by decide) fun part hpart => (h.separators part hpart).2.2.2
  rw [cutAt_of_not_mem hdot]
  exact Text.pieces_join (h.separators _ List.mem_cons_self).1
    fun part hpart => (h.separators part (List.mem_cons_of_mem _ hpart)).1

theorem hyphen_not_mem_identifier (h : locale.IsRead) : '-' ∉ locale.identifier.toList := by
  have hhead : '-' ∉ locale.head :=
    not_mem_head (by decide) fun part hpart => (h.separators part hpart).2.1
  rw [toList_identifier_eq, List.mem_append]
  rintro (hmem | hmem)
  · exact hhead hmem
  · cases hmodifier : locale.modifier with
    | none =>
      rw [hmodifier] at hmem
      cases hmem
    | some cs =>
      rw [hmodifier, Option.elim_some] at hmem
      rcases List.mem_cons.mp hmem with heq | hmem
      · cases heq
      · exact (h.modifier cs hmodifier).2.1 hmem

/-- An identifier that does not end in a blank is a normal tag. -/
theorem normalizeTag_identifier (h : locale.IsRead)
    (hend : Text.endsInBlank locale.identifier.toList = false) :
    normalizeTag locale.identifier.toList = locale.identifier.toList := by
  have hletters := h.alphabetic
  unfold Text.isAlphabetic at hletters
  rw [Bool.and_eq_true, Bool.not_eq_true', List.all_eq_true] at hletters
  obtain ⟨hempty, hletters⟩ := hletters
  have htrim : Text.trim locale.identifier.toList = locale.identifier.toList := by
    cases hlanguage : locale.language with
    | nil =>
      rw [hlanguage] at hempty
      cases hempty
    | cons c rest =>
      have hc : Text.isBlank c = false := by
        by_contra hblank
        rw [Bool.not_eq_false] at hblank
        have hletter := hletters c (hlanguage ▸ List.mem_cons_self)
        rw [Text.not_isLetter_of_isBlank hblank] at hletter
        cases hletter
      rw [toList_identifier_eq, head, hlanguage, List.cons_append, List.cons_append] at hend ⊢
      exact Text.trim_eq_self hc hend
  rw [normalizeTag, htrim, Text.replaceChar_eq_map]
  have hself : ∀ c ∈ locale.identifier.toList, (if c = '-' then '_' else c) = id c := by
    intro c hc
    have hne : c ≠ '-' := by
      rintro rfl
      exact h.hyphen_not_mem_identifier hc
    rw [if_neg hne, id]
  rw [List.map_congr_left hself, List.map_id]

/-- What an identifier that does not end in a blank is read as. -/
theorem parse?_identifier_iff (h : locale.IsRead)
    (hend : Text.endsInBlank locale.identifier.toList = false) {other : Locale} :
    parse? (normalizeTag locale.identifier.toList) = some other ↔
      (∃ script territory variant,
        locale.parts = script.toList ++ (territory.toList ++ variant.toList) ∧
        other.ReadFrom locale.language script territory variant) ∧
      other.modifier = locale.modifier := by
  have hmodifier : (if locale.modifier.getD [] = [] then none else some (locale.modifier.getD [])) =
      locale.modifier := by
    cases hcs : locale.modifier with
    | none => rfl
    | some cs => exact if_neg (h.modifier cs hcs).1
  rw [h.normalizeTag_identifier hend, parse?_eq_some_iff, h.cutAt_identifier, h.pieces_head, hmodifier]
  constructor
  · rintro ⟨⟨first, script, territory, variant, hparts, hread⟩, hsame⟩
    obtain ⟨rfl, hrest⟩ := List.cons.inj hparts
    exact ⟨⟨script, territory, variant, hrest, hread⟩, hsame⟩
  · rintro ⟨⟨script, territory, variant, hparts, hread⟩, hsame⟩
    exact ⟨⟨_, script, territory, variant, by rw [hparts], hread⟩, hsame⟩

end IsRead

/-- Whether pieces can be read as the parts of a locale behind its language, and conversion leaves them as
they are. -/
structure Settled (script territory variant : Option (List Char)) : Prop where
  script : ∀ piece, script = some piece → isScript piece = true ∧ Text.title piece = piece
  territory : ∀ piece, territory = some piece → territory? piece = some piece
  variant : ∀ piece, variant = some piece → announcesVariant piece = true ∧ Text.upper piece = piece

theorem rel_self_of_settled {r : List Char → List Char → Prop} {part? : Option (List Char)}
    (h : ∀ piece, part? = some piece → r piece piece) : Option.Rel r part? part? := by
  cases part? with
  | none => exact .none
  | some piece => exact .some (h piece rfl)

theorem Settled.readFrom {script territory variant : Option (List Char)}
    (h : Settled script territory variant) {language : List Char}
    (halphabetic : Text.isAlphabetic language = true) (hlower : Text.lower language = language)
    (modifier : Option (List Char)) :
    (⟨language, script, territory, variant, modifier⟩ : Locale).ReadFrom language script territory
      variant := by
  refine ⟨hlower.symm, halphabetic, ?_, ?_, ?_⟩
  · exact rel_self_of_settled fun piece hpiece =>
      ⟨(h.script piece hpiece).1, (h.script piece hpiece).2.symm⟩
  · exact rel_self_of_settled h.territory
  · exact rel_self_of_settled fun piece hpiece =>
      ⟨(h.variant piece hpiece).1, (h.variant piece hpiece).2.symm⟩

theorem of_rel_self {r : List Char → List Char → Prop} {part? : Option (List Char)}
    (h : Option.Rel r part? part?) {piece : List Char} (hpiece : part? = some piece) :
    r piece piece := by
  rw [hpiece] at h
  cases h with
  | some h => exact h

/-- Related parts at the start of the same list are the same. -/
theorem eq_of_toList_append {r : List Char → List Char → Prop} {a b : Option (List Char)}
    (h : Option.Rel r a b) {rest further : List (List Char)}
    (heq : b.toList ++ rest = a.toList ++ further) : a = b ∧ rest = further := by
  cases h with
  | none => exact ⟨rfl, heq⟩
  | some _ =>
    obtain ⟨hpart, hrest⟩ := List.cons.inj heq
    exact ⟨congrArg some hpart.symm, hrest⟩

/-- Parts that are what they were read from are settled. -/
theorem ReadFrom.settled {locale : Locale} {first : List Char}
    {script territory variant : Option (List Char)}
    (h : locale.ReadFrom first script territory variant)
    (hparts : locale.parts = script.toList ++ (territory.toList ++ variant.toList)) :
    Settled script territory variant := by
  obtain ⟨language, script', territory', variant', modifier⟩ := locale
  obtain ⟨_, _, hscript, hterritory, hvariant⟩ := h
  dsimp only at hscript hterritory hvariant
  obtain ⟨rfl, hrest⟩ := eq_of_toList_append hscript hparts
  obtain ⟨rfl, hlast⟩ := eq_of_toList_append hterritory hrest
  have hend : variant'.toList ++ [] = variant.toList ++ [] := congrArg (· ++ []) hlast
  obtain ⟨rfl, _⟩ := eq_of_toList_append hvariant hend
  refine ⟨?_, ?_, ?_⟩
  · intro piece hpiece
    obtain ⟨hshape, htitle⟩ := of_rel_self hscript hpiece
    exact ⟨hshape, htitle.symm⟩
  · intro piece hpiece
    exact of_rel_self hterritory hpiece
  · intro piece hpiece
    obtain ⟨hshape, hupper⟩ := of_rel_self hvariant hpiece
    exact ⟨hshape, hupper.symm⟩

theorem resolve_eq_ok_iff {tag identifier : String} : resolve (some tag) = .ok identifier ↔
    ∃ locale, parse? (normalizeTag tag.toList) = some locale ∧ locale.identifier = identifier := by
  constructor
  · intro h
    obtain ⟨locale, hparse, hidentifier⟩ := parse?_of_resolve h
    exact ⟨locale, hparse, hidentifier.symm⟩
  · rintro ⟨locale, hparse, rfl⟩
    simp only [resolve, hparse]

theorem not_isBlank_of_mem_title {piece : List Char} (h : isScript piece = true) {c : Char}
    (hc : c ∈ Text.title piece) : Text.isBlank c = false := by
  by_contra hblank
  rw [Bool.not_eq_false] at hblank
  have hmem := Text.Case.mem_of_mem_titleFrom hc (Text.Case.unmade_of_isBlank hblank)
  unfold isScript at h
  rw [Bool.and_eq_true, List.all_eq_true] at h
  have hletter := h.2 c hmem
  rw [Text.not_isLetter_of_isBlank hblank] at hletter
  cases hletter

theorem not_isBlank_of_mem_territory {piece part : List Char} (h : territory? piece = some part)
    {c : Char} (hc : c ∈ part) : Text.isBlank c = false := by
  by_contra hblank
  rw [Bool.not_eq_false] at hblank
  unfold territory? at h
  split at h
  · rename_i hshape
    rw [← Option.some.inj h] at hc
    have hletter := List.all_eq_true.mp hshape.2 c
      (Text.mem_of_mem_upper hc (Text.Case.unmade_of_isBlank hblank))
    rw [Text.not_isLetter_of_isBlank hblank] at hletter
    cases hletter
  · split at h
    · rename_i hshape
      rw [← Option.some.inj h] at hc
      have hdigit := List.all_eq_true.mp hshape.2 c hc
      rw [Text.not_isDigit_of_isBlank hblank] at hdigit
      cases hdigit
    · cases h

/-- Only the variant of a locale has blanks. -/
theorem ReadFrom.not_isBlank {locale : Locale} {first : List Char}
    {script territory : Option (List Char)} (h : locale.ReadFrom first script territory none)
    {c : Char} (hc : c ∈ locale.head) : Text.isBlank c = false := by
  obtain ⟨language, script', territory', variant', modifier⟩ := locale
  obtain ⟨_, halphabetic, hscript, hterritory, hvariant⟩ := h
  dsimp only at halphabetic hscript hterritory hvariant
  cases hvariant
  rw [head, List.mem_append, List.mem_flatMap] at hc
  rcases hc with hc | ⟨part, hpart, hc⟩
  · by_contra hblank
    rw [Bool.not_eq_false] at hblank
    unfold Text.isAlphabetic at halphabetic
    rw [Bool.and_eq_true, List.all_eq_true] at halphabetic
    have hletter := halphabetic.2 c hc
    rw [Text.not_isLetter_of_isBlank hblank] at hletter
    cases hletter
  · simp only [parts, List.mem_append, Option.mem_toList, Option.toList_none, List.not_mem_nil,
      or_false] at hpart
    rcases List.mem_cons.mp hc with rfl | hc
    · decide
    · rcases hpart with rfl | rfl
      · cases hscript with
        | some h =>
          obtain ⟨hshape, rfl⟩ := h
          exact not_isBlank_of_mem_title hshape hc
      · cases hterritory with
        | some h => exact not_isBlank_of_mem_territory h hc

/-- Without a modifier and a charset, an identifier ends in a blank only if the tag does. -/
theorem endsInBlank_identifier {tag : List Char} {locale : Locale} (h : parse? tag = some locale)
    (hat : '@' ∉ tag) (hdot : '.' ∉ tag) (hend : Text.endsInBlank tag = false) :
    Text.endsInBlank locale.identifier.toList = false := by
  obtain ⟨⟨first, script, territory, variant, hpieces, hread⟩, hmodifier⟩ := parse?_eq_some_iff.mp h
  rw [cutAt_of_not_mem hat] at hpieces hmodifier
  rw [cutAt_of_not_mem hdot] at hpieces
  rw [toList_identifier_eq, hmodifier, if_pos rfl, Option.elim_none, List.append_nil]
  cases variant with
  | none =>
    by_contra hblank
    rw [Bool.not_eq_false, Text.endsInBlank, Option.any_eq_true] at hblank
    obtain ⟨c, hlast, hc⟩ := hblank
    rw [hread.not_isBlank (List.mem_of_getLast? hlast)] at hc
    cases hc
  | some piece =>
    have hvariant := hread.variant
    generalize hpart : locale.variant = part? at hvariant
    cases hvariant with
    | some h =>
      obtain ⟨hshape, rfl⟩ := h
      have hpiece : piece ≠ [] := by
        rintro rfl
        cases hshape
      have hupper : Text.upper piece ≠ [] := by
        intro hnil
        have hlength := Text.length_le_upper piece
        rw [hnil] at hlength
        exact hpiece (List.length_eq_zero_iff.mp (Nat.le_zero.mp hlength))
      have hlast : Text.pieces '_' tag =
          (first :: (script.toList ++ territory.toList)) ++ [piece] := by
        rw [hpieces, Option.toList_some, List.cons_append, List.append_assoc]
      obtain ⟨start, rfl⟩ := Text.exists_of_pieces_eq_append hlast
      rw [Text.endsInBlank_append hpiece] at hend
      have hhead : locale.head = (locale.language ++ (locale.script.toList ++
          locale.territory.toList).flatMap (List.cons '_') ++ ['_']) ++ Text.upper piece := by
        rw [head, parts, hpart]
        simp
      rw [hhead, Text.endsInBlank_append hupper]
      exact Text.endsInBlank_upper hend

/-- An identifier that ends in a blank does not name itself. -/
theorem IsRead.endsInBlank_of_resolve {locale : Locale} (h : locale.IsRead)
    (hself : resolve (some locale.identifier) = .ok locale.identifier) :
    Text.endsInBlank locale.identifier.toList = false := by
  cases hmodifier : locale.modifier with
  | some cs =>
    obtain ⟨hne, _, hend⟩ := h.modifier cs hmodifier
    rw [toList_identifier_eq, hmodifier, Option.elim_some, ← List.singleton_append,
      ← List.append_assoc, Text.endsInBlank_append hne, hend]
  | none =>
    obtain ⟨other, hparse, hidentifier⟩ := resolve_eq_ok_iff.mp hself
    have htext : locale.identifier.toList = locale.head := by
      rw [toList_identifier_eq, hmodifier, Option.elim_none, List.append_nil]
    have hat : '@' ∉ locale.identifier.toList :=
      htext ▸ not_mem_head (by decide) fun part hpart => (h.separators part hpart).2.2.1
    have hdot : '.' ∉ locale.identifier.toList :=
      htext ▸ not_mem_head (by decide) fun part hpart => (h.separators part hpart).2.2.2
    have hend := endsInBlank_identifier hparse
      (fun hmem => hat (mem_of_mem_normalizeTag hmem (by decide)))
      (fun hmem => hdot (mem_of_mem_normalizeTag hmem (by decide))) (endsInBlank_normalizeTag _)
    rwa [hidentifier] at hend

theorem IsRead.resolve_identifier_iff {locale : Locale} (h : locale.IsRead) :
    resolve (some locale.identifier) = .ok locale.identifier ↔
      Text.endsInBlank locale.identifier.toList = false ∧
      ∃ script territory variant,
        locale.parts = script.toList ++ (territory.toList ++ variant.toList) ∧
        Settled script territory variant := by
  constructor
  · intro hself
    have hend := h.endsInBlank_of_resolve hself
    refine ⟨hend, ?_⟩
    obtain ⟨other, hparse, hidentifier⟩ := resolve_eq_ok_iff.mp hself
    have hother := isRead_of_parse? hparse
    obtain ⟨⟨script, territory, variant, hparts, hread⟩, _⟩ := (h.parse?_identifier_iff hend).mp hparse
    -- The two identifiers are the same text, so their parts are the same pieces.
    have hhead : other.head = locale.head := by
      have hcut := h.cutAt_identifier
      rw [← hidentifier, hother.cutAt_identifier] at hcut
      exact (Prod.mk.inj hcut).1
    have hpieces := hother.pieces_head
    rw [hhead, h.pieces_head] at hpieces
    obtain ⟨_, hsame⟩ := List.cons.inj hpieces
    exact ⟨script, territory, variant, hparts, hread.settled (hsame ▸ hparts)⟩
  · rintro ⟨hend, script, territory, variant, hparts, hsettled⟩
    have hread := hsettled.readFrom h.alphabetic h.lower locale.modifier
    refine resolve_eq_ok_iff.mpr ⟨⟨locale.language, script, territory, variant, locale.modifier⟩,
      (h.parse?_identifier_iff hend).mpr ⟨⟨script, territory, variant, hparts, hread⟩, rfl⟩, ?_⟩
    apply String.toList_inj.mp
    rw [toList_identifier_eq, toList_identifier_eq, head, head, hparts]
    rfl

theorem isScript_title {piece : List Char} (h : isScript piece = true)
    (hsimple : ∀ c ∈ piece, Text.Case.IsSimple c) :
    isScript (Text.title piece) = true ∧ Text.title (Text.title piece) = Text.title piece := by
  unfold isScript at h ⊢
  rw [Bool.and_eq_true, beq_iff_eq] at h
  have hlength : (Text.title piece).length = piece.length :=
    Text.Case.length_titleFrom hsimple [] false
  have hletters : (Text.title piece).all Text.isLetter = true :=
    Text.Case.all_letter_titleFrom hlength h.2
  rw [hlength, h.1, hletters]
  exact ⟨rfl, Text.title_title hlength⟩

theorem territory?_of_simple {piece part : List Char} (h : territory? piece = some part)
    (hsimple : ∀ c ∈ piece, Text.Case.IsSimple c) : territory? part = some part := by
  rcases eq_of_territory? h with rfl | rfl
  · by_cases hshape : piece.length = 2 ∧ piece.all Text.isLetter = true
    · have hupper : (Text.upper piece).length = 2 ∧ (Text.upper piece).all Text.isLetter = true :=
        ⟨(Text.length_upper hsimple).trans hshape.1, Text.all_letter_upper hsimple hshape.2⟩
      rw [territory?, if_pos hupper, Text.upper_upper]
    · rw [territory?, if_neg hshape] at h
      split at h
      · rw [← Option.some.inj h, territory?, if_neg hshape, if_pos ‹_›]
      · cases h
  · exact h

theorem announcesVariant_upper {piece : List Char} (h : announcesVariant piece = true)
    (hsimple : ∀ c ∈ piece, Text.Case.IsSimple c) : announcesVariant (Text.upper piece) = true := by
  cases piece with
  | nil => cases h
  | cons c rest =>
    obtain ⟨hc, hrest⟩ := List.forall_mem_cons.mp hsimple
    obtain ⟨d, hd⟩ := List.length_eq_one_iff.mp hc.1
    simp only [announcesVariant, Bool.or_eq_true, Bool.and_eq_true, beq_iff_eq,
      decide_eq_true_eq] at h
    rw [Text.upper_cons, hd, List.singleton_append]
    simp only [announcesVariant, Text.length_upper hrest, Bool.or_eq_true, Bool.and_eq_true,
      beq_iff_eq, decide_eq_true_eq]
    rcases h with ⟨hlength, hdigit⟩ | ⟨hlength, hletter⟩
    · have hself := List.singleton_inj.mp (hd.symm.trans (Text.upperChar_of_isDigit hdigit))
      exact .inl ⟨hlength, hself ▸ hdigit⟩
    · exact .inr ⟨hlength, (Text.Case.sameKind_of_upperChar hd).letter hletter⟩

/-- If no character has a longer form in another case, the parts of a locale are settled. -/
theorem settled_of_simple {tag : List Char} {locale : Locale} (h : parse? tag = some locale)
    (hsimple : ∀ c ∈ (cutAt '.' (cutAt '@' tag).1).1, Text.Case.IsSimple c) :
    Settled locale.script locale.territory locale.variant := by
  obtain ⟨⟨first, script, territory, variant, hpieces, hread⟩, _⟩ := parse?_eq_some_iff.mp h
  have hsimple : ∀ piece ∈ script.toList ++ (territory.toList ++ variant.toList), ∀ c ∈ piece,
      Text.Case.IsSimple c := by
    intro piece hpiece c hc
    have hmem := List.mem_cons_of_mem first hpiece
    rw [← hpieces] at hmem
    exact hsimple c (Text.mem_of_mem_pieces hmem hc)
  obtain ⟨language, script', territory', variant', modifier⟩ := locale
  obtain ⟨_, _, hscript, hterritory, hvariant⟩ := hread
  dsimp only at hscript hterritory hvariant ⊢
  simp only [List.mem_append, Option.mem_toList] at hsimple
  refine ⟨?_, ?_, ?_⟩
  · rintro part rfl
    cases hscript with
    | some h =>
      obtain ⟨hshape, rfl⟩ := h
      exact isScript_title hshape (hsimple _ (.inl rfl))
  · rintro part rfl
    cases hterritory with
    | some h => exact territory?_of_simple h (hsimple _ (.inr (.inl rfl)))
  · rintro part rfl
    cases hvariant with
    | some h =>
      obtain ⟨hshape, rfl⟩ := h
      exact ⟨announcesVariant_upper hshape (hsimple _ (.inr (.inr rfl))), Text.upper_upper _⟩

/-- The identifier of a locale names itself exactly if it does not end in a blank and its parts can be read
as parts that conversion leaves as they are. They can, unless some character of the tag has a longer form in
another case. -/
theorem resolve_identifier {tag identifier : String} (h : resolve (some tag) = .ok identifier) :
    ∃ locale, parse? (normalizeTag tag.toList) = some locale ∧ locale.identifier = identifier ∧
      (resolve (some identifier) = .ok identifier ↔ Text.endsInBlank identifier.toList = false ∧
        ∃ script territory variant,
          locale.parts = script.toList ++ (territory.toList ++ variant.toList) ∧
          Settled script territory variant) ∧
      ((∀ c ∈ (cutAt '.' (cutAt '@' (normalizeTag tag.toList)).1).1, Text.Case.IsSimple c) →
        (resolve (some identifier) = .ok identifier ↔
          Text.endsInBlank identifier.toList = false)) := by
  obtain ⟨locale, hparse, rfl⟩ := resolve_eq_ok_iff.mp h
  have hiff := (isRead_of_parse? hparse).resolve_identifier_iff
  refine ⟨locale, hparse, rfl, hiff, ?_⟩
  intro hsimple
  rw [hiff]
  exact and_iff_left ⟨_, _, _, rfl, settled_of_simple hparse hsimple⟩

theorem resolve_identifier_serbian : resolve (some "SR_latn-rs.utf-8") = .ok "sr_Latn_RS" ∧
    resolve (some "sr_Latn_RS") = .ok "sr_Latn_RS" := by
  have h : resolve (some "SR_latn-rs.utf-8") = .ok "sr_Latn_RS" := by decide +kernel
  obtain ⟨_, _, _, _, hself⟩ := resolve_identifier h
  have hascii : ((cutAt '.' (cutAt '@' (normalizeTag "SR_latn-rs.utf-8".toList)).1).1.all
      fun c => decide (c.toNat < 128)) = true := by decide +kernel
  have hsimple := hself fun c hc =>
    Text.Case.isSimple_of_lt (of_decide_eq_true (List.all_eq_true.mp hascii c hc))
  exact ⟨h, hsimple.mpr (by decide +kernel)⟩

/-- A charset leaves a blank in front of it at the end, and two letters may be four in upper case: these
identifiers name other locales. -/
theorem resolve_identifier_blank :
    resolve (some "de_ABCD .utf8") = .ok "de_ABCD " ∧ resolve (some "de_ABCD ") = .ok "de_Abcd" ∧
    resolve (some "de_ßß") = .ok "de_SSSS" ∧ resolve (some "de_SSSS") = .ok "de_Ssss" := by
  decide +kernel

end Locale

end ResourceBundle
