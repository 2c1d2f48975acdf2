import Mathlib.Logic.Relation
import Mathlib.Tactic.MkIffOfInductiveProp
import ResourceBundle.Proofs.Delivery
import ResourceBundle.Proofs.LocaleParts

/-! # The spelling of language tags

A tag may be spelled with letters of either case, with hyphens or underscores, and with blanks around it.
All spellings name one locale, or none of them names any. So the translations for a language share a
bundle, and those for the default language are in the bundle without a suffix. -/

namespace ResourceBundle

namespace Text

theorem toLower_of_not_isAlpha {c : Char} (h : c.isAlpha = false) : c.toLower = c := by
  unfold Char.toLower
  split
  · rename_i hupper
    have halpha : c.isAlpha = true := Bool.or_eq_true_iff.mpr (.inl (decide_eq_true hupper))
    rw [halpha] at h
    cases h
  · rfl

/-- What is the same for both cases of a letter of ASCII. -/
@[mk_iff]
structure IsCaseless (c : Char) : Prop where
  alpha : c.toLower.isAlpha = c.isAlpha
  letter : isLetter c.toLower = isLetter c
  digit : isDigit c.toLower = isDigit c
  cased : Case.isCased c.toLower = Case.isCased c
  ignorable : Case.isIgnorable c.toLower = Case.isIgnorable c
  upper : Case.upperChar c.toLower = Case.upperChar c
  title : Case.titleChar c.toLower = Case.titleChar c
  lower : Case.lowerChar c.toLower = Case.lowerChar c
  sigma : c.toLower.toNat = 0x3A3 ↔ c.toNat = 0x3A3

instance (c : Char) : Decidable (IsCaseless c) := decidable_of_iff _ (isCaseless_iff c).symm

theorem lt_of_isAlpha {c : Char} (h : c.isAlpha = true) : c.toNat < 128 := by
  rw [← has_asciiLetters] at h
  simp only [RangeTable.has, asciiLetters, List.any_cons, List.any_nil, Bool.or_false,
    Bool.or_eq_true, Bool.and_eq_true, decide_eq_true_eq] at h
  omega

/-- The cases of the letters of ASCII make no difference. -/
theorem isCaseless (c : Char) : IsCaseless c := by
  cases halpha : c.isAlpha with
  | true => exact forall_ascii (by decide +kernel) (lt_of_isAlpha halpha)
  | false =>
    rw [isCaseless_iff, toLower_of_not_isAlpha halpha]
    exact ⟨rfl, rfl, rfl, rfl, rfl, rfl, rfl, rfl, .rfl⟩

theorem toLower_eq_iff {c d : Char} (hd : d.isAlpha = false) : c.toLower = d ↔ c = d := by
  constructor
  · intro h
    have halpha := (isCaseless c).alpha
    rw [h, hd] at halpha
    exact (toLower_of_not_isAlpha halpha.symm).symm.trans h
  · rintro rfl
    exact toLower_of_not_isAlpha hd

/-- Only a letter of ASCII has the lower case of another character. -/
theorem isAlpha_of_toLower_eq {c d : Char} (h : c.toLower = d.toLower) (hne : c ≠ d) :
    c.isAlpha = true := by
  by_contra halpha
  rw [Bool.not_eq_true] at halpha
  rw [toLower_of_not_isAlpha halpha] at h
  exact hne ((toLower_eq_iff halpha).mp h.symm).symm

theorem isBlank_of_isAlpha {c : Char} (h : c.isAlpha = true) : isBlank c = false := by
  cases hblank : isBlank c with
  | false => rfl
  | true =>
    have hletter := not_isLetter_of_isBlank hblank
    rw [isLetter, if_pos (lt_of_isAlpha h), h] at hletter
    cases hletter

theorem toLower_of_isDigit {c : Char} (h : isDigit c = true) : c.toLower = c := by
  cases halpha : c.isAlpha with
  | true =>
    have hletter := not_isLetter_of_isDigit h
    rw [isLetter, if_pos (lt_of_isAlpha halpha), halpha] at hletter
    cases hletter
  | false => exact toLower_of_not_isAlpha halpha

@[simp] theorem isLetter_toLower (c : Char) : isLetter c.toLower = isLetter c :=
  (isCaseless c).letter

@[simp] theorem isDigit_toLower (c : Char) : isDigit c.toLower = isDigit c :=
  (isCaseless c).digit

namespace Case

@[simp] theorem isCased_toLower (c : Char) : isCased c.toLower = isCased c := (isCaseless c).cased

@[simp] theorem isIgnorable_toLower (c : Char) : isIgnorable c.toLower = isIgnorable c :=
  (isCaseless c).ignorable

@[simp] theorem upperChar_toLower (c : Char) : upperChar c.toLower = upperChar c :=
  (isCaseless c).upper

@[simp] theorem meetsCased_toLower (cs : List Char) :
    meetsCased (cs.map Char.toLower) = meetsCased cs := by
  unfold meetsCased
  induction cs with
  | nil => rfl
  | cons c cs ih =>
    cases hc : isIgnorable c with
    | true => simpa [List.dropWhile_cons, hc] using ih
    | false => simp [hc]

@[simp] theorem lowerBetween_toLower (before after : List Char) (c : Char) :
    lowerBetween (before.map Char.toLower) c.toLower (after.map Char.toLower) =
      lowerBetween before c after := by
  unfold lowerBetween
  simp only [meetsCased_toLower, (isCaseless c).lower, (isCaseless c).sigma]

@[simp] theorem lowerFrom_toLower (before cs : List Char) :
    lowerFrom (before.map Char.toLower) (cs.map Char.toLower) = lowerFrom before cs := by
  induction cs generalizing before with
  | nil => rfl
  | cons c cs ih =>
    have hrest := ih (c :: before)
    rw [List.map_cons] at hrest
    rw [List.map_cons, lowerFrom, lowerFrom, lowerBetween_toLower, hrest]

@[simp] theorem titleFrom_toLower (before : List Char) (inWord : Bool) (cs : List Char) :
    titleFrom (before.map Char.toLower) inWord (cs.map Char.toLower) =
      titleFrom before inWord cs := by
  induction cs generalizing before inWord with
  | nil => rfl
  | cons c cs ih =>
    have hrest := ih (c :: before) (isCased c)
    rw [List.map_cons] at hrest
    rw [List.map_cons, titleFrom, titleFrom, lowerBetween_toLower, (isCaseless c).title,
      isCased_toLower, hrest]

end Case

@[simp] theorem upper_toLower (cs : List Char) : upper (cs.map Char.toLower) = upper cs := by
  simp [upper, List.flatMap_map]

@[simp] theorem lower_toLower (cs : List Char) : lower (cs.map Char.toLower) = lower cs :=
  Case.lowerFrom_toLower [] cs

@[simp] theorem title_toLower (cs : List Char) : title (cs.map Char.toLower) = title cs :=
  Case.titleFrom_toLower [] false cs

theorem pieces_toLower {separator : Char} (h : separator.isAlpha = false) (cs : List Char) :
    pieces separator (cs.map Char.toLower) =
      (pieces separator cs).map (List.map Char.toLower) := by
  induction cs with
  | nil => rfl
  | cons c cs ih =>
    obtain ⟨first, rest, hpieces⟩ := List.exists_cons_of_ne_nil (pieces_ne_nil separator cs)
    by_cases hc : c = separator
    · simp [pieces, ih, hc, toLower_eq_iff h]
    · simp [pieces, ih, hc, toLower_eq_iff h, hpieces]

theorem trimStart_append_cons {c : Char} (hc : isBlank c = false) (before after : List Char) :
    trimStart (before ++ c :: after) = trimStart before ++ c :: after := by
  induction before with
  | nil => simp [trimStart, hc]
  | cons d before ih =>
    cases hd : isBlank d with
    | true => simpa [trimStart, hd] using ih
    | false => simp [trimStart, hd]

theorem trimEnd_append_cons {c : Char} (hc : isBlank c = false) (before after : List Char) :
    trimEnd (before ++ c :: after) = before ++ c :: trimEnd after := by
  have hreverse : (before ++ c :: after).reverse = after.reverse ++ c :: before.reverse := by simp
  have hstart := trimStart_append_cons hc after.reverse before.reverse
  unfold trimStart at hstart
  rw [trimEnd, hreverse, hstart, trimEnd]
  simp

/-- Trimming reaches no further than the next character that is not blank. -/
theorem trim_append_cons {c : Char} (hc : isBlank c = false) (before after : List Char) :
    trim (before ++ c :: after) = trimStart before ++ c :: trimEnd after := by
  rw [trim, trimStart_append_cons hc, trimEnd_append_cons hc]

theorem trim_cons_blank {c : Char} (hc : isBlank c = true) (cs : List Char) :
    trim (c :: cs) = trim cs := by
  simp [trim, trimStart, hc]

theorem trim_append_blank {c : Char} (hc : isBlank c = true) (cs : List Char) :
    trim (cs ++ [c]) = trim cs := by
  induction cs with
  | nil => simp [trim, trimStart, trimEnd, hc]
  | cons d cs ih =>
    cases hd : isBlank d with
    | true => rw [List.cons_append, trim_cons_blank hd, ih, trim_cons_blank hd]
    | false => simp [trim, trimStart, trimEnd, hc, hd]

end Text

namespace Locale

/-- One change of the spelling of a tag: the case of a letter before the modifier, a hyphen for an
underscore, or a blank at one of the ends. -/
inductive Respelled : List Char → List Char → Prop
  | letter {before after : List Char} {c d : Char} (hbefore : '@' ∉ before)
      (hsame : c.toLower = d.toLower) : Respelled (before ++ c :: after) (before ++ d :: after)
  | separator (before after : List Char) : Respelled (before ++ '-' :: after) (before ++ '_' :: after)
  | start {c : Char} (hblank : Text.isBlank c = true) (cs : List Char) : Respelled (c :: cs) cs
  | finish {c : Char} (hblank : Text.isBlank c = true) (cs : List Char) : Respelled (cs ++ [c]) cs

/-- Whether two tags differ only in their spelling. -/
def SameSpelling : List Char → List Char → Prop := Relation.EqvGen Respelled

theorem cutAt_toLower {separator : Char} (h : separator.isAlpha = false) (cs : List Char) :
    cutAt separator (cs.map Char.toLower) =
      ((cutAt separator cs).1.map Char.toLower, (cutAt separator cs).2.map Char.toLower) := by
  induction cs with
  | nil => rfl
  | cons c cs ih =>
    by_cases hc : c = separator
    · rw [List.map_cons, (Text.toLower_eq_iff h).mpr hc, cutAt_cons_self, hc, cutAt_cons_self]
      rfl
    · rw [List.map_cons, cutAt_cons_of_ne (mt (Text.toLower_eq_iff h).mp hc), ih,
        cutAt_cons_of_ne hc]
      rfl

theorem isScript_toLower (part : List Char) : isScript (part.map Char.toLower) = isScript part := by
  simp [isScript, Function.comp_def]

theorem territory?_toLower (part : List Char) :
    territory? (part.map Char.toLower) = territory? part := by
  have hletters : (part.map Char.toLower).all Text.isLetter = part.all Text.isLetter := by
    simp [Function.comp_def]
  have hdigits : (part.map Char.toLower).all Text.isDigit = part.all Text.isDigit := by
    simp [Function.comp_def]
  unfold territory?
  rw [List.length_map, Text.upper_toLower, hletters, hdigits]
  split
  · rfl
  · split
    · rename_i hcode
      have hself : part.map Char.toLower = part.map id := List.map_congr_left
        fun c hc => Text.toLower_of_isDigit (List.all_eq_true.mp hcode.2 c hc)
      rw [hself, List.map_id]
    · rfl

theorem announcesVariant_toLower (part : List Char) :
    announcesVariant (part.map Char.toLower) = announcesVariant part := by
  cases part with
  | nil => rfl
  | cons c rest => simp [announcesVariant]

theorem takeScript_toLower (parts : List (List Char)) :
    takeScript (parts.map (List.map Char.toLower)) =
      ((takeScript parts).1, (takeScript parts).2.map (List.map Char.toLower)) := by
  cases parts with
  | nil => rfl
  | cons part rest =>
    by_cases hscript : isScript part = true
    · simp [takeScript, isScript_toLower, hscript]
    · simp [takeScript, isScript_toLower, hscript]

theorem takeTerritory_toLower (parts : List (List Char)) :
    takeTerritory (parts.map (List.map Char.toLower)) =
      ((takeTerritory parts).1, (takeTerritory parts).2.map (List.map Char.toLower)) := by
  cases parts with
  | nil => rfl
  | cons part rest =>
    cases hterritory : territory? part with
    | none => simp [takeTerritory, territory?_toLower, hterritory]
    | some territory => simp [takeTerritory, territory?_toLower, hterritory]

theorem takeVariant_toLower (parts : List (List Char)) :
    takeVariant (parts.map (List.map Char.toLower)) =
      ((takeVariant parts).1, (takeVariant parts).2.map (List.map Char.toLower)) := by
  cases parts with
  | nil => rfl
  | cons part rest =>
    by_cases hvariant : announcesVariant part = true
    · have hsame : announcesVariant (part.map Char.toLower) = true := by
        rw [announcesVariant_toLower, hvariant]
      have hupper : Text.upper ∘ List.map Char.toLower = Text.upper := funext Text.upper_toLower
      rw [List.map_cons, takeVariant, if_pos hsame, takeVariant, if_pos hvariant, ← List.map_cons,
        List.getLast?_map, Option.map_map, hupper, List.map_dropLast]
    · simp [takeVariant, announcesVariant_toLower, hvariant]

/-- What takes a part off from parts in any case takes the same one off. -/
theorem take_congr {take : List (List Char) → Option (List Char) × List (List Char)}
    (htake : ∀ parts, take (parts.map (List.map Char.toLower)) =
      ((take parts).1, (take parts).2.map (List.map Char.toLower)))
    {parts others : List (List Char)}
    (h : parts.map (List.map Char.toLower) = others.map (List.map Char.toLower)) :
    (take parts).1 = (take others).1 ∧
      (take parts).2.map (List.map Char.toLower) = (take others).2.map (List.map Char.toLower) := by
  have hsame := htake parts
  rw [h, htake others, Prod.mk.injEq] at hsame
  exact ⟨hsame.1.symm, hsame.2.symm⟩

/-- The case of the letters of ASCII before the modifier does not matter. -/
theorem parse?_congr {tag other : List Char}
    (hhead : (cutAt '@' tag).1.map Char.toLower = (cutAt '@' other).1.map Char.toLower)
    (hmodifier : (cutAt '@' tag).2 = (cutAt '@' other).2) : parse? tag = parse? other := by
  have hparts : ∀ head : List Char,
      (Text.pieces '_' (cutAt '.' head).1).map (List.map Char.toLower) =
        Text.pieces '_' (cutAt '.' (head.map Char.toLower)).1 := by
    intro head
    rw [cutAt_toLower rfl, Text.pieces_toLower rfl]
  have hpieces := hparts (cutAt '@' tag).1
  rw [hhead, ← hparts] at hpieces
  obtain ⟨first, rest, htag⟩ :=
    List.exists_cons_of_ne_nil (Text.pieces_ne_nil '_' (cutAt '.' (cutAt '@' tag).1).1)
  obtain ⟨first', rest', hother⟩ :=
    List.exists_cons_of_ne_nil (Text.pieces_ne_nil '_' (cutAt '.' (cutAt '@' other).1).1)
  rw [htag, hother, List.map_cons, List.map_cons, List.cons.injEq] at hpieces
  obtain ⟨hfirst, hrest⟩ := hpieces
  have hlanguage : Text.lower first = Text.lower first' := by
    rw [← Text.lower_toLower, hfirst, Text.lower_toLower]
  obtain ⟨hscript, hrest⟩ := take_congr takeScript_toLower hrest
  obtain ⟨hterritory, hrest⟩ := take_congr takeTerritory_toLower hrest
  obtain ⟨hvariant, hrest⟩ := take_congr takeVariant_toLower hrest
  have hempty := congrArg List.isEmpty hrest
  rw [List.isEmpty_map, List.isEmpty_map] at hempty
  simp only [parse?, htag, hother, hlanguage, hscript, hterritory, hvariant, hempty, hmodifier]

theorem normalizeTag_append_cons {c : Char} (hc : c.isAlpha = true) (before after : List Char) :
    normalizeTag (before ++ c :: after) = Text.replaceChar '-' ['_'] (Text.trimStart before) ++
      c :: Text.replaceChar '-' ['_'] (Text.trimEnd after) := by
  have hhyphen : c ≠ '-' := by
    rintro rfl
    cases hc
  rw [normalizeTag, Text.trim_append_cons (Text.isBlank_of_isAlpha hc)]
  simp [Text.replaceChar, hhyphen]

/-- A change of the spelling does not change what is read. -/
theorem Respelled.parse?_eq {cs ds : List Char} (h : Respelled cs ds) :
    parse? (normalizeTag cs) = parse? (normalizeTag ds) := by
  cases h with
  | @letter before after c d hbefore hsame =>
    by_cases hne : c = d
    · rw [hne]
    · have hc := Text.isAlpha_of_toLower_eq hsame hne
      have hd := Text.isAlpha_of_toLower_eq hsame.symm (Ne.symm hne)
      have hstart : '@' ∉ Text.replaceChar '-' ['_'] (Text.trimStart before) := by
        intro hmem
        obtain ⟨e, he, hmem⟩ := List.mem_flatMap.mp hmem
        split at hmem
        · cases List.mem_singleton.mp hmem
        · rw [← List.mem_singleton.mp hmem] at he
          exact hbefore ((List.dropWhile_sublist _).subset he)
      have hat : ∀ {e : Char}, e.isAlpha = true → e ≠ '@' := by
        rintro _ he rfl
        cases he
      rw [normalizeTag_append_cons hc, normalizeTag_append_cons hd]
      apply parse?_congr
      · rw [cutAt_append hstart, cutAt_append hstart, cutAt_cons_of_ne (hat hc),
          cutAt_cons_of_ne (hat hd), List.map_append, List.map_append, List.map_cons, List.map_cons,
          hsame]
      · rw [cutAt_append hstart, cutAt_append hstart, cutAt_cons_of_ne (hat hc),
          cutAt_cons_of_ne (hat hd)]
  | separator before after =>
    have hhyphen : Text.isBlank '-' = false := by decide
    have hscore : Text.isBlank '_' = false := by decide
    rw [normalizeTag, normalizeTag, Text.trim_append_cons hhyphen, Text.trim_append_cons hscore]
    simp [Text.replaceChar]
  | start hblank cs => rw [normalizeTag, normalizeTag, Text.trim_cons_blank hblank]
  | finish hblank cs => rw [normalizeTag, normalizeTag, Text.trim_append_blank hblank]

theorem SameSpelling.parse?_eq {cs ds : List Char} (h : SameSpelling cs ds) :
    parse? (normalizeTag cs) = parse? (normalizeTag ds) := by
  induction h with
  | rel _ _ h => exact h.parse?_eq
  | refl => rfl
  | symm _ _ _ ih => exact ih.symm
  | trans _ _ _ _ _ ih ih' => exact ih.trans ih'

/-- Two spellings name the same locale, or neither names one. -/
theorem SameSpelling.resolve {tag other : String} (h : SameSpelling tag.toList other.toList) :
    (∃ locale, resolve (some tag) = .ok locale ∧ resolve (some other) = .ok locale) ∨
      (resolve (some tag) = .error (.invalidLocale tag) ∧
        resolve (some other) = .error (.invalidLocale other)) := by
  simp only [Locale.resolve, h.parse?_eq]
  cases parse? (normalizeTag other.toList) with
  | some locale => exact .inl ⟨locale.identifier, rfl, rfl⟩
  | none => exact .inr ⟨rfl, rfl⟩

theorem SameSpelling.resolve_eq_ok {tag other locale : String}
    (h : SameSpelling tag.toList other.toList) (hlocale : Locale.resolve (some tag) = .ok locale) :
    Locale.resolve (some other) = .ok locale := by
  rcases h.resolve with ⟨same, htag, hother⟩ | ⟨htag, _⟩
  · rw [hlocale] at htag
    rw [hother, Except.ok.inj htag]
  · rw [hlocale] at htag
    cases htag

end Locale

/-- Whether a bundle, given with its locale, holds the entry of a contribution. -/
def Contribution.IsIn (c : Contribution) (bundle : String × List Entry) : Prop :=
  ∃ placed, c.Gives placed ∧ placed.locale = bundle.1 ∧ placed.entry ∈ bundle.2

/-- A contribution is in the bundle of the locale that its language names. -/
theorem Store.isIn_of_mem {cs : List Contribution} {store : Store}
    (h : List.Forall₂ Contribution.Gives cs store.placed) {c : Contribution} (hc : c ∈ cs)
    {locale : String} (hlocale : Locale.resolve c.language = .ok locale) :
    (locale, store.entriesFor locale) ∈ store.bundles ∧
      c.IsIn (locale, store.entriesFor locale) := by
  obtain ⟨placed, hplaced, hgives⟩ := Contribution.exists_gives_of_mem h hc
  have hsame : placed.locale = locale := (hgives.locale_iff locale).mp hlocale
  constructor
  · exact List.mem_map_of_mem (mem_locales.mpr ⟨placed, hplaced, hsame⟩)
  · subst hsame
    exact ⟨placed, hgives, rfl, mem_entriesFor.mpr hplaced⟩

theorem Processing.resolve_of_configure {settings : Settings} {round : Round}
    {configuration : Configuration} (h : configure settings round = .ok configuration) :
    Locale.resolve (some (defaultLanguage settings round)) = .ok configuration.defaultLocale := by
  unfold configure at h
  cases hchecked : Collection.checkPrefix (messagePrefix settings round) with
  | error failure =>
    simp only [hchecked] at h
    cases h
  | ok _ =>
    cases hlocale : Locale.resolve (some (defaultLanguage settings round)) with
    | error failure =>
      simp only [hchecked, hlocale] at h
      cases h
    | ok locale =>
      simp only [hchecked, hlocale] at h
      cases h
      rfl

open Processing in
/-- The spelling of a tag does not matter: both spellings name the same locale, or neither names one. If a
round is processed to its end, translations whose languages are spelled differently are in one bundle, and
those for the default language are in the bundle without a suffix. -/
theorem Locale.resolve_respelled {tag other : String} (h : SameSpelling tag.toList other.toList) :
    ((∃ locale, resolve (some tag) = .ok locale ∧ resolve (some other) = .ok locale) ∨
      (resolve (some tag) = .error (.invalidLocale tag) ∧
        resolve (some other) = .error (.invalidLocale other))) ∧
    ∀ {σ ρ : Type} {processor : Processor σ ρ} {files : LinkedTree} {round : Round} {s s' : Session σ},
      (process processor files round).run s = .ok true s' →
      (∀ root, additionalRoot processor files round = some root → AdditionalText.Conforms root) →
      ∃ (configuration : Configuration) (bundles : List (String × List Entry)),
        configure processor.settings round = .ok configuration ∧
        (writes processor files round s = bundles.flatMap fun bundle =>
          let path := Bundle.path configuration.baseName bundle.1 configuration.defaultLocale
          [⟨.sources, path, Bundle.payload bundle.2⟩, ⟨.classes, path, Bundle.payload bundle.2⟩]) ∧
        let contributions := round.elements.flatMap (·.contributions configuration.messagePrefix) ++
          additionalContributions processor files round
        (∀ c ∈ contributions, ∀ d ∈ contributions, c.language = some tag → d.language = some other →
          ∃ bundle ∈ bundles, c.IsIn bundle ∧ d.IsIn bundle) ∧
        (defaultLanguage processor.settings round = tag →
          ∀ d ∈ contributions, d.language = some other → ∃ bundle ∈ bundles, d.IsIn bundle ∧
            Bundle.path configuration.baseName bundle.1 configuration.defaultLocale =
              String.ofList (Text.replaceChar '.' ['/'] configuration.baseName.toList) ++
                Bundle.ending) := by
  refine ⟨h.resolve, ?_⟩
  intro σ ρ processor files round s s' hrun hconforms
  obtain ⟨configuration, store, hconfiguration, _, _, hgives, hwrites⟩ :=
    exists_store_of_process hrun hconforms
  refine ⟨configuration, store.bundles, hconfiguration, hwrites, ?_, ?_⟩
  · intro c hc d hd htag hother
    obtain ⟨placed, _, hplaced⟩ := Contribution.exists_gives_of_mem hgives hc
    have hlocale := hplaced.locale
    have hsame : resolve d.language = .ok placed.locale := by
      rw [htag] at hlocale
      rw [hother]
      exact h.resolve_eq_ok hlocale
    obtain ⟨hbundle, hfirst⟩ := Store.isIn_of_mem hgives hc hlocale
    obtain ⟨_, hsecond⟩ := Store.isIn_of_mem hgives hd hsame
    exact ⟨_, hbundle, hfirst, hsecond⟩
  · intro htag d hd hother
    have hdefault := resolve_of_configure hconfiguration
    have hsame : resolve d.language = .ok configuration.defaultLocale := by
      rw [htag] at hdefault
      rw [hother]
      exact h.resolve_eq_ok hdefault
    obtain ⟨hbundle, hin⟩ := Store.isIn_of_mem hgives hd hsame
    exact ⟨_, hbundle, hin, Bundle.path_eq_iff.mpr rfl⟩

namespace Locale

open Processing

def spelledElement (name language : String) : Element :=
  ⟨.field, name, "app.Main", none, none, [⟨"", "", .caption, [⟨language, "Text"⟩]⟩]⟩

/-- A round whose two fields have their captions in the default language, in two spellings. -/
def spelledRound : Round :=
  ⟨[spelledElement "m_Open" "en", spelledElement "m_Save" " EN"], [], [], [], false⟩

def spelledContribution (key language : String) : Contribution :=
  ⟨some language, key, false, "", "Text", "app.Main"⟩

theorem contributions_spelledRound :
    spelledRound.elements.flatMap (·.contributions "MSG") =
      [spelledContribution "app.Main.CAPTION_Open" "en",
        spelledContribution "app.Main.CAPTION_Save" " EN"] := by
  decide +kernel

theorem collectable_spelledElement {name : String} (key : DerivedKey)
    (hkey : Key.derive .field name "" .caption = .ok key) (language : String) :
    (spelledElement name language).Collectable := by
  refine ⟨nofun, fun _ => rfl, fun note hnote => ?_⟩
  rw [List.mem_singleton.mp hnote]
  exact ⟨_, hkey⟩

theorem configure_spelledRound : configure titleProcessor.settings spelledRound =
    .ok ⟨"MSG", "TextsAndMessages", "en"⟩ := by
  decide +kernel

theorem run_process_spelledRound :
    ∃ s', (process titleProcessor titleTree spelledRound).run ⟨.empty, []⟩ = .ok true s' := by
  have hcollectable : ∀ element ∈ spelledRound.markedElements, element.Collectable := by
    rintro element (_ | ⟨_, _ | ⟨_, ⟨⟩⟩⟩)
    · exact collectable_spelledElement ⟨.caption, "Open"⟩ (by decide +kernel) "en"
    · exact collectable_spelledElement ⟨.caption, "Save"⟩ (by decide +kernel) " EN"
  have hopen : resolve (some "en") = .ok "en" := by decide +kernel
  have hsave : resolve (some " EN") = .ok "en" := by decide +kernel
  have hgerman : resolve (some "de") = .ok "de" := by decide +kernel
  obtain ⟨first, hfirst⟩ := Contribution.gives_of_resolve
    (c := spelledContribution "app.Main.CAPTION_Open" "en") (by decide) hopen
  obtain ⟨second, hsecond⟩ := Contribution.gives_of_resolve
    (c := spelledContribution "app.Main.CAPTION_Save" " EN") (by decide) hsave
  obtain ⟨title, htitle⟩ := Contribution.gives_of_resolve
    (c := ⟨some "de", "Title", false, "", "Ti", AdditionalText.fileName⟩) (by decide) hgerman
  have hgives : List.Forall₂ Contribution.Gives
      (spelledRound.markedElements.flatMap (·.contributions "MSG"))
      [⟨"en", first⟩, ⟨"en", second⟩] := by
    rw [Round.flatMap_markedElements, contributions_spelledRound]
    exact .cons hfirst (.cons hsecond .nil)
  have hfurther : List.Forall₂ Contribution.Gives
      (AdditionalText.contributions AdditionalText.fileName AdditionalText.titleRoot)
      [⟨"de", title⟩] := .cons htitle .nil
  have hkeys : first.key ≠ second.key := by
    rw [hfirst.content.1, hsecond.content.1]
    decide
  exact run_process_titleTree (by decide +kernel) configure_spelledRound rfl hcollectable hgives
    hfurther
    (by simp [Placed.slot, hkeys])

theorem resolve_respelled_english : SameSpelling "en".toList " EN".toList ∧
    resolve (some " EN") = .ok "en" ∧
    ∃ (s' : Session Memory.Written) (bundles : List (String × List Entry)),
      (process titleProcessor titleTree spelledRound).run ⟨.empty, []⟩ = .ok true s' ∧
      (∃ bundle ∈ bundles, (spelledContribution "app.Main.CAPTION_Open" "en").IsIn bundle ∧
        (spelledContribution "app.Main.CAPTION_Save" " EN").IsIn bundle) ∧
      ∃ bundle ∈ bundles, (spelledContribution "app.Main.CAPTION_Save" " EN").IsIn bundle ∧
        Bundle.path "TextsAndMessages" bundle.1 "en" = "TextsAndMessages.properties" := by
  have hspelling : SameSpelling "en".toList " EN".toList := by
    have hfirst : SameSpelling ([] ++ 'e' :: ['n']) ([] ++ 'E' :: ['n']) :=
      .rel _ _ (.letter (by decide) (by decide))
    have hsecond : SameSpelling (['E'] ++ 'n' :: []) (['E'] ++ 'N' :: []) :=
      .rel _ _ (.letter (by decide) (by decide))
    have hblank : SameSpelling (' ' :: ['E', 'N']) ['E', 'N'] := .rel _ _ (.start (by decide) _)
    exact .trans _ _ _ hfirst (.trans _ _ _ hsecond (.symm _ _ hblank))
  have hconforms : ∀ root, additionalRoot titleProcessor titleTree spelledRound = some root →
      AdditionalText.Conforms root := by
    intro root hroot
    rw [root_titleTree rfl] at hroot
    cases hroot
    exact AdditionalText.conforms_titleRoot
  obtain ⟨s', hrun⟩ := run_process_spelledRound
  obtain ⟨hresolve, hprocess⟩ := resolve_respelled hspelling
  obtain ⟨configuration, bundles, hconfiguration, _, hshared, hdefault⟩ := hprocess hrun hconforms
  rw [configure_spelledRound] at hconfiguration
  cases hconfiguration
  rw [contributions_spelledRound] at hshared hdefault
  have hsave : spelledContribution "app.Main.CAPTION_Save" " EN" ∈
      [spelledContribution "app.Main.CAPTION_Open" "en",
        spelledContribution "app.Main.CAPTION_Save" " EN"] ++
          additionalContributions titleProcessor titleTree spelledRound :=
    List.mem_append_left _ (List.mem_cons_of_mem _ List.mem_cons_self)
  refine ⟨hspelling, ?_, s', bundles, hrun, ?_, ?_⟩
  · have hen : resolve (some "en") = .ok "en" := by decide +kernel
    rcases hresolve with ⟨locale, hfirst, hsecond⟩ | ⟨hfirst, _⟩
    · rw [hen] at hfirst
      rw [hsecond, Except.ok.inj hfirst]
    · rw [hen] at hfirst
      cases hfirst
  · exact hshared _ (List.mem_append_left _ List.mem_cons_self) _ hsave rfl rfl
  · have hlanguage : defaultLanguage titleProcessor.settings spelledRound = "en" := rfl
    exact hdefault hlanguage _ hsave rfl

end Locale

end ResourceBundle
