import ResourceBundle.Proofs.CollectionOutcome
import ResourceBundle.Proofs.Preparation

/-! # Where the locales of a store come from

Every locale under which an entry is stored was named by a language of the round: by that of a
translation of an element, or by that of a translation in the file of additional texts, whatever the
shape of the file. -/

namespace ResourceBundle

variable {σ τ ρ α β : Type}

namespace Action

/-- The state that an action leaves behind, whether it succeeds or fails. -/
def after (x : Action σ α) (s : Session σ) : σ :=
  match x.run s with
  | .ok _ t => t.state
  | .error _ t => t.state

/-- Whether an action keeps a property of the state, whether it succeeds or fails. -/
structure Keeps (P : σ → Prop) (x : Action σ α) : Prop where
  keeps : ∀ s, P s.state → P (x.after s)

namespace Keeps

variable {P : σ → Prop}

theorem run_ok {x : Action σ α} (h : Keeps P x) {s t : Session σ} {a : α} (hs : P s.state)
    (hrun : x.run s = .ok a t) : P t.state := by
  have hafter := h.keeps s hs
  rw [after, hrun] at hafter
  exact hafter

theorem pure (a : α) : Keeps P (pure a : Action σ α) := ⟨fun _ hs => hs⟩

theorem record (event : Event) : Keeps P (record event) := ⟨fun _ hs => hs⟩

theorem bind {x : Action σ α} {f : α → Action σ β} (h : Keeps P x) (hnext : ∀ a, Keeps P (f a)) :
    Keeps P (x >>= f) := by
  refine ⟨fun s hs => ?_⟩
  have hfirst := h.keeps s hs
  unfold after at hfirst ⊢
  rw [EStateM.run_bind]
  cases hrun : x.run s with
  | error failure t =>
    rw [hrun] at hfirst
    exact hfirst
  | ok a t =>
    rw [hrun] at hfirst
    exact (hnext a).keeps t hfirst

theorem bind_ofExcept {result : Except Failure α} {f : α → Action σ β}
    (hnext : ∀ a, result = .ok a → Keeps P (f a)) : Keeps P (ofExcept result >>= f) := by
  cases result with
  | error failure => exact ⟨fun _ hs => hs⟩
  | ok a => exact ⟨fun s hs => (hnext a rfl).keeps s hs⟩

theorem bind_getState {f : σ → Action σ β} (hnext : ∀ state, P state → Keeps P (f state)) :
    Keeps P (getState >>= f) := ⟨fun s hs => (hnext s.state hs).keeps s hs⟩

theorem zoom {part : σ → τ} {withPart : τ → σ → σ} {Q : τ → Prop} {x : Action τ α} (h : Keeps Q x)
    (hpart : ∀ state, P state → Q (part state))
    (hwith : ∀ inner state, P state → Q inner → P (withPart inner state)) :
    Keeps P (zoom part withPart x) := by
  refine ⟨fun s hs => ?_⟩
  have hinner := h.keeps ⟨part s.state, s.events⟩ (hpart s.state hs)
  unfold after at hinner ⊢
  rw [run_zoom]
  cases hrun : x.run ⟨part s.state, s.events⟩ with
  | error failure t =>
    rw [hrun] at hinner
    exact hwith _ _ hs hinner
  | ok a t =>
    rw [hrun] at hinner
    exact hwith _ _ hs hinner

end Keeps

end Action

open ResourceBundle.Action (Keeps)

namespace Store

/-- Whether all entries are stored under locales with a property. -/
def HasLocales (P : String → Prop) (store : Store) : Prop := ∀ placed ∈ store.placed, P placed.locale

theorem HasLocales.of_mem_locales {P : String → Prop} {store : Store} (h : store.HasLocales P)
    {locale : String} (hmem : locale ∈ store.locales) : P locale := by
  obtain ⟨placed, hplaced, rfl⟩ := mem_locales.mp hmem
  exact h placed hplaced

theorem place_keeps {P : String → Prop} {locale : String} (h : P locale) (entry : Entry) :
    Keeps (HasLocales P) (place locale entry) := by
  refine ⟨fun s hs => ?_⟩
  unfold Action.after
  cases hinsert : s.state.insert locale entry with
  | error failure =>
    rw [run_place_of_error hinsert]
    exact hs
  | ok store =>
    rw [run_place_of_ok hinsert]
    intro placed hmem
    rw [(insert_eq_ok_iff.mp hinsert).2] at hmem
    rcases List.mem_append.mp hmem with hold | hnew
    · exact hs placed hold
    · rw [List.mem_singleton.mp hnew]
      exact h

end Store

namespace AdditionalText

open Xml (Node)

mutual

def languages : Node → List (Option String)
  | .element tag attributes _ children =>
    (if tag = translationName then [attribute? attributes languageName] else []) ++
      languagesIn children
  | _ => []

def languagesIn : List Node → List (Option String)
  | [] => []
  | node :: rest => languages node ++ languagesIn rest

end

variable {P : String → Prop}

/-- The locale of a translation whose end has not been read. -/
def pendingLocale? (reader : Reader) : Option String := reader.translation.map (·.locale)

/-- Whether the locales of a merge, stored or about to be, have a property. -/
structure HasLocales (P : String → Prop) (merging : Merging) : Prop where
  store : merging.store.HasLocales P
  pending : ∀ locale, pendingLocale? merging.reader = some locale → P locale

theorem onReader_keeps {change : Reader → Reader}
    (h : ∀ reader locale, pendingLocale? (change reader) = some locale →
      P locale ∨ pendingLocale? reader = some locale) :
    Keeps (HasLocales P) (onReader change) := by
  refine ⟨fun s hs => ⟨hs.store, fun locale hlocale => ?_⟩⟩
  exact (h s.state.reader locale hlocale).elim id (hs.pending locale)

theorem pendingLocale?_addPiece (reader : Reader) (piece : List Char) :
    pendingLocale? (reader.addPiece piece) = pendingLocale? reader := by
  unfold Reader.addPiece pendingLocale?
  dsimp only
  split
  · split <;> rfl
  · simp [*]
  · rfl

theorem pendingLocale?_addPieces (reader : Reader) (pieces : List (List Char)) :
    pendingLocale? (reader.addPieces pieces) = pendingLocale? reader := by
  induction pieces generalizing reader with
  | nil => rfl
  | cons piece pieces ih => exact (ih _).trans (pendingLocale?_addPiece reader piece)

theorem reset_keeps : Keeps (HasLocales P) (onReader Reader.reset) := onReader_keeps nofun

theorem enter_keeps {tag : Xml.Name} {attributes : List (Xml.Name × List Char)}
    {pieces : List (List Char)} (h : tag = translationName →
      ∀ locale, Locale.resolve (attribute? attributes languageName) = .ok locale → P locale) :
    Keeps (HasLocales P) (enter tag attributes pieces) := by
  unfold enter
  split
  · exact reset_keeps
  · split
    · exact onReader_keeps nofun
    · split
      · refine onReader_keeps fun reader locale hlocale => .inr ?_
        rw [pendingLocale?_addPieces] at hlocale
        exact hlocale
      · split
        · refine .bind_ofExcept fun own hown => onReader_keeps fun _ locale hlocale => .inl ?_
          rw [pendingLocale?_addPieces] at hlocale
          obtain rfl := Option.some.inj hlocale
          exact h ‹_› own hown
        · exact .pure ()

theorem insert_keeps (origin : String) (text : PendingText) {translation : PendingTranslation}
    (h : P translation.locale) : Keeps (HasLocales P) (insert origin text translation) := by
  refine .bind_ofExcept fun entry _ => .bind ?_ fun _ => ?_
  · exact (Store.place_keeps h entry).zoom (fun _ hs => hs.store)
      fun _ _ hs hinner => ⟨hinner, hs.pending⟩
  · exact onReader_keeps fun _ _ hlocale => .inr hlocale

theorem leave_keeps (origin : String) (tag : Xml.Name) : Keeps (HasLocales P) (leave origin tag) := by
  unfold leave
  split
  · exact reset_keeps
  · split
    · exact onReader_keeps fun _ _ hlocale => .inr hlocale
    · split
      · have hclose : Keeps (HasLocales P) (onReader fun reader =>
            { reader with translation := none, phase := .inText }) := onReader_keeps nofun
        refine .bind_getState fun state hstate => ?_
        dsimp only
        split
        · rename_i text translation htext hpending
          have hlocale : pendingLocale? state.reader = some translation.locale := by
            rw [pendingLocale?, hpending, Option.map_some]
          exact (insert_keeps origin text (hstate.pending _ hlocale)).bind fun _ => hclose
        · exact hclose
      · exact .pure ()

mutual

theorem replay_keeps (origin : String) : ∀ node : Node,
    (∀ language ∈ languages node, ∀ locale, Locale.resolve language = .ok locale → P locale) →
    Keeps (HasLocales P) (replay origin node)
  | .element tag attributes _ children => by
    intro h
    rw [languages] at h
    refine (enter_keeps fun htag => ?_).bind fun _ => .bind ?_ fun _ => leave_keeps origin tag
    · exact h _ (List.mem_append_left _ (by rw [if_pos htag]; exact List.mem_singleton_self _))
    · exact replayAll_keeps origin children fun language hmem =>
        h language (List.mem_append_right _ hmem)
  | .text _ => fun _ => .pure ()
  | .comment => fun _ => .pure ()
  | .instruction => fun _ => .pure ()

theorem replayAll_keeps (origin : String) : ∀ nodes : List Node,
    (∀ language ∈ languagesIn nodes, ∀ locale, Locale.resolve language = .ok locale → P locale) →
    Keeps (HasLocales P) (replayAll origin nodes)
  | [] => fun _ => .pure ()
  | node :: rest => fun h =>
    (replay_keeps origin node fun language hmem => h language (List.mem_append_left _ hmem)).bind
      fun _ => replayAll_keeps origin rest fun language hmem => h language (List.mem_append_right _ hmem)

end

/-- A merge that succeeds stores no entry under a locale that no language of the document names. -/
theorem hasLocales_of_run_parse {origin : String} {bytes : List UInt8} {count : Nat}
    {s t : Session Merging} (h : (parse origin bytes).run s = .ok count t)
    (hstore : s.state.store.HasLocales P) {root : Node}
    (hroot : (Xml.Document.read catalog bytes).root = .ok root)
    (hlanguages : ∀ language ∈ languages root, ∀ locale,
      Locale.resolve language = .ok locale → P locale) : t.state.store.HasLocales P := by
  obtain ⟨own, u, hcheck, hrest⟩ := Action.run_bind_eq_ok_iff.mp h
  obtain ⟨hown, hblank⟩ := run_check_eq_ok hcheck
  obtain rfl : own = root := Except.ok.inj (hown.symm.trans hroot)
  rw [run_check hown hblank] at hcheck
  cases hcheck
  have hpass : Keeps (HasLocales P) (do
      replay origin own
      let count := (← Action.getState).reader.inserted
      Action.record (.merged count)
      pure count) :=
    (replay_keeps origin own hlanguages).bind fun _ =>
      .bind_getState fun _ _ => (Keeps.record _).bind fun _ => .pure _
  -- The merge starts from a reader on which no translation is pending.
  have hstart : HasLocales P ⟨{ s.state.reader.reset with inserted := 0 }, s.state.store⟩ :=
    ⟨hstore, nofun⟩
  exact (hpass.run_ok (s := ⟨_, _⟩) hstart hrest).store

end AdditionalText

/-- The language of a contribution of an element is that of one of its translations. -/
theorem Element.language_of_mem_contributions {messagePrefix : String} {element : Element}
    {c : Contribution} (h : c ∈ element.contributions messagePrefix) :
    ∃ translation ∈ element.translations, c.language = some translation.language := by
  have hof : ∀ {key description isMessage translations},
      c ∈ element.contributionsOf key description isMessage translations →
      ∃ translation ∈ translations, c.language = some translation.language := by
    intro key description isMessage translations hmem
    obtain ⟨translation, htranslation, rfl⟩ := List.mem_map.mp hmem
    exact ⟨translation, htranslation, rfl⟩
  rcases List.mem_append.mp h with hmessage | htexts
  · unfold messageContributions at hmessage
    split at hmessage
    · cases hmessage
    · rename_i note hnote
      obtain ⟨translation, htranslation, hlanguage⟩ := hof hmessage
      refine ⟨translation, List.mem_append_left _ ?_, hlanguage⟩
      rw [hnote]
      exact htranslation
  · obtain ⟨note, hnote, hmem⟩ := List.mem_flatMap.mp htexts
    unfold textContributions at hmem
    split at hmem
    · obtain ⟨translation, htranslation, hlanguage⟩ := hof hmem
      exact ⟨translation, List.mem_append_right _ (List.mem_flatMap.mpr ⟨note, hnote, htranslation⟩),
        hlanguage⟩
    · cases hmem

namespace Processing

/-- The languages of a round: those of the translations of its elements, and those of the translations
in the file of additional texts that it merges. -/
def languages (processor : Processor σ ρ) (files : LinkedTree) (round : Round) : List (Option String) :=
  (round.elements.flatMap (·.translations)).map (fun translation => some translation.language) ++
    match additionalRoot processor files round with
    | some root => AdditionalText.languages root
    | none => []

/-- Whether a locale is named by a language of the round. -/
def IsNamed (processor : Processor σ ρ) (files : LinkedTree) (round : Round) (locale : String) : Prop :=
  ∃ language ∈ languages processor files round, Locale.resolve language = .ok locale

theorem hasLocales_of_run_collect {processor : Processor σ ρ} {files : LinkedTree} {round : Round}
    {messagePrefix : String} {store : Store} {s t : Session τ}
    (h : (collect messagePrefix round.markedElements).run s = .ok store t) :
    store.HasLocales (IsNamed processor files round) := by
  obtain ⟨_, hgives, _⟩ := run_collect_eq_ok h
  rw [Round.flatMap_markedElements] at hgives
  intro placed hplaced
  obtain ⟨c, hc, hcgives⟩ := Contribution.exists_given_of_mem hgives hplaced
  obtain ⟨element, helement, hmem⟩ := List.mem_flatMap.mp hc
  obtain ⟨translation, htranslation, hlanguage⟩ := Element.language_of_mem_contributions hmem
  have hlocale := hcgives.locale
  rw [hlanguage] at hlocale
  refine ⟨_, List.mem_append_left _ (List.mem_map.mpr ⟨translation, ?_, rfl⟩), hlocale⟩
  exact List.mem_flatMap.mpr ⟨element, helement, htranslation⟩

theorem hasLocales_of_run_merge {P : String → Prop} {files : LinkedTree} {path : Path}
    {store after : Store} {s t : Session σ} (h : (merge files path store).run s = .ok after t)
    (hstore : store.HasLocales P) {root : Xml.Node} (hroot : rootAt files path = some root)
    (hlanguages : ∀ language ∈ AdditionalText.languages root, ∀ locale,
      Locale.resolve language = .ok locale → P locale) : after.HasLocales P := by
  obtain ⟨bytes, count, merging, hread, hparse, rfl, _⟩ := exists_parse_of_run_merge h
  obtain ⟨own, hown, _⟩ := AdditionalText.placed_of_run_parse hparse
  simp only [rootAt, hread, hown, Except.toOption, Option.some.injEq] at hroot
  rw [hroot] at hown
  exact AdditionalText.hasLocales_of_run_parse hparse hstore hown hlanguages

/-- What a preparation that comes to a generation went through. -/
theorem run_prepare_eq_some {settings : Settings} {places : Places} {files : LinkedTree} {round : Round}
    {configuration : Configuration} {store : Store} {s t : Session σ}
    (h : (prepare settings places files round).run s = .ok (some (configuration, store)) t) :
    ∃ collected provided found, ∃ s₁ s₂ s₃ s₄ : Session σ, configure settings round = .ok configuration ∧
      (collect configuration.messagePrefix round.markedElements).run s₁ = .ok collected s₂ ∧
      providedFolder round = .ok provided ∧
      (Lookup.locate files places provided).run s₃ = .ok found s₄ ∧
      (mergeFound files collected found).run s₄ = .ok store t := by
  obtain ⟨gathered, s₄, hgather, hmerge⟩ := Action.run_bind_eq_ok_iff.mp h
  obtain ⟨_, u, _, hgather⟩ := Action.run_bind_eq_ok_iff.mp hgather
  split at hgather
  · obtain ⟨own, s₁, hconfigure, hgather⟩ := Action.run_bind_eq_ok_iff.mp hgather
    obtain ⟨hown, _⟩ :=
      Action.run_ofExcept_eq_ok_iff.mp (Action.run_reporting_eq_ok_iff.mp hconfigure)
    obtain ⟨collected, s₂, hcollect, hgather⟩ := Action.run_bind_eq_ok_iff.mp hgather
    obtain ⟨provided, s₃, hfolder, hgather⟩ := Action.run_bind_eq_ok_iff.mp hgather
    obtain ⟨hprovided, _⟩ :=
      Action.run_ofExcept_eq_ok_iff.mp (Action.run_reporting_eq_ok_iff.mp hfolder)
    obtain ⟨_, u', _, hgather⟩ := Action.run_bind_eq_ok_iff.mp hgather
    obtain ⟨found, v, hlocate, hgather⟩ := Action.run_bind_eq_ok_iff.mp hgather
    cases hgather
    obtain ⟨merged, w, hfound, hlast⟩ := Action.run_bind_eq_ok_iff.mp hmerge
    cases hlast
    exact ⟨collected, provided, found, s₁, s₂, u', s₄, hown, hcollect, hprovided, hlocate, hfound⟩
  · cases hgather
    cases hmerge

/-- All locales of the store that a round generates its bundles from are named by its languages. -/
theorem isNamed_of_run_prepare {processor : Processor σ ρ} {files : LinkedTree} {round : Round}
    {configuration : Configuration} {store : Store} {s t : Session τ}
    (h : (prepare processor.settings processor.places files round).run s =
      .ok (some (configuration, store)) t) :
    configure processor.settings round = .ok configuration ∧
      store.HasLocales (IsNamed processor files round) := by
  obtain ⟨collected, provided, found, _, _, _, _, hconfigure, hcollect, hprovided, hlocate, hmerge⟩ :=
    run_prepare_eq_some h
  refine ⟨hconfigure, ?_⟩
  have hcollected : collected.HasLocales (IsNamed processor files round) :=
    hasLocales_of_run_collect hcollect
  obtain ⟨hlocated, _⟩ := run_locate_eq_ok hprovided hlocate
  cases found with
  | none =>
    cases hmerge
    exact hcollected
  | some path =>
    obtain ⟨_, root, hroot, _⟩ := run_merge_eq_ok hmerge
    refine hasLocales_of_run_merge hmerge hcollected hroot fun language hmem locale hlocale => ?_
    refine ⟨language, List.mem_append_right _ ?_, hlocale⟩
    have hadditional : additionalRoot processor files round = some root := by
      rw [additionalRoot, hlocated, Option.bind_some, hroot]
    rw [hadditional]
    exact hmem

end Processing

end ResourceBundle
