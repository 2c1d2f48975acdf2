import ResourceBundle.Proofs.Contribution

/-! # The steps of a collection

The collection of elements is a flat list of steps: demands that an element has to meet, and the
contributions of its translations. It succeeds if all demands are met and the contributions can be
added one after the other. -/

namespace ResourceBundle

namespace Element

def contributionsOf (element : Element) (key description : String) (isMessage : Bool)
    (translations : List Translation) : List Contribution :=
  translations.map fun translation =>
    ⟨some translation.language, key, isMessage, description, translation.text, element.enclosingType⟩

def textKey (element : Element) (note : TextNote) : Except Failure DerivedKey :=
  Key.derive element.kind element.name note.id note.use

def textContributions (element : Element) (note : TextNote) : List Contribution :=
  match element.textKey note with
  | .ok key => element.contributionsOf (Key.ofText element.enclosingType key.use key.id)
      note.description false note.translations
  | .error _ => []

def messageContributions (messagePrefix : String) (element : Element) : List Contribution :=
  match element.message with
  | none => []
  | some note => element.contributionsOf (Key.ofMessage messagePrefix element.messageId)
      note.description true note.translations

def contributions (messagePrefix : String) (element : Element) : List Contribution :=
  element.messageContributions messagePrefix ++ element.texts.flatMap element.textContributions

/-- Whether the element meets all demands: it is of a known kind, it has no message if it is a method,
and all its texts have keys. -/
structure Collectable (element : Element) : Prop where
  kind : ∀ name, element.kind ≠ .other name
  message : element.kind = .method → element.message = none
  texts : ∀ note ∈ element.texts, ∃ key, element.textKey note = .ok key

end Element

namespace Collection

/-- A step of the collection of an element. -/
inductive Step where
  | reject (failure : Failure)
  /-- A demand on the element. -/
  | demand (element : Element) (result : Except Failure Unit)
  | add (element : Element) (c : Contribution)

namespace Step

def act : Step → Action Store Unit
  | reject failure => throw failure
  | demand element result => Action.reporting (.element element) (Action.ofExcept result)
  | add element c => Action.reporting (.element element) c.add

/-- Whether the demand of a step is met, if it is one. -/
def Passes : Step → Prop
  | reject _ => False
  | demand _ result => result = .ok ()
  | add _ _ => True

def contribution? : Step → Option Contribution
  | add _ c => some c
  | _ => none

end Step

def actAll : List Step → Action Store Unit
  | [] => pure ()
  | step :: rest => do
    step.act
    actAll rest

def addSteps (element : Element) (cs : List Contribution) : List Step := cs.map (.add element)

/-- The steps of a text: its key is demanded even if it has no translations. -/
def textSteps (element : Element) (note : TextNote) : List Step :=
  .demand element ((element.textKey note).map fun _ => ()) ::
    addSteps element (element.textContributions note)

def steps (messagePrefix : String) (element : Element) : List Step :=
  match element.kind with
  | .field | .enumConstant =>
    addSteps element (element.messageContributions messagePrefix) ++
      element.texts.flatMap (textSteps element)
  | .method =>
    if element.message.isSome then
      [.demand element (.error (.misplacedMessage element.name))]
    else
      element.texts.flatMap (textSteps element)
  | .other name => [.reject (.unsupportedKind (Text.quoted name))]

theorem actAll_append (first second : List Step) :
    actAll (first ++ second) = (do actAll first; actAll second) := by
  induction first with
  | nil => rw [List.nil_append, actAll, pure_bind]
  | cons step first ih => rw [List.cons_append, actAll, actAll, ih, bind_assoc]

theorem addTranslations_eq_actAll (element : Element) (key description : String) (isMessage : Bool)
    (translations : List Translation) :
    addTranslations element key description isMessage translations =
      actAll (addSteps element (element.contributionsOf key description isMessage translations)) := by
  induction translations with
  | nil => rfl
  | cons translation translations ih =>
    rw [addTranslations, ih]
    rfl

theorem addMessage_eq_actAll (messagePrefix : String) (element : Element) :
    addMessage messagePrefix element =
      actAll (addSteps element (element.messageContributions messagePrefix)) := by
  unfold addMessage Element.messageContributions
  cases element.message with
  | none => rfl
  | some note => exact addTranslations_eq_actAll ..

theorem addText_eq_actAll (element : Element) (note : TextNote) :
    addText element note = actAll (textSteps element note) := by
  unfold addText textSteps Element.textContributions Element.textKey
  cases Key.derive element.kind element.name note.id note.use with
  | error failure => rfl
  | ok key => exact addTranslations_eq_actAll ..

theorem addTexts_eq_actAll (element : Element) (notes : List TextNote) :
    addTexts element notes = actAll (notes.flatMap (textSteps element)) := by
  induction notes with
  | nil => rfl
  | cons note notes ih => rw [addTexts, addText_eq_actAll, ih, List.flatMap_cons, actAll_append]

theorem collect_eq_actAll (messagePrefix : String) (element : Element) :
    collect messagePrefix element = actAll (steps messagePrefix element) := by
  unfold collect steps
  cases element.kind with
  | field => simp only [addMessage_eq_actAll, addTexts_eq_actAll, actAll_append]
  | enumConstant => simp only [addMessage_eq_actAll, addTexts_eq_actAll, actAll_append]
  | method =>
    simp only
    split
    · rfl
    · exact addTexts_eq_actAll ..
  | other name => rfl

/-- The collection of elements takes their steps in order. -/
theorem collectAll_eq_actAll (messagePrefix : String) (elements : List Element) :
    collectAll messagePrefix elements = actAll (elements.flatMap (steps messagePrefix)) := by
  induction elements with
  | nil => rfl
  | cons element elements ih =>
    rw [collectAll, collect_eq_actAll, ih, List.flatMap_cons, actAll_append]

theorem run_act_eq_ok_iff {step : Step} {s t : Session Store} :
    step.act.run s = .ok () t ↔
      step.Passes ∧ (Contribution.addAll step.contribution?.toList).run s = .ok () t := by
  cases step with
  | reject failure => simp [Step.act, Step.Passes]
  | demand element result =>
    rw [Step.act, Action.run_reporting_eq_ok_iff, Action.run_ofExcept_eq_ok_iff]
    refine and_congr_right fun _ => ?_
    constructor
    · rintro rfl
      rfl
    · intro h
      cases h
      rfl
  | add element c =>
    have hadd : Contribution.addAll [c] = c.add := bind_pure _
    rw [Step.act, Action.run_reporting_eq_ok_iff, Step.contribution?, Option.toList_some, hadd]
    exact ⟨fun h => ⟨trivial, h⟩, And.right⟩

theorem filterMap_cons_contribution (step : Step) (steps : List Step) :
    (step :: steps).filterMap Step.contribution? =
      step.contribution?.toList ++ steps.filterMap Step.contribution? := by
  rw [List.filterMap_cons]
  cases step.contribution? <;> rfl

/-- Steps succeed exactly if all demands are met and the contributions can be added. -/
theorem run_actAll_eq_ok_iff {steps : List Step} {s t : Session Store} :
    (actAll steps).run s = .ok () t ↔ (∀ step ∈ steps, step.Passes) ∧
      (Contribution.addAll (steps.filterMap Step.contribution?)).run s = .ok () t := by
  induction steps generalizing s with
  | nil => simp [actAll, Contribution.addAll]
  | cons step steps ih =>
    rw [actAll, Action.run_bind_eq_ok_iff, filterMap_cons_contribution, Contribution.addAll_append,
      Action.run_bind_eq_ok_iff, List.forall_mem_cons]
    constructor
    · rintro ⟨_, u, hstep, hrest⟩
      obtain ⟨hpasses, hadd⟩ := run_act_eq_ok_iff.mp hstep
      obtain ⟨hrestPasses, hrestAdd⟩ := ih.mp hrest
      exact ⟨⟨hpasses, hrestPasses⟩, (), u, hadd, hrestAdd⟩
    · rintro ⟨⟨hpasses, hrestPasses⟩, _, u, hadd, hrestAdd⟩
      exact ⟨(), u, run_act_eq_ok_iff.mpr ⟨hpasses, hadd⟩, ih.mpr ⟨hrestPasses, hrestAdd⟩⟩

theorem passes_addSteps (element : Element) (cs : List Contribution) :
    ∀ step ∈ addSteps element cs, step.Passes := by
  intro step hstep
  obtain ⟨c, _, rfl⟩ := List.mem_map.mp hstep
  trivial

@[simp] theorem filterMap_addSteps (element : Element) (cs : List Contribution) :
    (addSteps element cs).filterMap Step.contribution? = cs := by
  rw [addSteps, List.filterMap_map]
  exact List.filterMap_some

theorem passes_textSteps_iff {element : Element} {note : TextNote} :
    (∀ step ∈ textSteps element note, step.Passes) ↔ ∃ key, element.textKey note = .ok key := by
  rw [textSteps, List.forall_mem_cons, and_iff_left (passes_addSteps element _)]
  cases element.textKey note with
  | ok key => exact ⟨fun _ => ⟨key, rfl⟩, fun _ => rfl⟩
  | error failure =>
    constructor
    · rintro ⟨⟩
    · rintro ⟨_, ⟨⟩⟩

theorem passes_texts_iff {element : Element} :
    (∀ step ∈ element.texts.flatMap (textSteps element), step.Passes) ↔
      ∀ note ∈ element.texts, ∃ key, element.textKey note = .ok key := by
  simp only [List.mem_flatMap, forall_exists_index, and_imp, ← passes_textSteps_iff]
  exact ⟨fun h note hnote step hstep => h step note hnote hstep,
    fun h step note hnote hstep => h note hnote step hstep⟩

@[simp] theorem filterMap_texts (element : Element) (notes : List TextNote) :
    (notes.flatMap (textSteps element)).filterMap Step.contribution? =
      notes.flatMap element.textContributions := by
  rw [List.filterMap_flatMap]
  congr 1
  funext note
  rw [textSteps, List.filterMap_cons]
  exact filterMap_addSteps ..

/-- The steps of an element go through exactly if it meets all demands; they then add its
contributions. -/
theorem passes_steps_iff (messagePrefix : String) {element : Element} :
    (∀ step ∈ steps messagePrefix element, step.Passes) ↔ element.Collectable := by
  have hcollectable : element.Collectable ↔ (∀ name, element.kind ≠ .other name) ∧
      (element.kind = .method → element.message = none) ∧
      ∀ note ∈ element.texts, ∃ key, element.textKey note = .ok key :=
    ⟨fun h => ⟨h.kind, h.message, h.texts⟩, fun ⟨hkind, hmessage, htexts⟩ => ⟨hkind, hmessage, htexts⟩⟩
  rw [hcollectable, ← passes_texts_iff]
  unfold steps
  cases hkind : element.kind with
  | field =>
    have hmessage := passes_addSteps element (element.messageContributions messagePrefix)
    simp only
    rw [List.forall_mem_append, and_iff_right hmessage]
    simp
  | enumConstant =>
    have hmessage := passes_addSteps element (element.messageContributions messagePrefix)
    simp only
    rw [List.forall_mem_append, and_iff_right hmessage]
    simp
  | method =>
    cases hmessage : element.message with
    | none => simp
    | some note => simp [Step.Passes]
  | other name => simp [Step.Passes]

theorem filterMap_steps (messagePrefix : String) {element : Element} (h : element.Collectable) :
    (steps messagePrefix element).filterMap Step.contribution? =
      element.contributions messagePrefix := by
  unfold steps Element.contributions
  cases hkind : element.kind with
  | field => simp only [List.filterMap_append, filterMap_addSteps, filterMap_texts]
  | enumConstant => simp only [List.filterMap_append, filterMap_addSteps, filterMap_texts]
  | method =>
    have hmessage := h.message hkind
    simp [hmessage, Element.messageContributions]
  | other name => exact absurd hkind (h.kind name)

/-- A collection succeeds exactly if all elements meet all demands and their contributions can be
added in order. -/
theorem run_collectAll_eq_ok_iff {messagePrefix : String} {elements : List Element}
    {s t : Session Store} :
    (collectAll messagePrefix elements).run s = .ok () t ↔
      (∀ element ∈ elements, element.Collectable) ∧
        (Contribution.addAll (elements.flatMap (·.contributions messagePrefix))).run s = .ok () t := by
  have hpasses : (∀ step ∈ elements.flatMap (steps messagePrefix), step.Passes) ↔
      ∀ element ∈ elements, element.Collectable := by
    simp only [List.mem_flatMap, forall_exists_index, and_imp,
      ← passes_steps_iff messagePrefix]
    exact ⟨fun h element helement step hstep => h step element helement hstep,
      fun h step element helement hstep => h element helement step hstep⟩
  rw [collectAll_eq_actAll, run_actAll_eq_ok_iff, hpasses, List.filterMap_flatMap]
  refine and_congr_right fun hcollectable => ?_
  have hcontributions : (elements.flatMap fun element =>
      (steps messagePrefix element).filterMap Step.contribution?) =
        elements.flatMap (·.contributions messagePrefix) :=
    List.flatMap_congr fun element helement => filterMap_steps _ (hcollectable element helement)
  rw [hcontributions]

end Collection

/-- Elements without marks contribute nothing. -/
theorem Round.flatMap_markedElements (round : Round) (messagePrefix : String) :
    round.markedElements.flatMap (·.contributions messagePrefix) =
      round.elements.flatMap (·.contributions messagePrefix) := by
  rw [Round.markedElements]
  induction round.elements with
  | nil => rfl
  | cons element elements ih =>
    by_cases hmarked : element.isMarked = true
    · rw [List.filter_cons_of_pos hmarked, List.flatMap_cons, List.flatMap_cons, ih]
    · have hnone : element.contributions messagePrefix = [] := by
        have hmessage : element.message = none := by
          cases h : element.message with
          | none => rfl
          | some note => simp [Element.isMarked, h] at hmarked
        have htexts : element.texts = [] := by
          cases h : element.texts with
          | nil => rfl
          | cons note notes => simp [Element.isMarked, h] at hmarked
        simp [Element.contributions, Element.messageContributions, hmessage, htexts]
      rw [List.filter_cons_of_neg hmarked, List.flatMap_cons, hnone, List.nil_append, ih]

end ResourceBundle
