import ResourceBundle.Proofs.ProcessingRuns
import ResourceBundle.Sink.Memory

/-! # The order of discovery

The elements of a round, the texts of an element and the translations of a text are discovered in some
order. That order decides neither whether a round is processed to its end nor what is written. -/

namespace ResourceBundle

open ResourceBundle.Action (Agree)

/-- Whether a list becomes another one if it is permuted and each member is changed as a relation
allows. -/
def UpToOrder {α β : Type} (r : α → β → Prop) (xs : List α) (ys : List β) : Prop :=
  ∃ middle, xs.Perm middle ∧ List.Forall₂ r middle ys

namespace UpToOrder

variable {α β γ : Type} {r : α → β → Prop} {xs : List α} {ys : List β}

theorem length_eq (h : UpToOrder r xs ys) : xs.length = ys.length := by
  obtain ⟨middle, hperm, hrelated⟩ := h
  rw [hperm.length_eq, hrelated.length_eq]

theorem flatMap_perm (h : UpToOrder r xs ys) {f : α → List γ} {g : β → List γ}
    (hf : ∀ x y, r x y → (f x).Perm (g y)) : (xs.flatMap f).Perm (ys.flatMap g) := by
  obtain ⟨middle, hperm, hrelated⟩ := h
  refine (hperm.flatMap_right f).trans ?_
  clear hperm
  induction hrelated with
  | nil => exact .refl _
  | cons hfirst _ ih =>
    rw [List.flatMap_cons, List.flatMap_cons]
    exact (hf _ _ hfirst).append ih

theorem forall_iff (h : UpToOrder r xs ys) {p : α → Prop} {q : β → Prop}
    (hp : ∀ x y, r x y → (p x ↔ q y)) : (∀ x ∈ xs, p x) ↔ ∀ y ∈ ys, q y := by
  obtain ⟨middle, hperm, hrelated⟩ := h
  have hmiddle : (∀ x ∈ xs, p x) ↔ ∀ x ∈ middle, p x := by simp only [hperm.mem_iff]
  rw [hmiddle]
  clear hperm hmiddle
  induction hrelated with
  | nil => simp
  | cons hfirst _ ih =>
    rw [List.forall_mem_cons, List.forall_mem_cons]
    exact and_congr (hp _ _ hfirst) ih

theorem any_eq (h : UpToOrder r xs ys) {p : α → Bool} {q : β → Bool}
    (hp : ∀ x y, r x y → p x = q y) : xs.any p = ys.any q := by
  have hnone := h.forall_iff (p := fun x => p x = false) (q := fun y => q y = false) fun x y hxy => by
    rw [hp x y hxy]
  rw [Bool.eq_iff_iff, ← not_iff_not, Bool.not_eq_true, Bool.not_eq_true, List.any_eq_false,
    List.any_eq_false]
  simpa using hnone

end UpToOrder

/-- Whether two texts differ only in the order of their translations. -/
structure TextNote.Reordered (a b : TextNote) : Prop where
  description : a.description = b.description
  id : a.id = b.id
  use : a.use = b.use
  translations : a.translations.Perm b.translations

/-- Whether two messages differ only in the order of their translations. -/
structure MessageNote.Reordered (a b : MessageNote) : Prop where
  description : a.description = b.description
  translations : a.translations.Perm b.translations

/-- Whether two elements differ only in the order of their texts and of translations. -/
structure Element.Reordered (a b : Element) : Prop where
  kind : a.kind = b.kind
  name : a.name = b.name
  enclosingType : a.enclosingType = b.enclosingType
  constant : a.constant = b.constant
  message : Option.Rel MessageNote.Reordered a.message b.message
  texts : UpToOrder TextNote.Reordered a.texts b.texts

/-- Whether two rounds differ only in the order of elements, texts and translations. -/
structure Round.Reordered (a b : Round) : Prop where
  elements : UpToOrder Element.Reordered a.elements b.elements
  messagePrefix : a.messagePrefix = b.messagePrefix
  baseBundleName : a.baseBundleName = b.baseBundleName
  useAdditionalTexts : a.useAdditionalTexts = b.useAdditionalTexts
  errorRaised : a.errorRaised = b.errorRaised

namespace Element

variable {a b : Element}

theorem contributionsOf_perm (henclosing : a.enclosingType = b.enclosingType)
    (key description : String) (isMessage : Bool) {translations others : List Translation}
    (h : translations.Perm others) :
    (a.contributionsOf key description isMessage translations).Perm
      (b.contributionsOf key description isMessage others) := by
  unfold contributionsOf
  rw [henclosing]
  exact h.map _

theorem Reordered.textKey_eq (h : a.Reordered b) {note other : TextNote}
    (hnote : note.Reordered other) : a.textKey note = b.textKey other := by
  rw [textKey, textKey, h.kind, h.name, hnote.id, hnote.use]

theorem Reordered.textContributions_perm (h : a.Reordered b) {note other : TextNote}
    (hnote : note.Reordered other) :
    (a.textContributions note).Perm (b.textContributions other) := by
  unfold textContributions
  rw [h.textKey_eq hnote, h.enclosingType, hnote.description]
  cases b.textKey other with
  | error failure => exact .nil
  | ok key => exact contributionsOf_perm h.enclosingType _ _ _ hnote.translations

theorem Reordered.message_cases (h : a.Reordered b) :
    (a.message = none ∧ b.message = none) ∨
      ∃ note other, a.message = some note ∧ b.message = some other ∧ note.Reordered other := by
  have hmessage := h.message
  generalize a.message = own, b.message = others at hmessage ⊢
  cases hmessage with
  | none => exact .inl ⟨rfl, rfl⟩
  | some hnote => exact .inr ⟨_, _, rfl, rfl, hnote⟩

theorem Reordered.messageContributions_perm (h : a.Reordered b) (messagePrefix : String) :
    (a.messageContributions messagePrefix).Perm (b.messageContributions messagePrefix) := by
  have hid : a.messageId = b.messageId := by rw [messageId, messageId, h.constant, h.name]
  unfold messageContributions
  rcases h.message_cases with ⟨ha, hb⟩ | ⟨note, other, ha, hb, hnote⟩
  · rw [ha, hb]
  · simp only [ha, hb, hid, hnote.description]
    exact contributionsOf_perm h.enclosingType _ _ _ hnote.translations

theorem Reordered.contributions_perm (h : a.Reordered b) (messagePrefix : String) :
    (a.contributions messagePrefix).Perm (b.contributions messagePrefix) :=
  (h.messageContributions_perm messagePrefix).append
    (h.texts.flatMap_perm fun _ _ hnote => h.textContributions_perm hnote)

theorem Reordered.message_isSome (h : a.Reordered b) : a.message.isSome = b.message.isSome := by
  rcases h.message_cases with ⟨ha, hb⟩ | ⟨note, other, ha, hb, _⟩
  · rw [ha, hb]
  · rw [ha, hb, Option.isSome_some, Option.isSome_some]

theorem Reordered.isMarked_eq (h : a.Reordered b) : a.isMarked = b.isMarked := by
  have hempty : a.texts.isEmpty = b.texts.isEmpty := by
    rw [Bool.eq_iff_iff, List.isEmpty_iff_length_eq_zero, List.isEmpty_iff_length_eq_zero,
      h.texts.length_eq]
  rw [isMarked, isMarked, h.message_isSome, hempty]

theorem Reordered.collectable_iff (h : a.Reordered b) : a.Collectable ↔ b.Collectable := by
  have hmessage : a.message = none ↔ b.message = none := by
    rw [← Option.not_isSome_iff_eq_none, ← Option.not_isSome_iff_eq_none, h.message_isSome]
  have htexts : (∀ note ∈ a.texts, ∃ key, a.textKey note = .ok key) ↔
      ∀ note ∈ b.texts, ∃ key, b.textKey note = .ok key :=
    h.texts.forall_iff fun note other hnote => by rw [h.textKey_eq hnote]
  constructor
  · rintro ⟨hkind, hmethod, hkeys⟩
    exact ⟨h.kind ▸ hkind, fun hb => hmessage.mp (hmethod (h.kind.trans hb)), htexts.mp hkeys⟩
  · rintro ⟨hkind, hmethod, hkeys⟩
    exact ⟨h.kind.symm ▸ hkind, fun ha => hmessage.mpr (hmethod (h.kind.symm.trans ha)),
      htexts.mpr hkeys⟩

end Element

namespace Round

variable {a b : Round}

theorem Reordered.markNames_eq (h : a.Reordered b) : a.markNames = b.markNames := by
  have hmessage : a.elements.any (·.message.isSome) = b.elements.any (·.message.isSome) :=
    h.elements.any_eq fun _ _ helement => helement.message_isSome
  have hone : a.elements.any (·.texts.length == 1) = b.elements.any (·.texts.length == 1) :=
    h.elements.any_eq fun _ _ helement => by rw [helement.texts.length_eq]
  have hmany : (a.elements.any fun element => decide (1 < element.texts.length)) =
      b.elements.any fun element => decide (1 < element.texts.length) :=
    h.elements.any_eq fun _ _ helement => by rw [helement.texts.length_eq]
  rw [markNames, markNames, h.baseBundleName, h.messagePrefix, h.useAdditionalTexts, hmessage, hone,
    hmany]

/-- Reordered rounds have in common all that decides how they are processed. -/
theorem Reordered.alike (h : a.Reordered b) (settings : Settings) :
    Processing.Alike settings a b := by
  refine ⟨?_, ?_, ?_, ?_, fun messagePrefix => ?_⟩
  · rw [Processing.isDue, Processing.isDue, h.errorRaised, h.markNames_eq]
  · unfold Processing.configure Processing.messagePrefix Processing.baseName Processing.defaultLanguage
    rw [h.messagePrefix, h.baseBundleName]
  · rw [Processing.providedFolder, Processing.providedFolder, h.useAdditionalTexts]
  · simp only [markedElements, List.mem_filter, and_imp]
    exact h.elements.forall_iff fun x y hxy => by rw [hxy.isMarked_eq, hxy.collectable_iff]
  · rw [flatMap_markedElements, flatMap_markedElements]
    exact h.elements.flatMap_perm fun _ _ helement => helement.contributions_perm messagePrefix

end Round

variable {σ ρ : Type}

/-- Whether a sink takes or refuses a bundle for its output and its path alone, whatever its bytes, the
elements, and what the sink was given before. -/
def Sink.RefusesByPlace (sink : Sink σ ρ) : Prop :=
  ∀ output path,
    (∀ bytes elements state, ∃ uri last,
      (sink.attempt output path bytes elements).run state = .ok uri last) ∨
    ∀ bytes elements state, ∃ reason last,
      (sink.attempt output path bytes elements).run state = .error reason last

namespace Generation

/-- A bundle is taken, or refused, whoever asks for it and whatever was written before. -/
theorem write_agree {sink : Sink σ ρ} (hsink : sink.RefusesByPlace) (output : Output)
    (path : String) (bytes : List UInt8) (elements others : List Element) :
    Agree (fun s t => s.2 = t.2) (fun _ _ => True)
      (write sink.recording output path bytes elements)
      (write sink.recording output path bytes others) := by
  refine ⟨fun s t hs => ?_⟩
  obtain ⟨events, hrun⟩ := run_write sink.recording output path bytes elements s
  obtain ⟨events', hrun'⟩ := run_write sink.recording output path bytes others t
  rw [Sink.run_attempt_recording] at hrun hrun'
  rcases hsink output path with htaken | hrefused
  · obtain ⟨uri, last, hattempt⟩ := htaken bytes elements s.state.1
    obtain ⟨uri', last', hattempt'⟩ := htaken bytes others t.state.1
    rw [hattempt] at hrun
    rw [hattempt'] at hrun'
    rw [hrun, hrun']
    exact ⟨trivial, congrArg (· ++ [(⟨output, path, bytes⟩ : Task)]) hs⟩
  · obtain ⟨reason, last, hattempt⟩ := hrefused bytes elements s.state.1
    obtain ⟨reason', last', hattempt'⟩ := hrefused bytes others t.state.1
    rw [hattempt] at hrun
    rw [hattempt'] at hrun'
    obtain ⟨failure, hrun⟩ := hrun
    obtain ⟨failure', hrun'⟩ := hrun'
    rw [hrun, hrun']
    trivial

end Generation

namespace Processing

/-- Recorded runs of reordered rounds have the same outcome, and the same record if they succeed. -/
theorem process_agree_reordered {processor : Processor σ ρ} (files : LinkedTree) {round other : Round}
    (hround : round.Reordered other) (hsink : processor.sink.RefusesByPlace) :
    Agree (fun s t => s.2 = t.2) Eq
      (process (processor.withSink processor.sink.recording) files round)
      (process (processor.withSink processor.sink.recording) files other) := by
  have hgenerate : ∀ configuration {a b : Store}, a.SameEntries b →
      Agree (fun s t => s.2 = t.2) (fun _ _ => True)
        (Generation.generate configuration processor.sink.recording Output.all a round.markedElements)
        (Generation.generate configuration processor.sink.recording Output.all b
          other.markedElements) := by
    intro configuration a b hsame
    unfold Generation.generate
    rw [Generation.tasks_congr hsame]
    exact Generation.writeAll_agree (fun _ => Generation.write_agree hsink ..) _
  exact process_agree files (hround.alike processor.settings) hgenerate

/-- The order of discovery decides neither whether a round is processed to its end, nor whether it
fails, nor what is written. -/
theorem process_reordered {processor : Processor σ ρ} (files : LinkedTree) {round other : Round}
    (hround : round.Reordered other) (hsink : processor.sink.RefusesByPlace) (s t : Session σ) :
    ((∃ s', (process processor files round).run s = .ok true s') ↔
      ∃ t', (process processor files other).run t = .ok true t') ∧
    ((∃ failure s', (process processor files round).run s = .error failure s') ↔
      ∃ failure t', (process processor files other).run t = .error failure t') ∧
    ((∃ s', (process processor files round).run s = .ok true s') →
      writes processor files round s = writes processor files other t) := by
  -- Each run is compared with its recorded run, and the two recorded runs with each other.
  have hstart := process_agree_recording processor files round
  have hend := process_agree_recording processor files other
  have hreordered := process_agree_reordered files hround hsink
  have hs : ((s.state, []) : σ × List Generation.Task).2 = ((t.state, []) : σ × _).2 := rfl
  refine ⟨?_, ?_, ?_⟩
  · calc (∃ s', (process processor files round).run s = .ok true s')
        ↔ _ := hstart.exists_ok_iff (t := ⟨(s.state, []), s.events⟩) rfl true
      _ ↔ _ := hreordered.exists_ok_iff (t := ⟨(t.state, []), t.events⟩) hs true
      _ ↔ _ := (hend.exists_ok_iff rfl true).symm
  · calc (∃ failure s', (process processor files round).run s = .error failure s')
        ↔ _ := hstart.exists_error_iff (t := ⟨(s.state, []), s.events⟩) rfl
      _ ↔ _ := hreordered.exists_error_iff (t := ⟨(t.state, []), t.events⟩) hs
      _ ↔ _ := (hend.exists_error_iff rfl).symm
  · rintro ⟨s', hrun⟩
    obtain ⟨_, u, hrecorded, rfl, _⟩ := hstart.run_ok (t := ⟨(s.state, []), s.events⟩) rfl hrun
    obtain ⟨_, v, hrecorded', rfl, hrecord⟩ := hreordered.run_ok
      (t := ⟨(t.state, []), t.events⟩) hs hrecorded
    rw [writes, writes, hrecorded, hrecorded']
    exact hrecord

theorem run_check_memory (refusals : List Memory.Refusal) (stage : Memory.Stage) (output : Output)
    (path : String) :
    (∀ state, (Memory.check refusals stage output path).run state = .ok () state) ∨
      ∃ reason, ∀ state, (Memory.check refusals stage output path).run state = .error reason state := by
  unfold Memory.check
  cases refusals.find? fun r => decide (r.stage = stage ∧ r.output = output ∧ r.path = path) with
  | none => exact .inl fun _ => rfl
  | some refusal => exact .inr ⟨refusal.reason, fun _ => rfl⟩

/-- The sink in memory looks at nothing but outputs and paths. -/
theorem refusesByPlace_memory (refusals : List Memory.Refusal) :
    (Memory.sink refusals).RefusesByPlace := by
  intro output path
  rcases run_check_memory refusals .create output path with hcreate | ⟨reason, hcreate⟩
  · rcases run_check_memory refusals .write output path with hwrite | ⟨reason, hwrite⟩
    · refine .inl fun bytes elements state => ?_
      simp only [Sink.attempt, Memory.sink, EStateM.run_bind, EStateM.run_modify, EStateM.run_pure,
        hcreate, hwrite]
      exact ⟨_, _, rfl⟩
    · refine .inr fun bytes elements state => ?_
      simp only [Sink.attempt, Memory.sink, EStateM.run_bind, EStateM.run_modify, EStateM.run_pure,
        hcreate, hwrite]
      exact ⟨_, _, rfl⟩
  · refine .inr fun bytes elements state => ?_
    simp only [Sink.attempt, Memory.sink, EStateM.run_bind, EStateM.run_modify, hcreate]
    exact ⟨_, _, rfl⟩

def lostElement : Element :=
  ⟨.field, "MSG_Lost", "app.Main", some (.number 7), some ⟨"", [⟨"en", "Lost"⟩]⟩, []⟩

def saveElement (translations : List Translation) : Element :=
  ⟨.field, "m_Save", "app.Main", none, none, [⟨"", "", .caption, translations⟩]⟩

def lostFirst : Round :=
  ⟨[lostElement, saveElement [⟨"de", "Sichern"⟩, ⟨"en", "Save"⟩]], [], [], [], false⟩

def lostLast : Round :=
  ⟨[saveElement [⟨"en", "Save"⟩, ⟨"de", "Sichern"⟩], lostElement], [], [], [], false⟩

theorem reordered_lostFirst : lostFirst.Reordered lostLast := by
  have hlost : lostElement.Reordered lostElement :=
    ⟨rfl, rfl, rfl, rfl, .some ⟨rfl, .refl _⟩, [], .refl _, .nil⟩
  have hsave : (saveElement [⟨"de", "Sichern"⟩, ⟨"en", "Save"⟩]).Reordered
      (saveElement [⟨"en", "Save"⟩, ⟨"de", "Sichern"⟩]) :=
    ⟨rfl, rfl, rfl, rfl, .none, _, .refl _, .cons ⟨rfl, rfl, rfl, .swap _ _ _⟩ .nil⟩
  exact ⟨⟨_, .swap _ _ _, .cons hsave (.cons hlost .nil)⟩, rfl, rfl, rfl, rfl⟩

def refusingProcessor : Processor Memory.Written Memory.Resource :=
  ⟨.default, ⟨none, []⟩, [],
    Memory.sink [⟨.write, .classes, "TextsAndMessages_de.properties", "no space left"⟩]⟩

def bareTree : LinkedTree := FileTree.unlinked ⟨[], [], .none⟩

theorem process_reordered_lost :
    lostFirst.Reordered lostLast ∧ refusingProcessor.sink.RefusesByPlace ∧
    ((∃ s', (process refusingProcessor bareTree lostFirst).run ⟨.empty, []⟩ = .ok true s') ↔
      ∃ t', (process refusingProcessor bareTree lostLast).run ⟨.empty, []⟩ = .ok true t') ∧
    ((∃ failure s', (process refusingProcessor bareTree lostFirst).run ⟨.empty, []⟩ =
        .error failure s') ↔
      ∃ failure t', (process refusingProcessor bareTree lostLast).run ⟨.empty, []⟩ =
        .error failure t') := by
  have hsink : refusingProcessor.sink.RefusesByPlace := refusesByPlace_memory _
  obtain ⟨hok, herror, _⟩ := process_reordered bareTree reordered_lostFirst hsink ⟨.empty, []⟩
    ⟨.empty, []⟩
  exact ⟨reordered_lostFirst, hsink, hok, herror⟩

end Processing

end ResourceBundle
