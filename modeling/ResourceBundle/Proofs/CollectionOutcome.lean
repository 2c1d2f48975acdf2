import ResourceBundle.Proofs.CollectionSteps
import ResourceBundle.Proofs.Reporting

/-! # How a collection ends

On a store, a step leads to a store or fails. The collection of elements ends as its flat list of steps
does: with the store that the last step leads to, or at the first step that fails. In the latter case
the entries of the steps before it stay, and the failure is told once, with its element. -/

namespace ResourceBundle

theorem Key.ofText_ne_empty (className : String) (use : TextUse) (id : String) :
    ofText className use id ≠ "" := by
  intro h
  have hdot : '.' ∈ (ofText className use id).toList := by simp [ofText]
  rw [h] at hdot
  cases hdot

theorem Key.ofMessage_ne_empty {messagePrefix : String} (h : messagePrefix ≠ "") (id : MessageId) :
    ofMessage messagePrefix id ≠ "" := by
  rw [ofMessage, Ne, String.append_eq_empty_iff]
  exact fun hempty => h hempty.1

namespace Contribution

def outcome (c : Contribution) (store : Store) : Except Failure Store :=
  match Locale.resolve c.language with
  | .error failure => .error failure
  | .ok locale =>
    match c.entry locale with
    | .error failure => .error failure
    | .ok entry => store.insert locale entry

theorem outcome_of_gives {c : Contribution} {placed : Placed} (h : c.Gives placed) (store : Store) :
    c.outcome store = store.insert placed.locale placed.entry := by
  simp only [outcome, h.locale, h.entry]

theorem outcome_eq_ok {c : Contribution} {store after : Store} (h : c.outcome store = .ok after) :
    ∃ placed, c.Gives placed ∧ after.placed = store.placed ++ [placed] := by
  unfold outcome at h
  split at h
  · cases h
  · rename_i locale hlocale
    split at h
    · cases h
    · rename_i entry hentry
      exact ⟨⟨locale, entry⟩, ⟨hlocale, hentry⟩, (Store.insert_eq_ok_iff.mp h).2⟩

/-- The insertion of a contribution with a key fails for its language or for its place. -/
theorem outcome_eq_error {c : Contribution} (hkey : c.key ≠ "") {store : Store} {failure : Failure}
    (h : c.outcome store = .error failure) : c.Refused store failure := by
  cases hlocale : Locale.resolve c.language with
  | error other =>
    obtain ⟨tag, rfl⟩ := Locale.failure_of_resolve hlocale
    rw [outcome, hlocale] at h
    cases h
    exact .language hlocale
  | ok locale =>
    obtain ⟨entry, hgives⟩ := gives_of_resolve hkey hlocale
    rw [outcome_of_gives hgives] at h
    obtain ⟨htaken, rfl⟩ := Store.insert_eq_error_iff.mp h
    exact .place hgives htaken

/-- Adding a contribution has the outcome of its insertion, and tells the host nothing. -/
theorem run_add (c : Contribution) (s : Session Store) :
    match c.outcome s.state with
    | .ok store => ∃ event, event.diagnostic? = none ∧
        c.add.run s = .ok () ⟨store, s.events ++ [event]⟩
    | .error failure => c.add.run s = .error failure s := by
  cases hlocale : Locale.resolve c.language with
  | error failure => simp only [outcome, add, hlocale, EStateM.run_bind, Action.run_ofExcept_error]
  | ok locale =>
    cases hentry : c.entry locale with
    | error failure =>
      simp only [outcome, add, hlocale, hentry, EStateM.run_bind, Action.run_ofExcept_ok,
        Action.run_ofExcept_error]
    | ok entry =>
      cases hinsert : s.state.insert locale entry with
      | error failure =>
        simp only [outcome, add, hlocale, hentry, hinsert, EStateM.run_bind, Action.run_ofExcept_ok,
          Store.run_place_of_error hinsert]
      | ok store =>
        simp only [outcome, add, hlocale, hentry, hinsert, EStateM.run_bind, Action.run_ofExcept_ok,
          Store.run_place_of_ok hinsert]
        exact ⟨_, rfl, rfl⟩

end Contribution

namespace Element

/-- All translations of an element: those of its message, then those of its texts. -/
def translations (element : Element) : List Translation :=
  (match element.message with
    | none => []
    | some note => note.translations) ++ element.texts.flatMap (·.translations)

theorem length_textContributions {element : Element} {note : TextNote}
    (h : ∃ key, element.textKey note = .ok key) :
    (element.textContributions note).length = note.translations.length := by
  obtain ⟨key, hkey⟩ := h
  rw [textContributions, hkey]
  exact List.length_map _

/-- An element that meets all demands contributes each of its translations. -/
theorem length_contributions (messagePrefix : String) {element : Element} (h : element.Collectable) :
    (element.contributions messagePrefix).length = element.translations.length := by
  have hmessage : (element.messageContributions messagePrefix).length =
      (match element.message with
        | none => []
        | some note => note.translations).length := by
    unfold messageContributions
    cases element.message with
    | none => rfl
    | some note => exact List.length_map _
  have htexts : (element.texts.flatMap element.textContributions).length =
      (element.texts.flatMap (·.translations)).length := by
    rw [List.length_flatMap, List.length_flatMap]
    congr 1
    exact List.map_congr_left fun note hnote => length_textContributions (h.texts note hnote)
  rw [contributions, translations, List.length_append, List.length_append, hmessage, htexts]

theorem key_ne_empty_of_mem_contributionsOf {element : Element} {key description : String}
    {isMessage : Bool} {translations : List Translation} (hkey : key ≠ "") {c : Contribution}
    (h : c ∈ element.contributionsOf key description isMessage translations) : c.key ≠ "" := by
  obtain ⟨translation, _, rfl⟩ := List.mem_map.mp h
  exact hkey

theorem key_ne_empty_of_mem_contributions {messagePrefix : String} (hnonempty : messagePrefix ≠ "")
    {element : Element} {c : Contribution} (h : c ∈ element.contributions messagePrefix) :
    c.key ≠ "" := by
  rcases List.mem_append.mp h with hmessage | htexts
  · unfold messageContributions at hmessage
    split at hmessage
    · cases hmessage
    · exact key_ne_empty_of_mem_contributionsOf (Key.ofMessage_ne_empty hnonempty _) hmessage
  · obtain ⟨note, _, hnote⟩ := List.mem_flatMap.mp htexts
    unfold textContributions at hnote
    split at hnote
    · exact key_ne_empty_of_mem_contributionsOf (Key.ofText_ne_empty _ _ _) hnote
    · cases hnote

end Element

namespace Collection

namespace Step

def element? : Step → Option Element
  | reject _ => none
  | demand element _ => some element
  | add element _ => some element

def outcome : Step → Store → Except Failure Store
  | reject failure, _ => .error failure
  | demand _ result, store => result.map fun _ => store
  | add _ c, store => c.outcome store

def report (step : Step) (failure : Failure) : List Event :=
  match step.element? with
  | none => []
  | some element => [.diagnostic ⟨.error, failure.message, .element element⟩]

/-- Why a step fails: its demand is not met, or its contribution cannot be added. -/
inductive Fails (store : Store) : Step → Failure → Prop
  | demand {element : Element} {failure : Failure} :
    Fails store (.demand element (.error failure)) failure
  | add {element : Element} {c : Contribution} {failure : Failure} :
    c.Refused store failure → Fails store (.add element c) failure

/-- A step leads to the store of its outcome and tells the host nothing, or it fails and says so. -/
theorem run_act (step : Step) (s : Session Store) :
    match step.outcome s.state with
    | .ok store => ∃ events, diagnosticsOf events = [] ∧
        step.act.run s = .ok () ⟨store, s.events ++ events⟩
    | .error failure =>
        step.act.run s = .error failure ⟨s.state, s.events ++ step.report failure⟩ := by
  cases step with
  | reject failure =>
    simp only [outcome, act, report, element?, List.append_nil, Action.run_throw]
  | demand element result =>
    cases result with
    | ok _ => exact ⟨[], rfl, by rw [List.append_nil]; rfl⟩
    | error failure => rfl
  | add element c =>
    have hadd := c.run_add s
    simp only [outcome, act, Action.run_reporting]
    cases hc : c.outcome s.state with
    | error failure =>
      rw [hc] at hadd
      simp only [hadd]
      rfl
    | ok store =>
      rw [hc] at hadd
      obtain ⟨event, hevent, hrun⟩ := hadd
      refine ⟨[event], ?_, by rw [hrun]⟩
      rw [diagnosticsOf, List.filterMap_cons_none hevent, List.filterMap_nil]

end Step

/-- Takes steps on a store; gives the last store, and the step that failed with its failure, if one
did. -/
def takeAll : List Step → Store → Store × Option (Step × Failure)
  | [], store => (store, none)
  | step :: rest, store =>
    match step.outcome store with
    | .ok after => takeAll rest after
    | .error failure => (store, some (step, failure))

/-- Actions of steps end as the steps do. -/
theorem run_actAll (steps : List Step) (s : Session Store) :
    match takeAll steps s.state with
    | (store, none) => ∃ events, diagnosticsOf events = [] ∧
        (actAll steps).run s = .ok () ⟨store, s.events ++ events⟩
    | (store, some (step, failure)) => ∃ events, diagnosticsOf events = [] ∧
        (actAll steps).run s = .error failure ⟨store, s.events ++ events ++ step.report failure⟩ := by
  induction steps generalizing s with
  | nil => exact ⟨[], rfl, by rw [List.append_nil]; rfl⟩
  | cons step rest ih =>
    have hact := step.run_act s
    simp only [takeAll, actAll, EStateM.run_bind]
    cases houtcome : step.outcome s.state with
    | error failure =>
      rw [houtcome] at hact
      exact ⟨[], rfl, by rw [hact, List.append_nil]⟩
    | ok store =>
      rw [houtcome] at hact
      obtain ⟨events, hevents, hrun⟩ := hact
      have hrest := ih ⟨store, s.events ++ events⟩
      simp only [hrun]
      -- What was told by the first step stands before what the further ones tell.
      cases htake : takeAll rest store with
      | mk last failed =>
        simp only [htake] at hrest
        cases failed with
        | none =>
          obtain ⟨further, hfurther, hrun'⟩ := hrest
          refine ⟨events ++ further, ?_, by rw [hrun', List.append_assoc]⟩
          rw [diagnosticsOf_append, hevents, hfurther, List.append_nil]
        | some failing =>
          obtain ⟨further, hfurther, hrun'⟩ := hrest
          refine ⟨events ++ further, ?_, by rw [hrun', List.append_assoc s.events]⟩
          rw [diagnosticsOf_append, hevents, hfurther, List.append_nil]

theorem Step.outcome_eq_ok {step : Step} {store after : Store} (h : step.outcome store = .ok after) :
    step.Passes ∧ ∃ placed, List.Forall₂ Contribution.Gives step.contribution?.toList placed ∧
      after.placed = store.placed ++ placed := by
  cases step with
  | reject failure => cases h
  | demand element result =>
    cases result with
    | error failure => cases h
    | ok _ =>
      cases h
      exact ⟨rfl, [], .nil, (List.append_nil _).symm⟩
  | add element c =>
    obtain ⟨placed, hgives, hplaced⟩ := Contribution.outcome_eq_ok h
    exact ⟨trivial, [placed], .cons hgives .nil, hplaced⟩

/-- If no step fails, all demands are met, and there is one new entry for each contribution, in order. -/
theorem takeAll_eq_none {steps : List Step} {store last : Store}
    (h : takeAll steps store = (last, none)) :
    (∀ step ∈ steps, step.Passes) ∧ ∃ placed,
      List.Forall₂ Contribution.Gives (steps.filterMap Step.contribution?) placed ∧
      last.placed = store.placed ++ placed := by
  induction steps generalizing store with
  | nil =>
    cases h
    exact ⟨fun _ h => absurd h List.not_mem_nil, [], .nil, (List.append_nil _).symm⟩
  | cons step rest ih =>
    rw [takeAll] at h
    split at h
    · rename_i after houtcome
      obtain ⟨hpasses, placed, hgives, hplaced⟩ := Step.outcome_eq_ok houtcome
      obtain ⟨hrest, further, hfurther, hlast⟩ := ih h
      refine ⟨List.forall_mem_cons.mpr ⟨hpasses, hrest⟩, placed ++ further, ?_, ?_⟩
      · rw [filterMap_cons_contribution]
        exact List.rel_append hgives hfurther
      · rw [hlast, hplaced, List.append_assoc]
    · cases h

/-- If a step fails, no step before it does, and these have led to the store on which it fails. -/
theorem takeAll_eq_some {steps : List Step} {store last : Store} {step : Step} {failure : Failure}
    (h : takeAll steps store = (last, some (step, failure))) :
    ∃ before after, steps = before ++ step :: after ∧ takeAll before store = (last, none) ∧
      step.outcome last = .error failure := by
  induction steps generalizing store with
  | nil => cases h
  | cons first rest ih =>
    rw [takeAll] at h
    split at h
    · rename_i next houtcome
      obtain ⟨before, after, rfl, hbefore, hfails⟩ := ih h
      refine ⟨first :: before, after, rfl, ?_, hfails⟩
      simp only [takeAll, houtcome, hbefore]
    · rename_i other houtcome
      cases h
      exact ⟨[], rest, rfl, rfl, houtcome⟩

theorem mem_of_takeAll_eq_some {steps : List Step} {store last : Store} {step : Step}
    {failure : Failure} (h : takeAll steps store = (last, some (step, failure))) : step ∈ steps := by
  obtain ⟨before, after, rfl, _⟩ := takeAll_eq_some h
  exact List.mem_append_right _ List.mem_cons_self

/-- The steps of an element of a known kind are demands on it and additions of its contributions. -/
theorem mem_steps_cases {messagePrefix : String} {element : Element}
    (hkind : ∀ name, element.kind ≠ .other name) {step : Step}
    (h : step ∈ steps messagePrefix element) :
    (∃ result, step = .demand element result) ∨
      ∃ c ∈ element.contributions messagePrefix, step = .add element c := by
  have hmessage (hmem : step ∈ addSteps element (element.messageContributions messagePrefix)) :
      ∃ c ∈ element.contributions messagePrefix, step = .add element c := by
    obtain ⟨c, hc, rfl⟩ := List.mem_map.mp hmem
    exact ⟨c, List.mem_append_left _ hc, rfl⟩
  have htexts (hmem : step ∈ element.texts.flatMap (textSteps element)) :
      (∃ result, step = .demand element result) ∨
        ∃ c ∈ element.contributions messagePrefix, step = .add element c := by
    obtain ⟨note, hnote, hmem⟩ := List.mem_flatMap.mp hmem
    rcases List.mem_cons.mp hmem with rfl | hmem
    · exact .inl ⟨_, rfl⟩
    · obtain ⟨c, hc, rfl⟩ := List.mem_map.mp hmem
      exact .inr ⟨c, List.mem_append_right _ (List.mem_flatMap.mpr ⟨note, hnote, hc⟩), rfl⟩
  unfold steps at h
  cases hcase : element.kind with
  | field =>
    rw [hcase] at h
    exact (List.mem_append.mp h).elim (fun hmem => .inr (hmessage hmem)) htexts
  | enumConstant =>
    rw [hcase] at h
    exact (List.mem_append.mp h).elim (fun hmem => .inr (hmessage hmem)) htexts
  | method =>
    simp only [hcase] at h
    split at h
    · exact .inl ⟨_, List.mem_singleton.mp h⟩
    · exact htexts h
  | other name => exact absurd hcase (hkind name)

theorem element_of_mem_steps {messagePrefix : String} {element : Element}
    (hkind : ∀ name, element.kind ≠ .other name) {step : Step}
    (h : step ∈ steps messagePrefix element) : step.element? = some element := by
  rcases mem_steps_cases hkind h with ⟨_, rfl⟩ | ⟨_, _, rfl⟩ <;> rfl

theorem report_of_mem_steps {messagePrefix : String} {element : Element}
    (hkind : ∀ name, element.kind ≠ .other name) {step : Step}
    (h : step ∈ steps messagePrefix element) (failure : Failure) :
    step.report failure = [.diagnostic ⟨.error, failure.message, .element element⟩] := by
  rw [Step.report, element_of_mem_steps hkind h]

/-- A step of an element of a known kind fails for its demand, for its language or for its place. -/
theorem fails_of_mem_steps {messagePrefix : String} (hnonempty : messagePrefix ≠ "") {element : Element}
    (hkind : ∀ name, element.kind ≠ .other name) {step : Step}
    (h : step ∈ steps messagePrefix element) {store : Store} {failure : Failure}
    (hfails : step.outcome store = .error failure) : step.Fails store failure := by
  rcases mem_steps_cases hkind h with ⟨result, rfl⟩ | ⟨c, hc, rfl⟩
  · cases result with
    | ok _ => cases hfails
    | error _ =>
      cases hfails
      exact .demand
  · exact .add (Contribution.outcome_eq_error
      (Element.key_ne_empty_of_mem_contributions hnonempty hc) hfails)

/-- The collection of elements of known kinds ends as their steps do. If no step fails, there is one new
entry for each translation, and the host is told nothing. If one fails, there are the entries of the
steps before it, and the host is told its failure with its element, and nothing else. -/
theorem collectAll_eq_takeAll {messagePrefix : String} (hnonempty : messagePrefix ≠ "")
    {elements : List Element} (hkinds : ∀ element ∈ elements, ∀ name, element.kind ≠ .other name)
    (s : Session Store) :
    match takeAll (elements.flatMap (steps messagePrefix)) s.state with
    | (store, none) => ∃ events placed,
        (collectAll messagePrefix elements).run s = .ok () ⟨store, s.events ++ events⟩ ∧
        diagnosticsOf events = [] ∧
        store.size = s.state.size + (elements.flatMap (·.translations)).length ∧
        List.Forall₂ Contribution.Gives (elements.flatMap (·.contributions messagePrefix)) placed ∧
        store.placed = s.state.placed ++ placed
    | (store, some (step, failure)) => ∃ events placed before after,
        ∃ element ∈ elements, step ∈ steps messagePrefix element ∧ step.element? = some element ∧
        (collectAll messagePrefix elements).run s = .error failure ⟨store, s.events ++ events⟩ ∧
        diagnosticsOf events = [⟨.error, failure.message, .element element⟩] ∧
        elements.flatMap (steps messagePrefix) = before ++ step :: after ∧
        (∀ earlier ∈ before, earlier.Passes) ∧ step.Fails store failure ∧
        List.Forall₂ Contribution.Gives (before.filterMap Step.contribution?) placed ∧
        store.placed = s.state.placed ++ placed := by
  have hrun := run_actAll (elements.flatMap (steps messagePrefix)) s
  rw [← collectAll_eq_actAll] at hrun
  cases htake : takeAll (elements.flatMap (steps messagePrefix)) s.state with
  | mk store failed =>
    rw [htake] at hrun
    cases failed with
    | none =>
      obtain ⟨events, hevents, hcollect⟩ := hrun
      obtain ⟨hcollectable, hadd⟩ := run_collectAll_eq_ok_iff.mp hcollect
      obtain ⟨placed, hgives, hplaced⟩ := Contribution.placed_of_run_addAll hadd
      refine ⟨events, placed, hcollect, hevents, ?_, hgives, hplaced⟩
      have hlength : (elements.flatMap (·.contributions messagePrefix)).length =
          (elements.flatMap (·.translations)).length := by
        rw [List.length_flatMap, List.length_flatMap]
        congr 1
        exact List.map_congr_left fun element helement =>
          Element.length_contributions messagePrefix (hcollectable element helement)
      rw [← hlength]
      exact Contribution.size_of_run_addAll hadd
    | some failing =>
      obtain ⟨step, failure⟩ := failing
      obtain ⟨events, hevents, hcollect⟩ := hrun
      obtain ⟨before, after, hsplit, hbefore, hfails⟩ := takeAll_eq_some htake
      obtain ⟨hpasses, placed, hgives, hplaced⟩ := takeAll_eq_none hbefore
      obtain ⟨element, helement, hstep⟩ := List.mem_flatMap.mp (mem_of_takeAll_eq_some htake)
      have hkind := hkinds element helement
      refine ⟨events ++ step.report failure, placed, before, after, element, helement, hstep,
        element_of_mem_steps hkind hstep, by rw [hcollect, List.append_assoc], ?_, hsplit, hpasses,
        fails_of_mem_steps hnonempty hkind hstep hfails, hgives, hplaced⟩
      rw [diagnosticsOf_append, hevents, report_of_mem_steps hkind hstep]
      rfl

def savedElement : Element :=
  ⟨.field, "MSG_Saved", "app.Main", some (.number 7), some ⟨"", [⟨"en", "Saved"⟩]⟩, []⟩

def loadElement : Element :=
  ⟨.method, "getLoad", "app.Main", none, some ⟨"", [⟨"en", "Loaded"⟩]⟩, []⟩

theorem takeAll_misplaced : ∃ store, store.size = 1 ∧
    takeAll ([savedElement, loadElement].flatMap (steps "MSG")) .empty =
      (store, some (.demand loadElement (.error (.misplacedMessage "getLoad")),
        .misplacedMessage "getLoad")) := by
  have hresolve : Locale.resolve (some "en") = .ok "en" := by decide +kernel
  obtain ⟨entry, hgives⟩ := Contribution.gives_of_resolve
    (c := ⟨some "en", "MSG007", true, "", "Saved", "app.Main"⟩) (by decide) hresolve
  have hsteps : [savedElement, loadElement].flatMap (steps "MSG") =
      [.add savedElement ⟨some "en", "MSG007", true, "", "Saved", "app.Main"⟩,
        .demand loadElement (.error (.misplacedMessage "getLoad"))] := by
    rfl
  cases hinsert : Store.empty.insert "en" entry with
  | error failure => cases (Store.insert_eq_error_iff.mp hinsert).1
  | ok store =>
    refine ⟨store, ?_, ?_⟩
    · rw [Store.size, (Store.insert_eq_ok_iff.mp hinsert).2]
      rfl
    · simp only [hsteps, takeAll, Step.outcome, Contribution.outcome_of_gives hgives, hinsert]
      rfl

/-- The method ends the collection; the message of the field before it stays. -/
theorem collectAll_eq_takeAll_misplaced :
    "MSG" ≠ "" ∧ (∀ element ∈ [savedElement, loadElement], ∀ name, element.kind ≠ .other name) ∧
    ∃ t, (collectAll "MSG" [savedElement, loadElement]).run ⟨.empty, []⟩ =
        .error (.misplacedMessage "getLoad") t ∧
      diagnosticsOf t.events =
        [⟨.error, (Failure.misplacedMessage "getLoad").message, .element loadElement⟩] ∧
      t.state.size = 1 := by
  have hnonempty : "MSG" ≠ "" := by decide
  have hkinds : ∀ element ∈ [savedElement, loadElement], ∀ name, element.kind ≠ .other name := by
    intro element helement name
    rcases List.mem_pair.mp helement with rfl | rfl <;> nofun
  obtain ⟨store, hsize, htake⟩ := takeAll_misplaced
  have hcollect := collectAll_eq_takeAll hnonempty hkinds ⟨.empty, []⟩
  rw [htake] at hcollect
  obtain ⟨events, _, _, _, element, _, _, helement, hrun, htold, _⟩ := hcollect
  cases helement
  exact ⟨hnonempty, hkinds, _, hrun, htold, hsize⟩

end Collection

end ResourceBundle
