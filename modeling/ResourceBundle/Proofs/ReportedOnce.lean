import ResourceBundle.Proofs.CollectionOutcome
import ResourceBundle.Proofs.Delivery
import ResourceBundle.Proofs.Preparation

/-! # Each failure is reported once

Each stage of a round reports its failures. The stages differ in the wording: while additional texts are
merged, a failure that does not name their file gets its name in front. -/

namespace ResourceBundle

variable {σ ρ : Type}

open ResourceBundle.Action (Silent Reports Reported)

namespace Collection

theorem collectAll_reports (messagePrefix : String) {elements : List Element}
    (hkinds : ∀ element ∈ elements, ∀ name, element.kind ≠ .other name) :
    Reports Failure.message (collectAll messagePrefix elements) := by
  refine ⟨fun s => ?_⟩
  have hrun := run_actAll (elements.flatMap (steps messagePrefix)) s
  rw [← collectAll_eq_actAll] at hrun
  cases htake : takeAll (elements.flatMap (steps messagePrefix)) s.state with
  | mk store failed =>
    rw [htake] at hrun
    cases failed with
    | none =>
      obtain ⟨events, hevents, hcollect⟩ := hrun
      rw [hcollect]
      exact ⟨events, quiet_of_diagnosticsOf hevents, rfl⟩
    | some failing =>
      obtain ⟨step, failure⟩ := failing
      obtain ⟨events, hevents, hcollect⟩ := hrun
      obtain ⟨element, helement, hstep⟩ := List.mem_flatMap.mp (mem_of_takeAll_eq_some htake)
      rw [hcollect, report_of_mem_steps (hkinds element helement) hstep]
      exact fun _ => ⟨events, _, quiet_of_diagnosticsOf hevents, rfl, rfl, rfl⟩

end Collection

namespace Lookup

theorem isProcessing_of_expandHome {homes : Homes} {path : Path} {failure : Failure}
    (h : path.expandHome homes = .error failure) : failure.isProcessing = false := by
  rcases Path.expandHome_fails h with rfl | rfl <;> rfl

/-- A question that is not answered ends the search with a failure that is not that of the round. -/
theorem answer_reports (reply : Except FileFault α) :
    Reports Failure.message (answer reply : Action σ α) := by
  refine Reports.ofExcept fun failure hfailure => ?_
  cases reply with
  | ok a => cases hfailure
  | error fault =>
    obtain rfl := Except.error.inj hfailure
    exact fault.isProcessing_failure

theorem inFolder_reports (files : LinkedTree) (homes : Homes) (folder source : String) :
    Reports Failure.message (inFolder files homes folder source : Action σ _) := by
  unfold inFolder
  refine (Reports.ofExcept fun _ => isProcessing_of_expandHome).bind fun folder =>
    (answer_reports _).bind fun isDirectory => ?_
  split
  · exact .pure _
  · dsimp only
    split
    · exact .pure _
    · split
      · exact (Reports.note _).bind fun _ => .pure _
      · exact .throw (FileFault.isProcessing_failure _)
    · refine (answer_reports _).bind fun isFile => ?_
      split
      · exact (Reports.note _).bind fun _ => .pure _
      · exact (Reports.note _).bind fun _ => .pure _

theorem inFolder?_reports (files : LinkedTree) (homes : Homes) (folder : Option String)
    (source : String) :
    Reports Failure.message (inFolder? files homes folder source : Action σ _) := by
  unfold inFolder?
  split
  · exact .pure _
  · split
    · exact .pure _
    · exact inFolder_reports ..

theorem inRoots_reports (files : LinkedTree) (roots : List Path) :
    Reports Failure.message (inRoots files roots : Action σ _) := by
  induction roots with
  | nil => exact .pure _
  | cons root roots ih =>
    rw [inRoots]
    refine (answer_reports _).bind fun isFile => ?_
    split
    · exact ih
    · split
      · exact .fail rfl _
      · exact (answer_reports _).bind fun _ => (Reports.note _).bind fun _ => .pure _

theorem locate_reports (files : LinkedTree) (places : Places) (provided : Option String) :
    Reports Failure.message (locate files places provided : Action σ _) := by
  unfold locate
  refine (inFolder?_reports ..).bind fun found => ?_
  cases found with
  | some path => exact .pure _
  | none =>
    refine (inFolder?_reports ..).bind fun found => ?_
    cases found with
    | some path => exact .pure _
    | none => exact inRoots_reports ..

end Lookup

theorem Store.place_silent (locale : String) (entry : Entry) : Silent (place locale entry) := by
  unfold place
  exact Silent.getState.bind fun _ => (Silent.ofExcept _).bind fun _ =>
    (Silent.setState _).bind fun _ => .record rfl

namespace AdditionalText

theorem onReader_silent (change : Reader → Reader) : Silent (onReader change) :=
  .of_events_eq fun _ => rfl

theorem enter_silent (tag : Xml.Name) (attributes : List (Xml.Name × List Char))
    (pieces : List (List Char)) : Silent (enter tag attributes pieces) := by
  unfold enter
  split
  · exact onReader_silent _
  · split
    · exact onReader_silent _
    · split
      · exact onReader_silent _
      · split
        · exact (Silent.ofExcept _).bind fun _ => onReader_silent _
        · exact .pure _

theorem insert_silent (origin : String) (text : PendingText) (translation : PendingTranslation) :
    Silent (insert origin text translation) := by
  unfold insert
  exact (Silent.ofExcept _).bind fun _ =>
    ((Store.place_silent ..).zoom).bind fun _ => onReader_silent _

theorem leave_silent (origin : String) (tag : Xml.Name) : Silent (leave origin tag) := by
  unfold leave
  split
  · exact onReader_silent _
  · split
    · exact onReader_silent _
    · split
      · refine Silent.getState.bind fun merging => ?_
        dsimp only
        split
        · exact (insert_silent ..).bind fun _ => onReader_silent _
        · exact onReader_silent _
      · exact .pure _

mutual

theorem replay_silent (origin : String) : ∀ node, Silent (replay origin node)
  | .element tag attributes _ children =>
    (enter_silent tag attributes _).bind fun _ =>
      (replayAll_silent origin children).bind fun _ => leave_silent origin tag
  | .text _ => .pure _
  | .comment => .pure _
  | .instruction => .pure _

theorem replayAll_silent (origin : String) : ∀ nodes, Silent (replayAll origin nodes)
  | [] => .pure _
  | node :: rest => (replay_silent origin node).bind fun _ => replayAll_silent origin rest

end

theorem recordAll_silent {α : Type} {event : α → Event} (h : ∀ id, (event id).diagnostic? = none)
    (ids : List α) : Silent (ids.forM fun id => (Action.record (event id) : Action σ Unit)) := by
  induction ids with
  | nil => exact .pure _
  | cons id ids ih => exact (Silent.record (h id)).bind fun _ => ih

theorem check_silent (origin : String) (bytes : List UInt8) :
    Silent (check origin bytes : Action σ _) := by
  unfold check
  refine (recordAll_silent (fun _ => rfl) _).bind fun _ => ?_
  split
  · exact .throw _
  · split
    · exact .throw _
    · exact .pure _

/-- The merge of a document tells the host nothing, whatever comes of it. -/
theorem parse_silent (origin : String) (bytes : List UInt8) : Silent (parse origin bytes) := by
  unfold parse
  exact (check_silent origin bytes).bind fun root => (onReader_silent _).bind fun _ =>
    (replay_silent origin root).bind fun _ => Silent.getState.bind fun _ =>
      (Silent.record rfl).bind fun _ => .pure _

end AdditionalText

namespace Generation

theorem step_reports {α : Type} (name : String) (action : EStateM String σ α) :
    Reports Failure.message (step name action) := by
  refine ⟨fun s => ?_⟩
  rw [run_step]
  cases action.run s.state with
  | ok a state => exact (Reports.pure a).run ⟨state, s.events⟩
  | error reason state =>
    have hfail : Reports Failure.message
        (Action.fail (.unwrittenBundle name reason) .nothing : Action σ α) := .fail rfl _
    exact hfail.run ⟨state, s.events⟩

theorem write_reports (sink : Sink σ ρ) (output : Output) (path : String) (bytes : List UInt8)
    (elements : List Element) : Reports Failure.message (write sink output path bytes elements) :=
  (step_reports ..).bind fun _ => (step_reports ..).bind fun _ => (Reports.note _).bind fun _ =>
    (step_reports ..).bind fun _ => .pure _

theorem writeAll_reports (sink : Sink σ ρ) (elements : List Element) (tasks : List Task) :
    Reports Failure.message (writeAll sink elements tasks) := by
  induction tasks with
  | nil => exact .pure _
  | cons task rest ih => exact (write_reports ..).bind fun _ => ih.bind fun _ => .pure _

end Generation

namespace Processing

theorem collect_reports (messagePrefix : String) {elements : List Element}
    (hkinds : ∀ element ∈ elements, ∀ name, element.kind ≠ .other name) :
    Reports Failure.message (collect messagePrefix elements : Action σ _) :=
  ((Collection.collectAll_reports messagePrefix hkinds).within _).bind fun _ =>
    (Reports.record (quiet_of_diagnosticsOf rfl)).bind fun _ => .pure _

theorem gather_reports (settings : Settings) (places : Places) (files : LinkedTree) {round : Round}
    (hkinds : ∀ element ∈ round.elements, ∀ name, element.kind ≠ .other name) :
    Reports Failure.message (gather settings places files round : Action σ _) := by
  have hmarked : ∀ element ∈ round.markedElements, ∀ name, element.kind ≠ .other name :=
    fun element h => hkinds element (List.mem_of_mem_filter h)
  unfold gather
  refine (Reports.note _).bind fun _ => ?_
  split
  · refine (Reports.reporting (.ofExcept _) _).bind fun configuration => ?_
    refine (collect_reports _ hmarked).bind fun store => ?_
    refine (Reports.reporting (.ofExcept _) _).bind fun provided => ?_
    exact (Reports.note _).bind fun _ => (Lookup.locate_reports ..).bind fun _ => .pure _
  · exact .pure _

/-- The wording of failures while additional texts are merged. -/
def mergeWording (failure : Failure) : String := (mergeReport failure).text

theorem mergeHandler_reports {α : Type} (failure : Failure) :
    Reports mergeWording (do
      if failure.isProcessing then Action.report (mergeReport failure)
      throw failure : Action σ α) := by
  by_cases hprocessing : failure.isProcessing = true
  · simp only [hprocessing, if_true]
    exact ⟨fun s _ => ⟨[], mergeReport failure, quiet_nil, by rw [List.append_nil], rfl, rfl⟩⟩
  · simp only [hprocessing]
    exact .throw (Bool.eq_false_of_not_eq_true hprocessing)

theorem merge_reports (files : LinkedTree) (path : Path) (store : Store) :
    Reports mergeWording (merge files path store : Action σ _) := by
  unfold merge
  cases files.read path with
  | error fault =>
    have hwording (cause : String) : (Failure.unreadableTexts AdditionalText.fileName cause).message =
        mergeWording (.unreadableTexts AdditionalText.fileName cause) := rfl
    exact .fail (hwording _) _
  | ok bytes =>
    have hparse := AdditionalText.parse_silent AdditionalText.fileName bytes
    exact (Reports.tryCatch (hparse.within _) mergeHandler_reports).bind fun _ => .pure _

theorem mergeFound_reports (files : LinkedTree) (store : Store) (found : Option Path) :
    Reports mergeWording (mergeFound files store found : Action σ _) := by
  cases found with
  | none => exact .pure _
  | some path => exact merge_reports ..

/-- Whether a round fails while its additional texts are merged. -/
def failsInMerge (processor : Processor σ ρ) (files : LinkedTree) (round : Round) (s : Session σ) :
    Bool :=
  match (gather processor.settings processor.places files round).run
    (⟨(), s.events⟩ : Session Unit) with
  | .ok (some (_, store, found)) t =>
    match (mergeFound files store found).run t with
    | .ok .. => false
    | .error .. => true
  | _ => false

/-- What the host is told about a failure of a round: its message, in which the file of additional texts
is named first if it was being merged and the failure is not one of a file. -/
def wording (processor : Processor σ ρ) (files : LinkedTree) (round : Round) (s : Session σ)
    (failure : Failure) : String :=
  if failsInMerge processor files round s && !failure.isResource then
    AdditionalText.fileName ++ ": " ++ failure.message
  else failure.message

theorem wording_of_failsInMerge {processor : Processor σ ρ} {files : LinkedTree} {round : Round}
    {s : Session σ} (h : failsInMerge processor files round s = true) :
    wording processor files round s = mergeWording := by
  funext failure
  rw [wording, h, mergeWording, mergeReport]
  cases failure.isResource <;> rfl

theorem wording_of_not_failsInMerge {processor : Processor σ ρ} {files : LinkedTree} {round : Round}
    {s : Session σ} (h : failsInMerge processor files round s = false) :
    wording processor files round s = Failure.message := by
  funext failure
  rw [wording, h]
  rfl

theorem failsInMerge_of_run_prepare {processor : Processor σ ρ} {files : LinkedTree} {round : Round}
    {s : Session σ} {prepared : Option (Configuration × Store)} {t : Session Unit}
    (h : (prepare processor.settings processor.places files round).run ⟨(), s.events⟩ =
      .ok prepared t) : failsInMerge processor files round s = false := by
  obtain ⟨gathered, u, hgather, hrest⟩ := Action.run_bind_eq_ok_iff.mp h
  cases gathered with
  | none => simp only [failsInMerge, hgather]
  | some found =>
    obtain ⟨_, _, hmerge, _⟩ := Action.run_bind_eq_ok_iff.mp hrest
    simp only [failsInMerge, hgather, hmerge]

theorem reported_prepare (processor : Processor σ ρ) (files : LinkedTree) {round : Round}
    (hkinds : ∀ element ∈ round.elements, ∀ name, element.kind ≠ .other name) (s : Session σ) :
    Reported (wording processor files round s) s.events
      ((prepare processor.settings processor.places files round).run
        (⟨(), s.events⟩ : Session Unit)) := by
  have hgather := (gather_reports processor.settings processor.places files hkinds).run
    (⟨(), s.events⟩ : Session Unit)
  rw [prepare, EStateM.run_bind]
  -- A failure of the first stage keeps its wording; that of the merge gets the other one.
  cases hrun : (gather processor.settings processor.places files round).run
    (⟨(), s.events⟩ : Session Unit) with
  | error failure t =>
    rw [hrun] at hgather
    rw [wording_of_not_failsInMerge (by rw [failsInMerge, hrun])]
    exact hgather
  | ok gathered t =>
    rw [hrun] at hgather
    obtain ⟨told, htold, ht⟩ := hgather
    cases gathered with
    | none => exact ⟨told, htold, ht⟩
    | some found =>
      obtain ⟨configuration, store, found⟩ := found
      have hmerge := (mergeFound_reports files store found).run t
      refine .after htold ?_
      rw [← ht]
      simp only [EStateM.run_bind]
      cases hrun' : (mergeFound files store found).run t with
      | error failure u =>
        rw [hrun'] at hmerge
        rw [wording_of_failsInMerge (by simp only [failsInMerge, hrun, hrun'])]
        exact hmerge
      | ok merged u =>
        rw [hrun'] at hmerge
        exact hmerge

theorem reported_process (processor : Processor σ ρ) (files : LinkedTree) {round : Round}
    (hkinds : ∀ element ∈ round.elements, ∀ name, element.kind ≠ .other name) (s : Session σ) :
    Reported (wording processor files round s) s.events
      ((process processor files round).run s) := by
  have hprepare := reported_prepare processor files hkinds s
  rw [run_process]
  cases hrun : (prepare processor.settings processor.places files round).run
    (⟨(), s.events⟩ : Session Unit) with
  | error failure t =>
    rw [hrun] at hprepare
    exact hprepare
  | ok prepared t =>
    rw [hrun] at hprepare
    cases prepared with
    | none => exact hprepare
    | some generating =>
      obtain ⟨told, htold, ht⟩ := hprepare
      -- The merge is over, so what is left to fail has the wording of its own message.
      rw [wording_of_not_failsInMerge (failsInMerge_of_run_prepare hrun)]
      refine .after htold ?_
      rw [← ht]
      have hgenerate := (Generation.writeAll_reports processor.sink round.markedElements
        (Generation.tasks generating.1 Output.all generating.2)).run ⟨s.state, t.events⟩
      rw [← Generation.generate] at hgenerate
      simp only
      cases hrun' : (Generation.generate generating.1 processor.sink Output.all generating.2
        round.markedElements).run ⟨s.state, t.events⟩ with
      | ok uris u =>
        rw [hrun'] at hgenerate
        exact hgenerate
      | error failure u =>
        rw [hrun'] at hgenerate
        exact hgenerate

/-- If a round of elements of known kinds succeeds, the host is told no error. If it fails with a
processing failure, the host is told exactly one error, which comes last and is about this failure. -/
theorem process_reports_once (processor : Processor σ ρ) (files : LinkedTree) (round : Round)
    (hkinds : ∀ element ∈ round.elements, ∀ name, element.kind ≠ .other name) (s : Session σ) :
    (∀ result s', (process processor files round).run s = .ok result s' →
      ∃ told, Quiet told ∧ s'.events = s.events ++ told) ∧
    ∀ failure s', (process processor files round).run s = .error failure s' →
      failure.isProcessing = true → ∃ told, ∃ d : Diagnostic, Quiet told ∧
        s'.events = s.events ++ told ++ [.diagnostic d] ∧ d.severity = .error ∧
        d.text = wording processor files round s failure := by
  have hreported := reported_process processor files hkinds s
  constructor
  · intro result s' hrun
    rw [hrun] at hreported
    exact hreported
  · intro failure s' hrun
    rw [hrun] at hreported
    exact hreported

/-- A document that conforms fails in its merge with the failure of its contributions. -/
theorem run_merge_of_addAll {files : LinkedTree} {path : Path} {bytes : List UInt8} {root : Xml.Node}
    (hread : files.read path = .ok bytes)
    (hroot : (Xml.Document.read AdditionalText.catalog bytes).root = .ok root)
    (hblank : AdditionalText.blankKey? root = none) (hconforms : AdditionalText.Conforms root)
    {store : Store} {failure : Failure} {s : Session σ} {u : Session Store}
    (hadd : (Contribution.addAll (AdditionalText.contributions AdditionalText.fileName root)).run
      ⟨store, s.events ++ AdditionalText.served bytes⟩ = .error failure u) :
    ∃ t, (merge files path store).run s = .error failure t := by
  have hparse := AdditionalText.run_parse_of_conforms AdditionalText.fileName hroot hblank hconforms
    ⟨⟨.start, store⟩, s.events⟩
  rw [hadd] at hparse
  obtain ⟨reader, hrun, _⟩ := hparse
  obtain ⟨t, hhandler⟩ := @run_mergeHandler σ (Nat × AdditionalText.Merging) failure
    ⟨s.state, u.events⟩
  refine ⟨t, ?_⟩
  simp only [merge, hread, EStateM.run_bind, Action.run_tryCatch, Action.run_within, hrun, hhandler]

theorem run_process_of_merge (processor : Processor σ ρ) {files : LinkedTree} {round : Round}
    (s : Session σ) {configuration : Configuration} {store : Store} {found : Option Path}
    {t u : Session Unit} {failure : Failure}
    (hgather : (gather processor.settings processor.places files round).run ⟨(), s.events⟩ =
      .ok (some (configuration, store, found)) t)
    (hmerge : (mergeFound files store found).run t = .error failure u) :
    failsInMerge processor files round s = true ∧
      (process processor files round).run s = .error failure ⟨s.state, u.events⟩ := by
  refine ⟨by simp only [failsInMerge, hgather, hmerge], run_process_of_error ?_⟩
  simp only [prepare, EStateM.run_bind, hgather, hmerge]

def headingElement : Element :=
  ⟨.field, "HEADING", "app.Main", some (.text "tle"), some ⟨"", [⟨"de", "Titel"⟩]⟩, []⟩

def headingRound : Round := ⟨[headingElement], [⟨"PREFIX", "Ti", none⟩], [], [], false⟩

theorem gather_headingRound : ∃ configuration store t,
    (gather titleProcessor.settings titleProcessor.places titleTree headingRound).run
      (⟨(), []⟩ : Session Unit) =
      .ok (some (configuration, store, some ⟨.root, ["work", "AdditionalTexts.xml"]⟩)) t ∧
    store.contains "de" "Title" = true := by
  have hgathers : (match (gather titleProcessor.settings titleProcessor.places titleTree
      headingRound).run (⟨(), []⟩ : Session Unit) with
    | .ok (some (_, store, found)) _ =>
      store.contains "de" "Title" && found == some ⟨.root, ["work", "AdditionalTexts.xml"]⟩
    | _ => false) = true := by decide +kernel
  split at hgathers
  · rename_i configuration store found t hrun
    rw [Bool.and_eq_true, beq_iff_eq] at hgathers
    obtain ⟨hcontains, rfl⟩ := hgathers
    exact ⟨configuration, store, t, hrun, hcontains⟩
  · cases hgathers

theorem refused_title {store : Store} (h : store.contains "de" "Title" = true) (events : List Event) :
    ∃ t, (Contribution.addAll
        (AdditionalText.contributions AdditionalText.fileName AdditionalText.titleRoot)).run
      ⟨store, events⟩ = .error (.duplicateKey "Title" "@Text" AdditionalText.fileName) t := by
  have hresolve : Locale.resolve (some "de") = .ok "de" := by decide +kernel
  obtain ⟨entry, hgives⟩ := Contribution.gives_of_resolve
    (c := ⟨some "de", "Title", false, "", "Ti", AdditionalText.fileName⟩) (by decide) hresolve
  obtain ⟨hkey, hmark, _, _, _, hclass⟩ := hgives.content
  have hinsert : store.insert "de" entry =
      .error (.duplicateKey "Title" "@Text" AdditionalText.fileName) := by
    refine Store.insert_eq_error_iff.mpr ⟨by rw [hkey]; exact h, ?_⟩
    rw [hkey, hclass, Entry.mark, hmark]
    rfl
  have hadd := Contribution.run_add
    ⟨some "de", "Title", false, "", "Ti", AdditionalText.fileName⟩ ⟨store, events⟩
  rw [Contribution.outcome_of_gives hgives, hinsert] at hadd
  refine ⟨⟨store, events⟩, Action.run_bind_eq_error_iff.mpr (.inl hadd)⟩

theorem fails_headingRound : ∃ s',
    (process titleProcessor titleTree headingRound).run ⟨.empty, []⟩ =
      .error (.duplicateKey "Title" "@Text" AdditionalText.fileName) s' ∧
    failsInMerge titleProcessor titleTree headingRound ⟨.empty, []⟩ = true := by
  obtain ⟨configuration, store, t, hgather, hcontains⟩ := gather_headingRound
  obtain ⟨_, hadd⟩ := refused_title hcontains
    (t.events ++ AdditionalText.served AdditionalText.titleDocument)
  have hblank : AdditionalText.blankKey? AdditionalText.titleRoot = none := by decide +kernel
  obtain ⟨u, hmerge⟩ := run_merge_of_addAll read_titleTree AdditionalText.root_titleDocument
    hblank AdditionalText.conforms_titleRoot hadd
  obtain ⟨hfails, hrun⟩ := run_process_of_merge titleProcessor ⟨.empty, []⟩ hgather hmerge
  exact ⟨_, hrun, hfails⟩

/-- The key that is taken is told once, and the file that has it is named first. -/
theorem process_reports_once_title :
    (∀ element ∈ headingRound.elements, ∀ name, element.kind ≠ .other name) ∧
    ∃ s' told, ∃ d : Diagnostic,
      (process titleProcessor titleTree headingRound).run ⟨.empty, []⟩ =
        .error (.duplicateKey "Title" "@Text" AdditionalText.fileName) s' ∧
      Quiet told ∧ s'.events = told ++ [.diagnostic d] ∧ d.severity = .error ∧
      d.text = AdditionalText.fileName ++ ": " ++
        (Failure.duplicateKey "Title" "@Text" AdditionalText.fileName).message := by
  have hkinds : ∀ element ∈ headingRound.elements, ∀ name, element.kind ≠ .other name := by
    intro element helement name
    rw [List.mem_singleton.mp helement]
    nofun
  obtain ⟨s', hrun, hfails⟩ := fails_headingRound
  obtain ⟨_, hreport⟩ := process_reports_once titleProcessor titleTree headingRound hkinds
    ⟨.empty, []⟩
  obtain ⟨told, d, hquiet, hevents, hseverity, htext⟩ := hreport _ s' hrun rfl
  rw [wording, hfails] at htext
  exact ⟨hkinds, s', told, d, hrun, hquiet, hevents, hseverity, htext⟩

end Processing

end ResourceBundle
