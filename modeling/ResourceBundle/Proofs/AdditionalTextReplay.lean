import ResourceBundle.Proofs.AdditionalTextShape

/-! # Going through a document of additional texts

The reader goes through a document by starts and ends of elements, with a pending text and a pending
translation. On a conforming document this does to the store what a pass over the contributions does,
up to the failure that ends it, and the reader counts what it has inserted. -/

namespace ResourceBundle.AdditionalText

open Xml (Node)

variable {origin key : String}

/-- From readers with `before`, an action does to the store what a pass over contributions does, and
counts the entries. If it succeeds, the reader has `after`. -/
def Tracks (before : Reader → Prop) (cs : List Contribution) (action : Action Merging Unit)
    (after : Reader → Prop) : Prop :=
  ∀ s : Session Merging, before s.state.reader →
    match (Contribution.addAll cs).run ⟨s.state.store, s.events⟩ with
    | .ok _ t => ∃ reader, action.run s = .ok () ⟨⟨reader, t.state⟩, t.events⟩ ∧ after reader ∧
        reader.inserted = s.state.reader.inserted + cs.length
    | .error failure t => ∃ reader, action.run s = .error failure ⟨⟨reader, t.state⟩, t.events⟩ ∧
        reader.inserted + s.state.store.size = s.state.reader.inserted + t.state.size

namespace Tracks

variable {before between after : Reader → Prop} {cs ds : List Contribution}
  {first second : Action Merging Unit}

theorem pure_unit : Tracks before [] (pure ()) before := by
  intro s hs
  exact ⟨s.state.reader, rfl, hs, rfl⟩

theorem change {f : Reader → Reader}
    (h : ∀ reader, before reader → after (f reader) ∧ (f reader).inserted = reader.inserted) :
    Tracks before [] (onReader f) after := by
  intro s hs
  obtain ⟨hafter, hinserted⟩ := h s.state.reader hs
  exact ⟨f s.state.reader, rfl, hafter, hinserted⟩

/-- What two actions track in sequence; the counts of a failure refer to the start. -/
theorem seq (h : Tracks before cs first between) (h' : Tracks between ds second after) :
    Tracks before (cs ++ ds) (do first; second) after := by
  intro s hs
  have hfirst := h s hs
  rw [Contribution.addAll_append, EStateM.run_bind]
  cases hrun : (Contribution.addAll cs).run ⟨s.state.store, s.events⟩ with
  | error failure t =>
    rw [hrun] at hfirst
    obtain ⟨reader, haction, hcount⟩ := hfirst
    refine ⟨reader, ?_, hcount⟩
    rw [EStateM.run_bind, haction]
  | ok _ t =>
    rw [hrun] at hfirst
    obtain ⟨reader, haction, hbetween, hcount⟩ := hfirst
    have hsize := Contribution.size_of_run_addAll hrun
    have hsecond := h' ⟨⟨reader, t.state⟩, t.events⟩ hbetween
    simp only at hsecond hsize ⊢
    cases hrun' : (Contribution.addAll ds).run ⟨t.state, t.events⟩ with
    | error failure u =>
      rw [hrun'] at hsecond
      obtain ⟨last, haction', hcount'⟩ := hsecond
      refine ⟨last, ?_, by omega⟩
      rw [EStateM.run_bind, haction]
      exact haction'
    | ok _ u =>
      rw [hrun'] at hsecond
      obtain ⟨last, haction', hafter, hcount'⟩ := hsecond
      refine ⟨last, ?_, hafter, by rw [hcount', hcount, List.length_append, Nat.add_assoc]⟩
      rw [EStateM.run_bind, haction]
      exact haction'

theorem skip (h : Tracks before [] first between) (h' : Tracks between ds second after) :
    Tracks before ds (do first; second) after := h.seq h'

theorem forget (h : Tracks before cs first after) : Tracks before cs first (fun _ => True) := by
  intro s hs
  have hrun := h s hs
  cases hcs : (Contribution.addAll cs).run ⟨s.state.store, s.events⟩ with
  | error failure t =>
    rw [hcs] at hrun
    exact hrun
  | ok _ t =>
    rw [hcs] at hrun
    obtain ⟨reader, haction, _, hcount⟩ := hrun
    exact ⟨reader, haction, trivial, hcount⟩

end Tracks

theorem addPieces_inTranslation (text : Option PendingText) (locale : String)
    (folded pieces : List (List Char)) (inserted : Nat) :
    Reader.addPieces ⟨.inTranslation, text, some ⟨locale, folded⟩, inserted⟩ pieces =
      ⟨.inTranslation, text, some ⟨locale, folded ++ pieces.map Text.fold⟩, inserted⟩ := by
  induction pieces generalizing folded with
  | nil => simp [Reader.addPieces]
  | cons piece pieces ih =>
    have hstep := ih (folded ++ [Text.fold piece])
    simpa [Reader.addPieces, Reader.addPiece] using hstep

theorem addPieces_inDescription (translation : Option PendingTranslation)
    (kept pieces : List (List Char)) (inserted : Nat) :
    Reader.addPieces ⟨.inDescription, some ⟨key, kept⟩, translation, inserted⟩ pieces =
      ⟨.inDescription, some ⟨key, kept ++
        (pieces.map fun piece => Text.trim (Text.fold piece)).filter (· ≠ [])⟩, translation,
        inserted⟩ := by
  induction pieces generalizing kept with
  | nil => simp [Reader.addPieces]
  | cons piece pieces ih =>
    by_cases hblank : Text.trim (Text.fold piece) = []
    · simpa [Reader.addPieces, Reader.addPiece, hblank] using ih kept
    · have hstep := ih (kept ++ [Text.trim (Text.fold piece)])
      simpa [Reader.addPieces, Reader.addPiece, hblank] using hstep

theorem flatten_map_fold (pieces : List (List Char)) :
    (pieces.map Text.fold).flatten = Text.fold pieces.flatten := by
  induction pieces with
  | nil => rfl
  | cons piece pieces ih =>
    rw [List.map_cons, List.flatten_cons, ih, List.flatten_cons, Text.fold_eq_filter,
      Text.fold_eq_filter, Text.fold_eq_filter, List.filter_append]

theorem replay_of_isData {node : Node} (h : IsData node) : replay origin node = pure () := by
  cases h <;> rfl

theorem replayAll_of_isData {nodes : List Node} (h : ∀ node ∈ nodes, IsData node) :
    replayAll origin nodes = pure () := by
  induction nodes with
  | nil => rfl
  | cons node nodes ih =>
    obtain ⟨hnode, hnodes⟩ := List.forall_mem_cons.mp h
    rw [replayAll, replay_of_isData hnode, ih hnodes, pure_bind]

theorem replayAll_cons_of_isData {node : Node} (h : IsData node) (rest : List Node) :
    replayAll origin (node :: rest) = replayAll origin rest := by
  rw [replayAll, replay_of_isData h, pure_bind]

@[simp] theorem run_onReader (change : Reader → Reader) (s : Session Merging) :
    (onReader change).run s = .ok () ⟨⟨change s.state.reader, s.state.store⟩, s.events⟩ := rfl

theorem enter_texts (attributes : List (Xml.Name × List Char)) (pieces : List (List Char)) :
    enter textsName attributes pieces = onReader Reader.reset := by
  rw [enter, if_pos rfl]

theorem enter_text (attributes : List (Xml.Name × List Char)) (pieces : List (List Char)) :
    enter textName attributes pieces = onReader fun reader => { reader.reset with
      text := some ⟨(attribute? attributes keyName).getD "", []⟩, phase := .inText } := by
  rw [enter, if_neg (by decide), if_pos rfl]

theorem enter_description (attributes : List (Xml.Name × List Char)) (pieces : List (List Char)) :
    enter descriptionName attributes pieces = onReader fun reader => Reader.addPieces { reader with
      phase := .inDescription
      text := reader.text.map fun text => { text with description := [] } } pieces := by
  rw [enter, if_neg (by decide), if_neg (by decide), if_pos rfl]

theorem enter_translation (attributes : List (Xml.Name × List Char)) (pieces : List (List Char)) :
    enter translationName attributes pieces =
      Action.ofExcept (Locale.resolve (attribute? attributes languageName)) >>= fun locale =>
        onReader fun reader => Reader.addPieces { reader with
          phase := .inTranslation
          translation := some ⟨locale, []⟩ } pieces := by
  rw [enter, if_neg (by decide), if_neg (by decide), if_neg (by decide), if_pos rfl]

theorem leave_text : leave origin textName = onReader Reader.reset := by
  rw [leave, if_pos (.inr rfl)]

theorem leave_texts : leave origin textsName = onReader Reader.reset := by
  rw [leave, if_pos (.inl rfl)]

theorem leave_description :
    leave origin descriptionName = onReader fun reader => { reader with phase := .inText } := by
  rw [leave, if_neg (by decide), if_pos rfl]

theorem run_leave_translation (text : PendingText) (translation : PendingTranslation) (phase : Phase)
    (inserted : Nat) (store : Store) (events : List Event) :
    (leave origin translationName).run
        ⟨⟨⟨phase, some text, some translation, inserted⟩, store⟩, events⟩ =
      match (insert origin text translation).run
        ⟨⟨⟨phase, some text, some translation, inserted⟩, store⟩, events⟩ with
      | .ok _ s => .ok () { s with state := { s.state with
          reader := { s.state.reader with translation := none, phase := .inText } } }
      | .error failure s => .error failure s := by
  rw [leave, if_neg (by decide), if_neg (by decide), if_pos rfl]
  simp only [EStateM.run_bind, Action.run_getState]
  cases (insert origin text translation).run
    ⟨⟨⟨phase, some text, some translation, inserted⟩, store⟩, events⟩ <;> rfl

/-- The insertion of a translation is that of its contribution, and is counted. -/
theorem run_insert (attributes : List (Xml.Name × List Char)) (inner : List Node)
    (kept : List (List Char)) (phase : Phase) (locale : String) (inserted : Nat) (store : Store)
    (events : List Event) (c : Contribution)
    (hc : c = contribution origin key kept.flatten attributes inner)
    (hlocale : Locale.resolve c.language = .ok locale) :
    let translation : PendingTranslation := ⟨locale, (piecesOf inner).map Text.fold⟩
    let reader : Reader := ⟨phase, some ⟨key, kept⟩, some translation, inserted⟩
    (insert origin ⟨key, kept⟩ translation).run ⟨⟨reader, store⟩, events⟩ =
      match c.add.run ⟨store, events⟩ with
      | .ok _ t => .ok () ⟨⟨{ reader with inserted := inserted + 1 }, t.state⟩, t.events⟩
      | .error failure t => .error failure ⟨⟨reader, t.state⟩, t.events⟩ := by
  have hentry : Entry.create key false locale (String.ofList kept.flatten)
      (String.ofList ((piecesOf inner).map Text.fold).flatten) origin = c.entry locale := by
    rw [hc, flatten_map_fold]
    rfl
  simp only [insert, Contribution.add, hlocale, hentry, EStateM.run_bind, Action.run_ofExcept_ok]
  cases c.entry locale with
  | error failure => rfl
  | ok entry =>
    simp only [Action.run_ofExcept_ok, Action.run_zoom]
    cases (Store.place locale entry).run ⟨store, events⟩ <;> rfl

/-- A translation inside a text is tracked by its contribution. -/
theorem tracks_translation (kept : List (List Char)) (attributes : List (Xml.Name × List Char))
    (line : Nat) {inner : List Node} (hinner : ∀ node ∈ inner, IsData node) :
    Tracks (·.text = some ⟨key, kept⟩) [contribution origin key kept.flatten attributes inner]
      (replay origin (.element translationName attributes line inner))
      (·.text = some ⟨key, kept⟩) := by
  rintro ⟨⟨⟨phase, text, translation, inserted⟩, store⟩, events⟩ htext
  simp only at htext
  subst htext
  generalize hc : contribution origin key kept.flatten attributes inner = c
  have hlanguage : attribute? attributes languageName = c.language := by rw [← hc]; rfl
  simp only [Contribution.addAll, replay, replayAll_of_isData hinner, enter_translation, hlanguage,
    EStateM.run_bind, EStateM.run_pure]
  cases hlocale : Locale.resolve c.language with
  | error failure =>
    have hadd : c.add.run ⟨store, events⟩ = .error failure ⟨store, events⟩ := by
      rw [Contribution.add, EStateM.run_bind, hlocale, Action.run_ofExcept_error]
    rw [hadd]
    exact ⟨_, rfl, rfl⟩
  | ok locale =>
    have henter : (onReader fun reader => Reader.addPieces { reader with
        phase := .inTranslation
        translation := some ⟨locale, []⟩ } (piecesOf inner)).run
        ⟨⟨⟨phase, some ⟨key, kept⟩, translation, inserted⟩, store⟩, events⟩ =
          .ok () ⟨⟨⟨.inTranslation, some ⟨key, kept⟩,
            some ⟨locale, (piecesOf inner).map Text.fold⟩, inserted⟩, store⟩, events⟩ := by
      simp only [run_onReader, addPieces_inTranslation, List.nil_append]
    simp only [Action.run_ofExcept_ok, henter, run_leave_translation,
      run_insert attributes inner kept .inTranslation locale inserted store events c hc.symm hlocale]
    cases hadd : c.add.run ⟨store, events⟩ with
    | error failure t =>
      have hstate : t = ⟨store, events⟩ := by
        rcases Contribution.run_add_cases c ⟨store, events⟩ with ⟨_, _, h⟩ | ⟨_, h⟩ |
          ⟨_, _, _, h⟩ | ⟨_, _, _, _, h⟩ <;> rw [h] at hadd <;> cases hadd <;> rfl
      subst hstate
      exact ⟨_, rfl, rfl⟩
    | ok _ t => exact ⟨_, rfl, rfl, rfl⟩

/-- A description inside a text replaces what was kept of one before it. -/
theorem tracks_description (kept : List (List Char)) (attributes : List (Xml.Name × List Char))
    (line : Nat) {inner : List Node} (hinner : ∀ node ∈ inner, IsData node) :
    Tracks (·.text = some ⟨key, kept⟩) [] (replay origin (.element descriptionName attributes line inner))
      (·.text = some ⟨key, ((piecesOf inner).map fun piece =>
        Text.trim (Text.fold piece)).filter (· ≠ [])⟩) := by
  rw [replay, enter_description, replayAll_of_isData hinner, leave_description]
  generalize hpieces : ((piecesOf inner).map fun piece =>
    Text.trim (Text.fold piece)).filter (· ≠ []) = pieces
  have hleave : Tracks (·.text = some ⟨key, pieces⟩) []
      (onReader fun reader => { reader with phase := .inText }) (·.text = some ⟨key, pieces⟩) :=
    Tracks.change fun reader h => ⟨h, rfl⟩
  apply Tracks.skip (Tracks.change _) (Tracks.pure_unit.skip hleave)
  rintro ⟨phase, text, translation, inserted⟩ htext
  simp only at htext
  subst htext
  simp only [Option.map_some, addPieces_inDescription, List.nil_append, hpieces, and_self]

theorem tracks_translations (kept : List (List Char)) {content : List Node}
    (h : AreTranslations content) :
    Tracks (·.text = some ⟨key, kept⟩) (translationsIn origin key kept.flatten content)
      (replayAll origin content) (·.text = some ⟨key, kept⟩) := by
  induction h with
  | nil => exact Tracks.pure_unit
  | filler hfiller _ ih =>
    rw [translationsIn_cons_of_isData hfiller.isData, replayAll_cons_of_isData hfiller.isData]
    exact ih
  | @translation attributes line inner rest _ hinner _ ih =>
    exact (tracks_translation kept attributes line hinner).seq ih

/-- The content of a text gives its description to each of its translations, and no other. -/
theorem tracks_textContent {content : List Node} (h : IsTextContent content) :
    Tracks (·.text = some ⟨key, []⟩) (translationsIn origin key (descriptionIn content) content)
      (replayAll origin content) (fun _ => True) := by
  induction h with
  | plain h =>
    rw [descriptionIn_of_areTranslations h]
    exact (tracks_translations [] h).forget
  | filler hfiller _ ih =>
    rw [translationsIn_cons_of_isData hfiller.isData, descriptionIn_cons_of_isData hfiller.isData,
      replayAll_cons_of_isData hfiller.isData]
    exact ih
  | @described attributes line inner rest hinner hrest =>
    have hdescription : descriptionIn (.element descriptionName attributes line inner :: rest) =
        describe (piecesOf inner) := by
      have hcons : descriptionIn (.element descriptionName attributes line inner :: rest) =
        describe (piecesOf inner) ++ descriptionIn rest := rfl
      rw [hcons, descriptionIn_of_areTranslations hrest, List.append_nil]
    rw [hdescription]
    exact (tracks_description [] attributes line hinner).skip (tracks_translations _ hrest).forget

/-- A text starts afresh, whatever was read before it. -/
theorem tracks_text (attributes : List (Xml.Name × List Char)) (line : Nat) {content : List Node}
    (h : IsTextContent content) :
    Tracks (fun _ => True)
      (translationsIn origin ((attribute? attributes keyName).getD "") (descriptionIn content) content)
      (replay origin (.element textName attributes line content)) (fun _ => True) := by
  rw [replay, enter_text, leave_text]
  have hleave : Tracks (fun _ => True) [] (onReader Reader.reset) (fun _ => True) :=
    Tracks.change fun reader _ => ⟨trivial, rfl⟩
  generalize (attribute? attributes keyName).getD "" = key
  have hcontent : Tracks (·.text = some ⟨key, []⟩)
      (translationsIn origin key (descriptionIn content) content)
      (replayAll origin content) (fun _ => True) := tracks_textContent h
  have hinside := hcontent.seq hleave
  rw [List.append_nil] at hinside
  exact Tracks.skip (Tracks.change fun reader _ => ⟨rfl, rfl⟩) hinside

theorem tracks_texts {nodes : List Node} (h : AreTexts nodes) :
    Tracks (fun _ => True) (textsIn origin nodes) (replayAll origin nodes) (fun _ => True) := by
  induction h with
  | nil => exact Tracks.pure_unit
  | filler hfiller _ ih =>
    rw [textsIn_cons_of_isData hfiller.isData, replayAll_cons_of_isData hfiller.isData]
    exact ih
  | @text attributes line inner rest _ hinner _ ih =>
    exact (tracks_text attributes line hinner).seq ih

/-- A conforming document is tracked by its contributions. -/
theorem tracks_root {root : Node} (h : Conforms root) :
    Tracks (fun _ => True) (contributions origin root) (replay origin root) (fun _ => True) := by
  obtain ⟨htexts⟩ := h
  rename_i attributes line children
  rw [replay, enter_texts, leave_texts]
  have hreset : Tracks (fun _ => True) [] (onReader Reader.reset) (fun _ => True) :=
    Tracks.change fun reader _ => ⟨trivial, rfl⟩
  have hchildren : Tracks (fun _ => True) (textsIn origin children) (replayAll origin children)
      (fun _ => True) := tracks_texts htexts
  have hinside := hchildren.seq hreset
  rw [List.append_nil] at hinside
  exact hreset.skip hinside

end ResourceBundle.AdditionalText
