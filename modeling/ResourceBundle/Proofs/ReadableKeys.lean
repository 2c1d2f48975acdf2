import ResourceBundle.Proofs.CollectionOutcome

/-! # Text keys can be read back

If the id of a text key has no dot, the last dot of the key ends the class name, and what follows it begins
with the use. The use goes on to the first underscore, or it is the one that holds an underscore itself.
So two texts that meet at a place of the store have the same class, the same use and the same id. -/

namespace ResourceBundle

namespace Text

/-- A text falls apart at a separator in one way only if the separator is not in what follows it. -/
theorem append_cons_inj_of_not_mem {separator : Char} {as bs xs ys : List Char} (hx : separator ∉ xs)
    (hy : separator ∉ ys) (h : as ++ separator :: xs = bs ++ separator :: ys) : as = bs ∧ xs = ys := by
  rcases List.append_eq_append_iff.mp h with ⟨cs, rfl, hcs⟩ | ⟨cs, rfl, hcs⟩
  · cases cs with
    | nil => exact ⟨(List.append_nil as).symm, (List.cons.inj hcs).2⟩
    | cons c cs =>
      obtain ⟨_, rfl⟩ := List.cons.inj hcs
      exact absurd (List.mem_append_right cs List.mem_cons_self) hx
  · cases cs with
    | nil => exact ⟨List.append_nil bs, (List.cons.inj hcs).2.symm⟩
    | cons c cs =>
      obtain ⟨_, rfl⟩ := List.cons.inj hcs
      exact absurd (List.mem_append_right cs List.mem_cons_self) hy

theorem takeWhile_append_cons (separator : Char) (cs ds : List Char) :
    (cs ++ separator :: ds).takeWhile (· ≠ separator) = cs.takeWhile (· ≠ separator) := by
  induction cs with
  | nil => simp
  | cons c cs ih => rw [List.cons_append, List.takeWhile_cons, List.takeWhile_cons, ih]

end Text

namespace TextUse

/-- The part of the name of a use before its first underscore. -/
def stem (use : TextUse) : List Char := use.text.toList.takeWhile (· ≠ '_')

theorem stem_injective {u v : TextUse} (h : u.stem = v.stem) : u = v := by
  have hfind (use : TextUse) : all.find? (·.stem == use.stem) = some use := by
    cases use <;> decide
  have hu := hfind u
  rw [h, hfind v] at hu
  exact (Option.some.inj hu).symm

theorem text_append_inj {u v : TextUse} {xs ys : List Char}
    (h : u.text.toList ++ '_' :: xs = v.text.toList ++ '_' :: ys) : u = v ∧ xs = ys := by
  have hstem := congrArg (List.takeWhile (· ≠ '_')) h
  rw [Text.takeWhile_append_cons, Text.takeWhile_append_cons] at hstem
  obtain rfl := stem_injective hstem
  exact ⟨rfl, (List.cons.inj (List.append_cancel_left h)).2⟩

theorem dot_not_mem_text (use : TextUse) : '.' ∉ use.text.toList := by
  cases use <;> decide

end TextUse

namespace Key

/-- The name of a class as it stands in keys. -/
def dotted (className : String) : String :=
  String.ofList (Text.replaceChar '$' ['.'] className.toList)

theorem toList_ofText (className : String) (use : TextUse) (id : String) :
    (ofText className use id).toList =
      (dotted className).toList ++ '.' :: (use.text.toList ++ '_' :: id.toList) := by
  simp [ofText, dotted]

theorem dot_not_mem_tail (use : TextUse) {id : String} (h : '.' ∉ id.toList) :
    '.' ∉ use.text.toList ++ '_' :: id.toList := by
  intro hmem
  rcases List.mem_append.mp hmem with huse | hid
  · exact use.dot_not_mem_text huse
  · rcases List.mem_cons.mp hid with hscore | hid
    · exact absurd hscore (by decide)
    · exact h hid

theorem ofText_inj {c d : String} {u v : TextUse} {i j : String} (hi : '.' ∉ i.toList)
    (hj : '.' ∉ j.toList) (h : ofText c u i = ofText d v j) : dotted c = dotted d ∧ u = v ∧ i = j := by
  have hlist := congrArg String.toList h
  rw [toList_ofText, toList_ofText] at hlist
  obtain ⟨hclass, htail⟩ :=
    Text.append_cons_inj_of_not_mem (dot_not_mem_tail u hi) (dot_not_mem_tail v hj) hlist
  obtain ⟨huse, hid⟩ := TextUse.text_append_inj htail
  exact ⟨String.toList_inj.mp hclass, huse, String.toList_inj.mp hid⟩

theorem ofText_congr {c d : String} (h : dotted c = dotted d) (use : TextUse) (id : String) :
    ofText c use id = ofText d use id := by
  rw [ofText, ofText]
  exact congrArg (fun name => name ++ "." ++ use.text ++ "_" ++ id) h

/-- The derivation of a key knows nothing of keys that are taken. -/
theorem ne_duplicateKey_of_derive {kind : ElementKind} {name id : String} {use : TextUse}
    {failure : Failure} (h : derive kind name id use = .error failure) (key mark className : String) :
    failure ≠ .duplicateKey key mark className := by
  rintro rfl
  unfold derive ofElement ofField at h
  cases kind with
  | enumConstant => cases h
  | other kindName => cases h
  | method =>
    dsimp only at h
    split at h
    · split at h <;> cases h
    · cases h
  | field =>
    dsimp only at h
    split at h
    · split at h
      · cases h
      · split at h
        · split at h
          · split at h <;> cases h
          · cases h
        · cases h
    · cases h

end Key

namespace Element

/-- Whether a contribution is a translation of a text of the element that has the given key. -/
def HasText (element : Element) (key : DerivedKey) (c : Contribution) : Prop :=
  ∃ note ∈ element.texts, element.textKey note = .ok key ∧ c ∈ element.textContributions note

theorem HasText.key_eq {element : Element} {key : DerivedKey} {c : Contribution}
    (h : element.HasText key c) : c.key = Key.ofText element.enclosingType key.use key.id := by
  obtain ⟨note, _, hkey, hc⟩ := h
  rw [textContributions, hkey] at hc
  obtain ⟨translation, _, rfl⟩ := List.mem_map.mp hc
  rfl

end Element

namespace Contribution

/-- Whether two contributions are meant for the same place. -/
def Clashes (c d : Contribution) : Prop := ∃ p q, c.Gives p ∧ d.Gives q ∧ p.slot = q.slot

theorem Clashes.key_eq {c d : Contribution} (h : c.Clashes d) : c.key = d.key := by
  obtain ⟨p, q, hp, hq, hslot⟩ := h
  have hkey : p.entry.key = q.entry.key := congrArg Prod.snd hslot
  rw [← hp.content.1, hkey, hq.content.1]

theorem of_outcome_eq_duplicateKey {c : Contribution} {store : Store} {key mark className : String}
    (h : c.outcome store = .error (.duplicateKey key mark className)) :
    ∃ placed, c.Gives placed ∧ placed.slot ∈ store.placed.map Placed.slot ∧ key = c.key := by
  cases hlocale : Locale.resolve c.language with
  | error failure =>
    obtain ⟨tag, rfl⟩ := Locale.failure_of_resolve hlocale
    rw [outcome, hlocale] at h
    cases h
  | ok locale =>
    by_cases hkey : c.key = ""
    · have hentry : c.entry locale = .error .emptyEntryKey := dif_pos hkey
      simp only [outcome, hlocale, hentry] at h
      cases h
    · obtain ⟨entry, hgives⟩ := gives_of_resolve hkey hlocale
      rw [outcome_of_gives hgives] at h
      obtain ⟨htaken, hfailure⟩ := Store.insert_eq_error_iff.mp h
      refine ⟨⟨locale, entry⟩, hgives, Store.contains_iff.mp htaken, ?_⟩
      cases hfailure
      exact hgives.content.1

end Contribution

namespace Collection

/-- A step of an element whose failure is that of a taken place adds a contribution. -/
theorem eq_add_of_outcome_eq_duplicateKey {messagePrefix : String} {element : Element} {step : Step}
    (hstep : step ∈ steps messagePrefix element) {store : Store} {key mark className : String}
    (h : step.outcome store = .error (.duplicateKey key mark className)) :
    ∃ c, step = .add element c := by
  have hadded {cs : List Contribution} (hmem : step ∈ addSteps element cs) :
      ∃ c, step = .add element c := by
    obtain ⟨c, _, rfl⟩ := List.mem_map.mp hmem
    exact ⟨c, rfl⟩
  have htexts (hmem : step ∈ element.texts.flatMap (textSteps element)) :
      ∃ c, step = .add element c := by
    obtain ⟨note, _, hmem⟩ := List.mem_flatMap.mp hmem
    rcases List.mem_cons.mp hmem with rfl | hmem
    · cases hkey : element.textKey note with
      | ok own =>
        rw [hkey] at h
        cases h
      | error failure =>
        rw [hkey] at h
        cases h
        exact absurd rfl (Key.ne_duplicateKey_of_derive hkey _ _ _)
    · exact hadded hmem
  unfold steps at hstep
  cases hkind : element.kind with
  | field =>
    rw [hkind] at hstep
    exact (List.mem_append.mp hstep).elim hadded htexts
  | enumConstant =>
    rw [hkind] at hstep
    exact (List.mem_append.mp hstep).elim hadded htexts
  | method =>
    simp only [hkind] at hstep
    split at hstep
    · rw [List.mem_singleton.mp hstep] at h
      cases h
    · exact htexts hstep
  | other name =>
    simp only [hkind] at hstep
    rw [List.mem_singleton.mp hstep] at h
    cases h

/-- A collection into an empty store that finds a place taken has come to a contribution that clashes
with an earlier one. -/
theorem clashes_of_run_collectAll {messagePrefix : String} {elements : List Element}
    {events : List Event} {key mark className : String} {t : Session Store}
    (h : (collectAll messagePrefix elements).run ⟨.empty, events⟩ =
      .error (.duplicateKey key mark className) t) :
    ∃ before element c after other d,
      elements.flatMap (steps messagePrefix) = before ++ .add element c :: after ∧
      .add other d ∈ before ∧ c.Clashes d ∧ key = c.key := by
  have hrun := run_actAll (elements.flatMap (steps messagePrefix)) ⟨.empty, events⟩
  rw [← collectAll_eq_actAll, h] at hrun
  cases htake : takeAll (elements.flatMap (steps messagePrefix)) .empty with
  | mk store failed =>
    rw [htake] at hrun
    cases failed with
    | none =>
      obtain ⟨_, _, hok⟩ := hrun
      cases hok
    | some failing =>
      obtain ⟨step, failure⟩ := failing
      obtain ⟨_, _, herror⟩ := hrun
      obtain rfl : Failure.duplicateKey key mark className = failure :=
        (EStateM.Result.error.inj herror).1
      obtain ⟨before, after, hsplit, hbefore, hfails⟩ := takeAll_eq_some htake
      obtain ⟨element, _, hstep⟩ := List.mem_flatMap.mp (mem_of_takeAll_eq_some htake)
      obtain ⟨c, rfl⟩ := eq_add_of_outcome_eq_duplicateKey hstep hfails
      obtain ⟨p, hp, htaken, hkey⟩ := Contribution.of_outcome_eq_duplicateKey hfails
      -- The store holds what the steps before have given, so one of them has given the place.
      obtain ⟨_, placed, hgives, hplaced⟩ := takeAll_eq_none hbefore
      obtain ⟨q, hq, hslot⟩ := List.mem_map.mp htaken
      rw [hplaced] at hq
      obtain ⟨d, hd, hdgives⟩ := Contribution.exists_given_of_mem hgives hq
      obtain ⟨earlier, hearlier, hcontribution⟩ := List.mem_filterMap.mp hd
      cases earlier with
      | reject _ => cases hcontribution
      | demand _ _ => cases hcontribution
      | add other own =>
        obtain rfl := Option.some.inj hcontribution
        exact ⟨before, element, c, after, other, own, hsplit, hearlier,
          ⟨p, q, hp, hdgives, hslot.symm⟩, hkey⟩

def saveField (className : String) : Element :=
  ⟨.field, "m_Save", className, none, none, [⟨"", "Save", .caption, [⟨"en", "Save"⟩]⟩]⟩

def saveCaption (className : String) : Contribution :=
  ⟨some "en", "app.Main.Menu.CAPTION_Save", false, "", "Save", className⟩

theorem steps_saveField :
    [saveField "app.Main$Menu", saveField "app.Main.Menu"].flatMap (steps "MSG") =
      [.demand (saveField "app.Main$Menu") (.ok ()),
        .add (saveField "app.Main$Menu") (saveCaption "app.Main$Menu"),
        .demand (saveField "app.Main.Menu") (.ok ()),
        .add (saveField "app.Main.Menu") (saveCaption "app.Main.Menu")] := by
  rfl

theorem run_collectAll_saveField : ∃ t,
    (collectAll "MSG" [saveField "app.Main$Menu", saveField "app.Main.Menu"]).run ⟨.empty, []⟩ =
      .error (.duplicateKey "app.Main.Menu.CAPTION_Save" "@Text" "app.Main.Menu") t := by
  have hresolve : Locale.resolve (some "en") = .ok "en" := by decide +kernel
  have hgives (className : String) : ∃ entry, (saveCaption className).Gives ⟨"en", entry⟩ :=
    Contribution.gives_of_resolve (by decide : "app.Main.Menu.CAPTION_Save" ≠ "") hresolve
  obtain ⟨first, hfirst⟩ := hgives "app.Main$Menu"
  obtain ⟨second, hsecond⟩ := hgives "app.Main.Menu"
  cases hinsert : Store.empty.insert "en" first with
  | error failure => cases (Store.insert_eq_error_iff.mp hinsert).1
  | ok store =>
    have htaken : store.insert "en" second =
        .error (.duplicateKey "app.Main.Menu.CAPTION_Save" "@Text" "app.Main.Menu") := by
      rw [Store.insert_eq_error_iff, Store.contains_iff, (Store.insert_eq_ok_iff.mp hinsert).2]
      refine ⟨List.mem_singleton.mpr ?_, ?_⟩
      · rw [Placed.slot, hfirst.content.1, hsecond.content.1]
        rfl
      · rw [Entry.mark, hsecond.content.1, hsecond.content.2.1, hsecond.content.2.2.2.2.2]
        rfl
    have hrun := run_actAll
      ([saveField "app.Main$Menu", saveField "app.Main.Menu"].flatMap (steps "MSG")) ⟨.empty, []⟩
    rw [← collectAll_eq_actAll, steps_saveField] at hrun
    simp only [takeAll, Step.outcome, Except.map, Contribution.outcome_of_gives hfirst, hinsert,
      Contribution.outcome_of_gives hsecond, htaken] at hrun
    obtain ⟨_, _, herror⟩ := hrun
    exact ⟨_, herror⟩

end Collection

namespace Key

open ResourceBundle.Collection (steps collectAll saveField)

/-- Text keys with ids that have no dot are equal only for the same class, use and id. So if a collection
of elements finds a place taken by an earlier contribution, and both are translations of texts with such
ids, then the texts belong to the same class and have the same use and the same id. -/
theorem ofText_readable :
    (∀ (c d : String) (u v : TextUse) (i j : String), '.' ∉ i.toList → '.' ∉ j.toList →
      (ofText c u i = ofText d v j ↔ dotted c = dotted d ∧ u = v ∧ i = j)) ∧
    ∀ (messagePrefix : String) (elements : List Element) (events : List Event)
      (key mark className : String) (t : Session Store),
      (collectAll messagePrefix elements).run ⟨.empty, events⟩ =
        .error (.duplicateKey key mark className) t →
      ∃ before element c after other d,
        elements.flatMap (steps messagePrefix) = before ++ .add element c :: after ∧
        .add other d ∈ before ∧ c.Clashes d ∧ key = c.key ∧
        ∀ own earlier : DerivedKey, element.HasText own c → other.HasText earlier d →
          '.' ∉ own.id.toList → '.' ∉ earlier.id.toList →
          dotted element.enclosingType = dotted other.enclosingType ∧ own.use = earlier.use ∧
            own.id = earlier.id := by
  constructor
  · intro c d u v i j hi hj
    constructor
    · exact ofText_inj hi hj
    · rintro ⟨hclass, rfl, rfl⟩
      exact ofText_congr hclass u i
  · intro messagePrefix elements events key mark className t h
    obtain ⟨before, element, c, after, other, d, hsplit, hbefore, hclash, hkey⟩ :=
      Collection.clashes_of_run_collectAll h
    refine ⟨before, element, c, after, other, d, hsplit, hbefore, hclash, hkey, ?_⟩
    intro own earlier hown hearlier hi hj
    apply ofText_inj hi hj
    rw [← hown.key_eq, ← hearlier.key_eq]
    exact hclash.key_eq

theorem ofText_readable_save : '.' ∉ "Save".toList ∧
    ofText "app.Main$Menu" .caption "Save" = ofText "app.Main.Menu" .caption "Save" ∧
    ∃ t, (collectAll "MSG" [saveField "app.Main$Menu", saveField "app.Main.Menu"]).run ⟨.empty, []⟩ =
        .error (.duplicateKey "app.Main.Menu.CAPTION_Save" "@Text" "app.Main.Menu") t ∧
      ∃ before element c after other d,
        [saveField "app.Main$Menu", saveField "app.Main.Menu"].flatMap (steps "MSG") =
          before ++ .add element c :: after ∧ .add other d ∈ before ∧ c.Clashes d := by
  have hdot : '.' ∉ "Save".toList := by decide
  obtain ⟨t, hrun⟩ := Collection.run_collectAll_saveField
  obtain ⟨before, element, c, after, other, d, hsplit, hbefore, hclash, _⟩ :=
    ofText_readable.2 _ _ _ _ _ _ _ hrun
  refine ⟨hdot, ?_, t, hrun, before, element, c, after, other, d, hsplit, hbefore, hclash⟩
  exact (ofText_readable.1 _ _ _ _ _ _ hdot hdot).mpr ⟨by decide, rfl, rfl⟩

end Key

end ResourceBundle
