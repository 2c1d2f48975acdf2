import ResourceBundle.Manifest.Reader

/-! # When a part of a manifest is read

For each way to read a part, the values from which it gives a result, and this result. A record is read
exactly if all its parts are, so its law lists what is asked of its members. Each law serves in both
directions: it says what a manifest that was read must have held, and what is enough for one to be read. -/

namespace ResourceBundle

namespace Json

variable {members : List (String × Json)} {name : String} {value : Json}

theorem member?_cons (other : String) : member? ((other, value) :: members) name =
    if name = other then some value else member? members name := by
  by_cases h : name = other
  · simp [member?, h]
  · simp [member?, List.lookup_cons, h, beq_eq_false_iff_ne.mpr h]

theorem mem_of_member? (h : member? members name = some value) : (name, value) ∈ members := by
  obtain ⟨before, after, heq, -⟩ := List.lookup_eq_some_iff.mp h
  simp [heq]

end Json

namespace Checked

variable {α β : Type}

theorem under_eq_ok_iff {step : Step} {x : Checked α} {a : α} : x.under step = .ok a ↔ x = .ok a := by
  cases x with
  | ok b => rfl
  | error faults => exact ⟨nofun, nofun⟩

theorem both_eq_ok_iff {x : Checked α} {y : Checked β} {p : α × β} :
    x.both y = .ok p ↔ x = .ok p.1 ∧ y = .ok p.2 := by
  obtain ⟨a, b⟩ := p
  cases x <;> cases y <;> simp [both]

theorem map_eq_ok_iff {x : Checked α} {f : α → β} {b : β} :
    x.map f = .ok b ↔ ∃ a, x = .ok a ∧ f a = b := by
  cases x <;> simp [Except.map]

theorem list_eq_ok_iff {items : List (Checked α)} {as : List α} :
    list items = .ok as ↔ items = as.map .ok := by
  induction items generalizing as with
  | nil => cases as <;> simp [list]
  | cons item items ih =>
    rw [list, map_eq_ok_iff]
    simp only [both_eq_ok_iff, ih, Prod.exists]
    constructor
    · rintro ⟨first, rest, ⟨rfl, rfl⟩, rfl⟩
      rfl
    · intro h
      obtain ⟨first, rest, rfl, hfirst, hrest⟩ := List.map_eq_cons_iff.mp h.symm
      exact ⟨first, rest, ⟨hfirst.symm, hrest.symm⟩, rfl⟩

end Checked

namespace Manifest

variable {α : Type}

theorem record_eq_ok_iff {read : List (String × Json) → Checked α} {value : Json} {a : α} :
    record read value = .ok a ↔ ∃ members, value = .object members ∧ read members = .ok a := by
  cases value <;> simp [record, Checked.fault]

theorem required_eq_ok_iff {name : String} {read : Json → Checked α} {members : List (String × Json)}
    {a : α} : required name read members = .ok a ↔
      ∃ value, Json.member? members name = some value ∧ read value = .ok a := by
  rw [required, Checked.under_eq_ok_iff]
  cases Json.member? members name <;> simp [Checked.fault]

theorem optional_eq_ok_iff {name : String} {read : Json → Checked α} {default : α}
    {members : List (String × Json)} {a : α} : optional name read default members = .ok a ↔
      (Json.member? members name = none ∧ default = a) ∨
        ∃ value, Json.member? members name = some value ∧ read value = .ok a := by
  unfold optional
  cases Json.member? members name with
  | none => simp
  | some value => simp [Checked.under_eq_ok_iff]

theorem listOf_eq_ok_iff {read : Json → Checked α} {value : Json} {as : List α} :
    listOf read value = .ok as ↔ ∃ items, value = .array items ∧ items.map read = as.map .ok := by
  cases value with
  | array items =>
    simp only [listOf, Checked.list_eq_ok_iff, Json.array.injEq, exists_eq_left']
    simp [List.ext_getElem_iff, Checked.under_eq_ok_iff]
  | null | bool | number | string | object => simp [listOf, Checked.fault]

theorem nullable_eq_ok_iff {read : Json → Checked α} {value : Json} {o : Option α} :
    nullable read value = .ok o ↔
      (value = .null ∧ none = o) ∨ (value ≠ .null ∧ ∃ a, read value = .ok a ∧ some a = o) := by
  cases value <;> simp [nullable, Checked.map_eq_ok_iff]

theorem string_eq_ok_iff {value : Json} {s : String} : string value = .ok s ↔ value = .string s := by
  cases value <;> simp [string, Checked.fault]

theorem nonemptyString_eq_ok_iff {value : Json} {s : String} :
    nonemptyString value = .ok s ↔ value = .string s ∧ s ≠ "" := by
  rw [← string_eq_ok_iff, nonemptyString]
  cases string value with
  | error faults => exact ⟨nofun, nofun⟩
  | ok text =>
    change (if text = "" then Checked.fault .stringTooShort else .ok text) = .ok s ↔ _
    by_cases h : text = ""
    · simp [h, Checked.fault, eq_comm]
    · have hs : text = s → s ≠ "" := fun heq => heq ▸ h
      simpa [h] using hs

theorem named_eq_ok_iff {ofText? : String → Option α} {value : Json} {a : α} :
    named ofText? value = .ok a ↔ ∃ s, value = .string s ∧ ofText? s = some a := by
  cases value with
  | string s =>
    rw [named]
    cases h : ofText? s <;> simp [h, Checked.fault]
  | null | bool | number | array | object => simp [named, Checked.fault]

theorem constant_eq_ok_iff {value : Json} {c : Constant} : constant value = .ok c ↔
    (∃ s, value = .string s ∧ c = .text s) ∨ ∃ n, int value = .ok n ∧ c = .number n := by
  cases value with
  | string s => simp [constant, int, eq_comm]
  | null | bool | number | array | object =>
    rw [constant]
    · cases int _ with
      | ok n => simp [eq_comm]
      | error kind => simp
    · exact nofun

/-- A record is read if all its parts are. -/
theorem record_map_eq_ok_iff {β : Type} {read : List (String × Json) → Checked β} {make : β → α}
    (parts : α → β) (hparts : ∀ b, parts (make b) = b) (hmake : ∀ a, make (parts a) = a)
    {value : Json} {a : α} : record (fun members => (read members).map make) value = .ok a ↔
      ∃ members, value = .object members ∧ read members = .ok (parts a) := by
  simp only [record_eq_ok_iff, Checked.map_eq_ok_iff]
  refine exists_congr fun members => and_congr_right fun _ => ⟨?_, fun h => ⟨_, h, hmake a⟩⟩
  rintro ⟨b, h, rfl⟩
  rw [hparts, h]

theorem translation_eq_ok_iff {value : Json} {t : Translation} : translation value = .ok t ↔
    ∃ members, value = .object members ∧ required "language" string members = .ok t.language ∧
      required "text" string members = .ok t.text := by
  refine (record_map_eq_ok_iff (fun t => (t.language, t.text)) (fun _ => rfl) (fun _ => rfl)).trans ?_
  simp only [Checked.both_eq_ok_iff]

theorem textNote_eq_ok_iff {value : Json} {note : TextNote} : textNote value = .ok note ↔
    ∃ members, value = .object members ∧
      optional "description" string "" members = .ok note.description ∧
      optional "id" string "" members = .ok note.id ∧
      optional "use" (named TextUse.ofText?) .unspecified members = .ok note.use ∧
      translations members = .ok note.translations := by
  refine (record_map_eq_ok_iff
    (fun note => (note.description, note.id, note.use, note.translations)) (fun _ => rfl)
    (fun _ => rfl)).trans ?_
  simp only [Checked.both_eq_ok_iff]

theorem messageNote_eq_ok_iff {value : Json} {note : MessageNote} : messageNote value = .ok note ↔
    ∃ members, value = .object members ∧
      optional "description" string "" members = .ok note.description ∧
      translations members = .ok note.translations := by
  refine (record_map_eq_ok_iff (fun note => (note.description, note.translations)) (fun _ => rfl)
    (fun _ => rfl)).trans ?_
  simp only [Checked.both_eq_ok_iff]

theorem element_eq_ok_iff {value : Json} {e : Element} : element value = .ok e ↔
    ∃ members, value = .object members ∧
      required "kind" (named ElementKind.ofText?) members = .ok e.kind ∧
      required "name" nonemptyString members = .ok e.name ∧
      required "enclosing_type" nonemptyString members = .ok e.enclosingType ∧
      optional "constant_value" (nullable constant) none members = .ok e.constant ∧
      optional "message" (nullable messageNote) none members = .ok e.message ∧
      optional "texts" (listOf textNote) [] members = .ok e.texts := by
  refine (record_map_eq_ok_iff
    (fun e => (e.kind, e.name, e.enclosingType, e.constant, e.message, e.texts)) (fun _ => rfl)
    (fun _ => rfl)).trans ?_
  simp only [Checked.both_eq_ok_iff]

theorem valueMarker_eq_ok_iff {value : Json} {marker : ValueMarker} :
    valueMarker value = .ok marker ↔ ∃ members, value = .object members ∧
      required "element" string members = .ok marker.element ∧
      required "value" string members = .ok marker.value ∧
      optional "default_language" (nullable string) none members = .ok marker.defaultLanguage := by
  refine (record_map_eq_ok_iff (fun marker => (marker.element, marker.value, marker.defaultLanguage))
    (fun _ => rfl) (fun _ => rfl)).trans ?_
  simp only [Checked.both_eq_ok_iff]

theorem textsMarker_eq_ok_iff {value : Json} {marker : TextsMarker} :
    textsMarker value = .ok marker ↔ ∃ members, value = .object members ∧
      required "element" string members = .ok marker.element ∧
      optional "location" string "" members = .ok marker.location := by
  refine (record_map_eq_ok_iff (fun marker => (marker.element, marker.location)) (fun _ => rfl)
    (fun _ => rfl)).trans ?_
  simp only [Checked.both_eq_ok_iff]

theorem round_eq_ok_iff {value : Json} {r : Round} : round value = .ok r ↔
    ∃ members, value = .object members ∧
      optional "elements" (listOf element) [] members = .ok r.elements ∧
      optional "message_prefix" (listOf valueMarker) [] members = .ok r.messagePrefix ∧
      optional "base_bundle_name" (listOf valueMarker) [] members = .ok r.baseBundleName ∧
      optional "use_additional_texts" (listOf textsMarker) [] members = .ok r.useAdditionalTexts ∧
      optional "error_raised" bool false members = .ok r.errorRaised := by
  refine (record_map_eq_ok_iff (fun r => (r.elements, r.messagePrefix, r.baseBundleName,
    r.useAdditionalTexts, r.errorRaised)) (fun _ => rfl) (fun _ => rfl)).trans ?_
  simp only [Checked.both_eq_ok_iff]

/-- The elements of a round are the items of one member. -/
theorem exists_item_of_mem_elements {value : Json} {r : Round} (h : round value = .ok r) {e : Element}
    (he : e ∈ r.elements) : ∃ members items, value = .object members ∧
      Json.member? members "elements" = some (.array items) ∧ ∃ item ∈ items, element item = .ok e := by
  obtain ⟨members, rfl, helements, -⟩ := round_eq_ok_iff.mp h
  rcases optional_eq_ok_iff.mp helements with ⟨-, hnone⟩ | ⟨value, hmember, hvalue⟩
  · rw [← hnone] at he
    cases he
  · obtain ⟨items, rfl, hitems⟩ := listOf_eq_ok_iff.mp hvalue
    obtain ⟨item, hitem, hread⟩ := List.mem_map.mp (hitems ▸ List.mem_map_of_mem he)
    exact ⟨members, items, rfl, hmember, item, hitem, hread⟩

theorem readRound_eq_ok_iff {text : List Char} {r : Round} :
    readRound text = .ok r ↔ ∃ value, Json.read? limits text = some value ∧ round value = .ok r := by
  unfold readRound readText
  cases Json.read? limits text <;> simp [Checked.fault]

end Manifest

end ResourceBundle
