import ResourceBundle.Manifest.Writer
import ResourceBundle.Proofs.JsonRereading
import ResourceBundle.Proofs.ManifestParts

/-! # Reading a written manifest back

A round is read back from its manifest if its elements meet what manifests demand of them and no integer
constant has more digits than a reader takes. This is what every round that was read meets: a truth value
or a decimal that was taken for an integer is small, and an integer was within the limits when it was
read. So a round that was read once is read again from what is written of it. -/

namespace ResourceBundle

/-- What is demanded of the elements in a manifest. -/
structure Element.Promised (element : Element) : Prop where
  kind : ∀ name, element.kind ≠ .other name
  name : element.name ≠ ""
  enclosingType : element.enclosingType ≠ ""

theorem ElementKind.ne_other_of_ofText? {s : String} {kind : ElementKind}
    (h : ofText? s = some kind) : ∀ name, kind ≠ .other name := by
  have hmem := List.mem_of_find?_eq_some h
  intro name hname
  rw [hname] at hmem
  simp at hmem

/-- What an element needs to be read back. -/
structure Element.Writable (element : Element) : Prop extends element.Promised where
  constant : ∀ n, element.constant = some (.number n) → (JsonNumber.int n).Fits Manifest.limits

/-- Whether a round is read back from its manifest. -/
def Round.IsWritable (round : Round) : Prop := ∀ e ∈ round.elements, e.Writable

theorem ElementKind.ofText?_text {kind : ElementKind} (h : ∀ name, kind ≠ .other name) :
    ofText? kind.text = some kind := by
  cases kind with
  | method | field | enumConstant => decide
  | other name => exact absurd rfl (h name)

namespace Manifest

section Shape

/-! The forms are nested seven deep, and the names in each record are different. -/

variable {depth : Nat}

theorem fits_ofOption {α : Type} {write : α → Json} {o : Option α}
    (h : ∀ a, o = some a → Json.Fits limits depth (write a)) :
    Json.Fits limits depth (ofOption write o) := by
  cases o with
  | none => exact .null
  | some a => exact h a rfl

theorem fits_map {α : Type} {write : α → Json} {as : List α}
    (h : ∀ a ∈ as, Json.Fits limits depth (write a)) :
    Json.Fits limits (depth + 1) (.array (as.map write)) := .array (List.forall_mem_map.mpr h)

theorem fits_ofTranslation (t : Translation) : Json.Fits limits (depth + 1) (ofTranslation t) := by
  apply Json.Fits.object
  · simp
  · simp [Json.Fits.string]

theorem fits_ofTranslations (ts : List Translation) :
    Json.Fits limits (depth + 2) (ofTranslations ts) := fits_map fun t _ => fits_ofTranslation t

theorem fits_ofTextNote (note : TextNote) : Json.Fits limits (depth + 3) (ofTextNote note) := by
  apply Json.Fits.object
  · simp
  · simp [Json.Fits.string, fits_ofTranslations]

theorem fits_ofMessageNote (note : MessageNote) :
    Json.Fits limits (depth + 3) (ofMessageNote note) := by
  apply Json.Fits.object
  · simp
  · simp [Json.Fits.string, fits_ofTranslations]

theorem fits_ofConstant {e : Element} (h : e.Writable) :
    Json.Fits limits depth (ofOption ofConstant e.constant) := by
  apply fits_ofOption
  intro c hc
  cases c with
  | number n => exact .number (h.constant n hc)
  | text s => exact .string s

theorem fits_ofElement {e : Element} (h : e.Writable) :
    Json.Fits limits (depth + 5) (ofElement e) := by
  have hmessage : Json.Fits limits (depth + 4) (ofOption ofMessageNote e.message) :=
    fits_ofOption fun note _ => fits_ofMessageNote note
  have htexts : Json.Fits limits (depth + 4) (.array (e.texts.map ofTextNote)) :=
    fits_map fun note _ => fits_ofTextNote note
  apply Json.Fits.object
  · simp
  · simp [Json.Fits.string, fits_ofConstant h, hmessage, htexts]

theorem fits_ofValueMarker (marker : ValueMarker) :
    Json.Fits limits (depth + 1) (ofValueMarker marker) := by
  have hlanguage : Json.Fits limits depth (ofOption .string marker.defaultLanguage) :=
    fits_ofOption fun s _ => .string s
  apply Json.Fits.object
  · simp
  · simp [Json.Fits.string, hlanguage]

theorem fits_ofTextsMarker (marker : TextsMarker) :
    Json.Fits limits (depth + 1) (ofTextsMarker marker) := by
  apply Json.Fits.object
  · simp
  · simp [Json.Fits.string]

theorem fits_ofRound {r : Round} (h : r.IsWritable) : Json.Fits limits (depth + 7) (ofRound r) := by
  have helements : Json.Fits limits (depth + 6) (.array (r.elements.map ofElement)) :=
    fits_map fun e he => fits_ofElement (h e he)
  have hmarkers (markers : List ValueMarker) :
      Json.Fits limits (depth + 6) (.array (markers.map ofValueMarker)) :=
    fits_map fun marker _ => fits_ofValueMarker marker
  have htexts : Json.Fits limits (depth + 6) (.array (r.useAdditionalTexts.map ofTextsMarker)) :=
    fits_map fun marker _ => fits_ofTextsMarker marker
  apply Json.Fits.object
  · simp
  · simp [Json.Fits.bool, helements, hmarkers, htexts]

end Shape

section Parts

variable {α : Type} {read : Json → Checked α} {write : α → Json}

theorem listOf_map {as : List α} (h : ∀ a ∈ as, read (write a) = .ok a) :
    listOf read (.array (as.map write)) = .ok as := by
  refine listOf_eq_ok_iff.mpr ⟨_, rfl, ?_⟩
  rw [List.map_map]
  exact List.map_congr_left h

theorem nullable_ofOption (hnull : ∀ a, write a ≠ .null) (h : ∀ a, read (write a) = .ok a)
    (o : Option α) : nullable read (ofOption write o) = .ok o := by
  apply nullable_eq_ok_iff.mpr
  cases o with
  | none => exact .inl ⟨rfl, rfl⟩
  | some a => exact .inr ⟨hnull a, a, h a, rfl⟩

theorem ofConstant_ne_null (c : Constant) : ofConstant c ≠ .null := by
  cases c <;> exact nofun

theorem constant_ofConstant (c : Constant) : constant (ofConstant c) = .ok c := by
  cases c <;> rfl

theorem named_text (use : TextUse) : named TextUse.ofText? (.string use.text) = .ok use :=
  named_eq_ok_iff.mpr ⟨_, rfl, use.ofText?_text⟩

end Parts

/-! Each record is read back member by member. -/

theorem translation_ofTranslation (t : Translation) : translation (ofTranslation t) = .ok t := by
  refine translation_eq_ok_iff.mpr ⟨_, rfl, ?_, ?_⟩
  · simp [required_eq_ok_iff, Json.member?_cons, string_eq_ok_iff]
  · simp [required_eq_ok_iff, Json.member?_cons, string_eq_ok_iff]

theorem translations_ofTranslations {members : List (String × Json)} {ts : List Translation}
    (h : Json.member? members "translations" = some (ofTranslations ts)) :
    translations members = .ok ts :=
  optional_eq_ok_iff.mpr (.inr ⟨_, h, listOf_map fun t _ => translation_ofTranslation t⟩)

theorem textNote_ofTextNote (note : TextNote) : textNote (ofTextNote note) = .ok note := by
  refine textNote_eq_ok_iff.mpr ⟨_, rfl, ?_, ?_, ?_, translations_ofTranslations ?_⟩
  · simp [optional_eq_ok_iff, Json.member?_cons, string_eq_ok_iff]
  · simp [optional_eq_ok_iff, Json.member?_cons, string_eq_ok_iff]
  · simp [optional_eq_ok_iff, Json.member?_cons, named_text]
  · simp [Json.member?_cons]

theorem messageNote_ofMessageNote (note : MessageNote) :
    messageNote (ofMessageNote note) = .ok note := by
  refine messageNote_eq_ok_iff.mpr ⟨_, rfl, ?_, translations_ofTranslations ?_⟩
  · simp [optional_eq_ok_iff, Json.member?_cons, string_eq_ok_iff]
  · simp [Json.member?_cons]

theorem element_ofElement {e : Element} (h : e.Promised) : element (ofElement e) = .ok e := by
  have hkind : named ElementKind.ofText? (.string e.kind.text) = .ok e.kind :=
    named_eq_ok_iff.mpr ⟨_, rfl, ElementKind.ofText?_text h.kind⟩
  have hconstant : nullable constant (ofOption ofConstant e.constant) = .ok e.constant :=
    nullable_ofOption ofConstant_ne_null constant_ofConstant e.constant
  have hnote (note : MessageNote) : ofMessageNote note ≠ .null := nofun
  have hmessage : nullable messageNote (ofOption ofMessageNote e.message) = .ok e.message :=
    nullable_ofOption hnote messageNote_ofMessageNote e.message
  have htexts : listOf textNote (.array (e.texts.map ofTextNote)) = .ok e.texts :=
    listOf_map fun note _ => textNote_ofTextNote note
  refine element_eq_ok_iff.mpr ⟨_, rfl, ?_, ?_, ?_, ?_, ?_, ?_⟩
  · simp [required_eq_ok_iff, Json.member?_cons, hkind]
  · simp [required_eq_ok_iff, Json.member?_cons, nonemptyString_eq_ok_iff, h.name]
  · simp [required_eq_ok_iff, Json.member?_cons, nonemptyString_eq_ok_iff, h.enclosingType]
  · simp [optional_eq_ok_iff, Json.member?_cons, hconstant]
  · simp [optional_eq_ok_iff, Json.member?_cons, hmessage]
  · simp [optional_eq_ok_iff, Json.member?_cons, htexts]

theorem valueMarker_ofValueMarker (marker : ValueMarker) :
    valueMarker (ofValueMarker marker) = .ok marker := by
  have hnull (s : String) : Json.string s ≠ .null := nofun
  have hlanguage : nullable string (ofOption .string marker.defaultLanguage) =
      .ok marker.defaultLanguage := nullable_ofOption hnull (fun _ => rfl) marker.defaultLanguage
  refine valueMarker_eq_ok_iff.mpr ⟨_, rfl, ?_, ?_, ?_⟩
  · simp [required_eq_ok_iff, Json.member?_cons, string_eq_ok_iff]
  · simp [required_eq_ok_iff, Json.member?_cons, string_eq_ok_iff]
  · simp [optional_eq_ok_iff, Json.member?_cons, hlanguage]

theorem textsMarker_ofTextsMarker (marker : TextsMarker) :
    textsMarker (ofTextsMarker marker) = .ok marker := by
  refine textsMarker_eq_ok_iff.mpr ⟨_, rfl, ?_, ?_⟩
  · simp [required_eq_ok_iff, Json.member?_cons, string_eq_ok_iff]
  · simp [optional_eq_ok_iff, Json.member?_cons, string_eq_ok_iff]

theorem round_ofRound {r : Round} (h : ∀ e ∈ r.elements, e.Promised) : round (ofRound r) = .ok r := by
  have helements : listOf element (.array (r.elements.map ofElement)) = .ok r.elements :=
    listOf_map fun e he => element_ofElement (h e he)
  have hmarkers (markers : List ValueMarker) :
      listOf valueMarker (.array (markers.map ofValueMarker)) = .ok markers :=
    listOf_map fun marker _ => valueMarker_ofValueMarker marker
  have htexts : listOf textsMarker (.array (r.useAdditionalTexts.map ofTextsMarker)) =
      .ok r.useAdditionalTexts := listOf_map fun marker _ => textsMarker_ofTextsMarker marker
  refine round_eq_ok_iff.mpr ⟨_, rfl, ?_, ?_, ?_, ?_, ?_⟩
  · simp [optional_eq_ok_iff, Json.member?_cons, helements]
  · simp [optional_eq_ok_iff, Json.member?_cons, hmarkers]
  · simp [optional_eq_ok_iff, Json.member?_cons, hmarkers]
  · simp [optional_eq_ok_iff, Json.member?_cons, htexts]
  · simp [optional_eq_ok_iff, Json.member?_cons, bool]

/-- Whether a text holds the form of a round, however it is spaced and its strings are escaped. -/
def IsDump (text : List Char) (r : Round) : Prop := Json.read? limits text = some (ofRound r)

theorem isDump_writeRound {r : Round} (h : r.IsWritable) : IsDump (writeRound r) r := by
  have hfits : Json.Fits limits (193 + 7) (ofRound r) := fits_ofRound h
  exact Json.read?_write hfits

theorem IsDump.readRound_eq {text : List Char} {r : Round} (hdump : IsDump text r)
    (h : r.IsWritable) : readRound text = .ok r :=
  readRound_eq_ok_iff.mpr ⟨_, hdump, round_ofRound fun e he => (h e he).toPromised⟩

section Constants

variable {depth : Nat}

theorem fits_of_natAbs_lt {n : Int} (h : n.natAbs < 10 ^ 19) : (JsonNumber.int n).Fits limits := by
  have hlength := Text.length_natDigits_le (by decide : 0 < 19) h
  exact Nat.le_trans hlength (by decide : 19 ≤ limits.digits)

theorem fits_of_intOfDecimal {negative : Bool} {mantissa : Nat} {exponent n : Int}
    (h : intOfDecimal negative mantissa exponent = .ok n) : (JsonNumber.int n).Fits limits := by
  unfold intOfDecimal at h
  split at h
  · cases h
  · cases h
  · split at h
    · rename_i hword
      cases h
      simp only [inWord, Bool.and_eq_true, decide_eq_true_eq] at hword
      unfold wordBound at hword
      exact fits_of_natAbs_lt (by omega)
    · cases h

/-- An integer that is read is small, unless it was written as one. -/
theorem fits_of_int {value : Json} {n : Int} (hfits : Json.Fits limits depth value)
    (h : int value = .ok n) : (JsonNumber.int n).Fits limits := by
  cases hfits with
  | bool b =>
    cases h
    cases b <;> exact fits_of_natAbs_lt (by decide)
  | @number _ m hm =>
    cases m with
    | int m =>
      cases h
      exact hm
    | decimal negative mantissa exponent => exact fits_of_intOfDecimal h
    | infinite | undefined => cases h
  | null | string | emptyArray | array | emptyObject | object => cases h

theorem fits_of_constant {value : Json} {n : Int} (hfits : Json.Fits limits depth value)
    (h : nullable constant value = .ok (some (.number n))) : (JsonNumber.int n).Fits limits := by
  rcases nullable_eq_ok_iff.mp h with ⟨-, hnone⟩ | ⟨-, c, hc, hsome⟩
  · cases hnone
  · cases hsome
    rcases constant_eq_ok_iff.mp hc with ⟨_, -, htext⟩ | ⟨_, hn, hnumber⟩
    · cases htext
    · cases hnumber
      exact fits_of_int hfits hn

theorem exists_fits_of_member? {members : List (String × Json)} {name : String} {value : Json}
    (hfits : Json.Fits limits depth (.object members))
    (h : Json.member? members name = some value) : ∃ depth, Json.Fits limits depth value := by
  cases hfits with
  | emptyObject => cases h
  | @object depth _ _ hmembers => exact ⟨depth, hmembers _ (Json.mem_of_member? h)⟩

theorem exists_fits_of_mem {items : List Json} {item : Json}
    (hfits : Json.Fits limits depth (.array items)) (h : item ∈ items) :
    ∃ depth, Json.Fits limits depth item := by
  cases hfits with
  | emptyArray => cases h
  | @array depth _ hitems => exact ⟨depth, hitems item h⟩

theorem promised_of_element {value : Json} {e : Element} (h : element value = .ok e) :
    e.Promised := by
  obtain ⟨members, -, hkind, hname, htype, -⟩ := element_eq_ok_iff.mp h
  obtain ⟨_, -, hkind⟩ := required_eq_ok_iff.mp hkind
  obtain ⟨_, -, hname⟩ := required_eq_ok_iff.mp hname
  obtain ⟨_, -, htype⟩ := required_eq_ok_iff.mp htype
  obtain ⟨_, -, hkind⟩ := named_eq_ok_iff.mp hkind
  exact ⟨ElementKind.ne_other_of_ofText? hkind, (nonemptyString_eq_ok_iff.mp hname).2,
    (nonemptyString_eq_ok_iff.mp htype).2⟩

theorem writable_of_element {value : Json} {e : Element} (hfits : Json.Fits limits depth value)
    (h : element value = .ok e) : e.Writable := by
  refine ⟨promised_of_element h, fun n hn => ?_⟩
  obtain ⟨members, rfl, -, -, -, hconstant, -⟩ := element_eq_ok_iff.mp h
  rw [hn] at hconstant
  rcases optional_eq_ok_iff.mp hconstant with ⟨-, hnone⟩ | ⟨value, hvalue, hread⟩
  · cases hnone
  · obtain ⟨_, hfits⟩ := exists_fits_of_member? hfits hvalue
    exact fits_of_constant hfits hread

end Constants

/-- A round that was read can be written. -/
theorem isWritable_of_readRound {text : List Char} {r : Round} (h : readRound text = .ok r) :
    r.IsWritable := by
  obtain ⟨value, hvalue, hround⟩ := readRound_eq_ok_iff.mp h
  intro e he
  obtain ⟨members, items, rfl, hitems, item, hitem, hread⟩ := exists_item_of_mem_elements hround he
  obtain ⟨_, hfits⟩ := exists_fits_of_member? (Json.fits_of_read? hvalue) hitems
  obtain ⟨_, hfits⟩ := exists_fits_of_mem hfits hitem
  exact writable_of_element hfits hread

/-- What is written of a round that was read is a dump of this round, and each of its dumps is read as this
round again, with the same marks and the same names of its elements. -/
theorem readRound_dump {text : List Char} {r : Round} (h : readRound text = .ok r) :
    IsDump (writeRound r) r ∧ ∀ dump, IsDump dump r →
      ∃ again, readRound dump = .ok again ∧ again = r ∧ again.markNames = r.markNames ∧
        again.elements.map (·.qualifiedName) = r.elements.map (·.qualifiedName) := by
  have hwritable := isWritable_of_readRound h
  exact ⟨isDump_writeRound hwritable,
    fun dump hdump => ⟨r, hdump.readRound_eq hwritable, rfl, rfl, rfl⟩⟩

def switchManifest : List Char :=
  "\x7b\"elements\": [\x7b\"kind\": \"field\", \"name\": \"ON\", ".toList ++
    "\"enclosing_type\": \"Form\", \"constant_value\": true\x7d]\x7d".toList

def switchRound : Round :=
  ⟨[⟨.field, "ON", "Form", some (.number 1), none, []⟩], [], [], [], false⟩

theorem readRound_dump_switch : readRound switchManifest = .ok switchRound ∧
    readRound (writeRound switchRound) = .ok switchRound := by
  have h : readRound switchManifest = .ok switchRound := by decide +kernel
  obtain ⟨hwritten, hdump⟩ := readRound_dump h
  obtain ⟨again, hread, rfl, -, -⟩ := hdump _ hwritten
  exact ⟨h, hread⟩

end Manifest

end ResourceBundle
