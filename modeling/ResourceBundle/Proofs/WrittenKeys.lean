import ResourceBundle.Proofs.BundleLines
import ResourceBundle.Proofs.Recording
import ResourceBundle.Proofs.StoreViews

/-! # Keys in the written file

The keys of a locale are distinct, but the file is in ISO-8859-1: each character of a key that is outside
of it becomes a question mark. Two keys stay apart in the file exactly if they differ in more than that. -/

namespace ResourceBundle.Bundle

/-- Whether a character shows as a question mark in a file. -/
def ShowsAsMark (c : Char) : Prop := c = '?' ∨ 0xFF < c.toNat

/-- Whether two characters cannot be told apart in a file. -/
def Alike (c d : Char) : Prop := c = d ∨ ShowsAsMark c ∧ ShowsAsMark d

/-- Whether two keys cannot be told apart in a file: character by character they are alike. -/
def KeysAlike (a b : String) : Prop := List.Forall₂ Alike a.toList b.toList

def keyBytes (entry : Entry) : List UInt8 := encode entry.key.toList

/-- The bytes of an entry: its comments, its key, an equals sign, its value, and an empty line. -/
def entryBytes (entry : Entry) : List UInt8 :=
  encode (comments entry) ++ (keyBytes entry ++ 0x3D :: encode (value entry.text.toList)) ++ [0x0A, 0x0A]

theorem encode_append (cs ds : List Char) : encode (cs ++ ds) = encode cs ++ encode ds := List.map_append

/-- A bundle is written entry by entry. -/
theorem payload_eq_flatMap (entries : List Entry) :
    payload entries = encode header ++ entries.flatMap entryBytes := by
  rw [payload, render, encode_append]
  congr 1
  induction entries with
  | nil => rfl
  | cons entry entries ih =>
    rw [List.flatMap_cons, List.flatMap_cons, encode_append, ih, encode_append, encode_append]
    congr 1
    have hdefinition : encode (definition entry) =
        keyBytes entry ++ 0x3D :: encode (value entry.text.toList) := encode_append _ _
    rw [hdefinition]
    rfl

theorem encodeChar_of_showsAsMark {c : Char} (h : ShowsAsMark c) : encodeChar c = 0x3F := by
  rcases h with rfl | h
  · rfl
  · have hlatin : ¬ isLatin c = true := by
      rw [isLatin_iff]
      omega
    rw [encodeChar, if_neg hlatin]

theorem toNat_encodeChar {c : Char} (h : c.toNat < 0x100) : (encodeChar c).toNat = c.toNat := by
  rw [encodeChar, if_pos (isLatin_iff.mpr h), UInt8.toNat_ofNat', Nat.mod_eq_of_lt h]

/-- The byte of a character is that of a question mark exactly if the character shows as one. -/
theorem encodeChar_eq_mark_iff {c : Char} : encodeChar c = 0x3F ↔ ShowsAsMark c := by
  constructor
  · intro h
    by_cases hlatin : c.toNat < 0x100
    · left
      have hnat := toNat_encodeChar hlatin
      rw [h] at hnat
      exact Char.toNat_inj.mp hnat.symm
    · right
      omega
  · exact encodeChar_of_showsAsMark

/-- Characters have the same byte exactly if they are alike. -/
theorem encodeChar_eq_iff {c d : Char} : encodeChar c = encodeChar d ↔ Alike c d := by
  constructor
  · intro h
    by_cases hc : ShowsAsMark c
    · right
      exact ⟨hc, encodeChar_eq_mark_iff.mp (h ▸ encodeChar_of_showsAsMark hc)⟩
    · left
      have hd : ¬ ShowsAsMark d := by
        rw [← encodeChar_eq_mark_iff, ← h, encodeChar_eq_mark_iff]
        exact hc
      have hcode := congrArg UInt8.toNat h
      rw [toNat_encodeChar (Nat.lt_of_not_le fun hle => hc (.inr hle)),
        toNat_encodeChar (Nat.lt_of_not_le fun hle => hd (.inr hle))] at hcode
      exact Char.toNat_inj.mp hcode
  · rintro (rfl | ⟨hc, hd⟩)
    · rfl
    · rw [encodeChar_of_showsAsMark hc, encodeChar_of_showsAsMark hd]

/-- Texts have the same bytes exactly if they are alike, character by character. -/
theorem encode_eq_iff {cs ds : List Char} : encode cs = encode ds ↔ List.Forall₂ Alike cs ds := by
  induction cs generalizing ds with
  | nil => cases ds <;> simp [encode]
  | cons c cs ih =>
    cases ds with
    | nil => simp [encode]
    | cons d ds =>
      rw [List.forall₂_cons, ← encodeChar_eq_iff, ← ih]
      exact List.cons_eq_cons

/-- Texts in ISO-8859-1 are alike only if they are equal. -/
theorem eq_of_forall₂_alike {cs ds : List Char} (hcs : canEncode cs = true) (hds : canEncode ds = true)
    (h : List.Forall₂ Alike cs ds) : cs = ds := by
  rw [← decode_encode hcs, ← decode_encode hds, encode_eq_iff.mpr h]

theorem nodup_keyBytes_iff (entries : List Entry) :
    (entries.map keyBytes).Nodup ↔ entries.Pairwise fun a b => ¬ KeysAlike a.key b.key := by
  rw [List.Nodup, List.pairwise_map]
  simp only [keyBytes, ne_eq, encode_eq_iff, KeysAlike]

theorem nodup_keyBytes_of_canEncode {entries : List Entry}
    (hkeys : entries.Pairwise fun a b => a.key < b.key)
    (hlatin : ∀ entry ∈ entries, canEncode entry.key.toList = true) :
    (entries.map keyBytes).Nodup := by
  rw [nodup_keyBytes_iff]
  apply hkeys.imp_of_mem
  intro a b ha hb hlt halike
  have heq := eq_of_forall₂_alike (hlatin a ha) (hlatin b hb) halike
  rw [String.toList_inj.mp heq] at hlt
  exact lt_irrefl _ hlt

/-- The bundle of a locale holds the bytes of its entries one after the other, each with its key before
an equals sign. All its keys are different exactly if no two of them are alike, and this is so if they are
all in ISO-8859-1. A generation writes only such bundles. -/
theorem written_keys_apart {σ ρ : Type} (configuration : Configuration) (sink : Sink σ ρ)
    (outputs : List Output) (store : Store) (elements : List Element) (s : Session σ) :
    (∀ locale,
      payload (store.entriesFor locale) =
          encode header ++ (store.entriesFor locale).flatMap entryBytes ∧
        (((store.entriesFor locale).map keyBytes).Nodup ↔
          (store.entriesFor locale).Pairwise fun a b => ¬ KeysAlike a.key b.key) ∧
        ((∀ entry ∈ store.entriesFor locale, canEncode entry.key.toList = true) →
          ((store.entriesFor locale).map keyBytes).Nodup)) ∧
      ∀ task ∈ Generation.written configuration sink outputs store elements s,
        ∃ locale ∈ store.locales,
          task.path = path configuration.baseName locale configuration.defaultLocale ∧
          task.bytes = payload (store.entriesFor locale) := by
  refine ⟨fun locale => ⟨payload_eq_flatMap _, nodup_keyBytes_iff _, ?_⟩, fun task htask => ?_⟩
  · exact nodup_keyBytes_of_canEncode (Store.ascending_entriesFor store locale)
  · obtain ⟨locale, hlocale, hpath, hbytes, _⟩ := Generation.locale_of_mem_written htask
    exact ⟨locale, hlocale, hpath, hbytes⟩

/-- An entry whose key has three Cyrillic letters at its end. -/
def forestEntry : Entry :=
  ⟨"app.Form.TXT_бор", false, "en", "", "Forest", "app.Form", by decide, by decide⟩

def houseEntry : Entry :=
  ⟨"app.Form.TXT_дом", false, "en", "", "House", "app.Form", by decide, by decide⟩

def cyrillicStore : Store := ⟨[⟨"en", forestEntry⟩, ⟨"en", houseEntry⟩], by decide⟩

/-- Keys that are different in the store are the same in the file. -/
theorem keyBytes_collide : forestEntry ∈ cyrillicStore.entriesFor "en" ∧
    houseEntry ∈ cyrillicStore.entriesFor "en" ∧ forestEntry.key ≠ houseEntry.key ∧
    keyBytes forestEntry = keyBytes houseEntry := by
  refine ⟨Store.mem_entriesFor.mpr ?_, Store.mem_entriesFor.mpr ?_, ?_, ?_⟩ <;> decide +kernel

end ResourceBundle.Bundle
