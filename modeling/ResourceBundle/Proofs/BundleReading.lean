import ResourceBundle.Proofs.BundleLines
import ResourceBundle.Proofs.Recording
import ResourceBundle.Proofs.StoreViews
import ResourceBundle.Sink.Memory

/-! # Reading a bundle back

A reader that knows lines, comments and the first equals sign of a line finds the entries of a bundle
again, in order: neither a description nor a text adds, hides or changes an entry, and no value goes
through the replacement character. -/

namespace ResourceBundle.Bundle

/-- Whether a line defines an entry: it is neither empty nor a comment. -/
def isDefinitionLine (line : List Char) : Bool := !line.isEmpty && line.head? != some '#'

/-- The key and the value that the first equals sign of a line separates. -/
def cutLine? : List Char → Option (List Char × List Char)
  | [] => none
  | c :: rest =>
    if c = '=' then some ([], rest)
    else (cutLine? rest).map fun (key, value) => (c :: key, value)

/-- The keys and values of the bytes of a bundle, in order; a line that is no comment must have an
equals sign. -/
def read? (bytes : List UInt8) : Option (List (List Char × List Char)) :=
  ((Text.pieces '\n' (decode bytes)).filter isDefinitionLine).mapM cutLine?

/-- The key of an entry and its text, which is escaped if a character is outside of ISO-8859-1. -/
def keyAndValue (entry : Entry) : List Char × List Char :=
  (entry.key.toList,
    if entry.text.toList.all fun c => decide (c.toNat ≤ 0xFF) then entry.text.toList
    else escape entry.text.toList)

/-- Whether a key is in ISO-8859-1, is no comment, and ends before its equals sign. -/
structure IsReadableKey (key : String) : Prop where
  latin : ∀ c ∈ key.toList, c.toNat ≤ 0xFF
  single_line : '\n' ∉ key.toList
  no_equals : '=' ∉ key.toList
  no_comment : key.toList.head? ≠ some '#'

theorem cutLine?_append {key : List Char} (h : '=' ∉ key) (value : List Char) :
    cutLine? (key ++ '=' :: value) = some (key, value) := by
  induction key with
  | nil => rfl
  | cons c key ih =>
    obtain ⟨hc, hkey⟩ := not_or.mp (mt List.mem_cons.mpr h)
    rw [List.cons_append, cutLine?, if_neg (Ne.symm hc), ih hkey]
    rfl

theorem canEncode_iff {cs : List Char} : canEncode cs = true ↔ ∀ c ∈ cs, c.toNat ≤ 0xFF := by
  simp only [canEncode, List.all_eq_true, isLatin_iff, Nat.le_iff_lt_add_one]

theorem keyAndValue_eq (entry : Entry) :
    keyAndValue entry = (entry.key.toList, value entry.text.toList) := by
  have hlatin : (entry.text.toList.all fun c => decide (c.toNat ≤ 0xFF)) =
      canEncode entry.text.toList := by
    rw [Bool.eq_iff_iff, canEncode_iff]
    simp only [List.all_eq_true, decide_eq_true_eq]
  rw [keyAndValue, value, hlatin]

theorem canEncode_definition {entry : Entry} (h : IsReadableKey entry.key) :
    canEncode (definition entry) = true := by
  have hkey := canEncode_iff.mpr h.latin
  have hvalue := canEncode_value entry.text.toList
  simp only [canEncode] at hkey hvalue ⊢
  rw [definition, List.all_append, List.all_cons, hkey, hvalue]
  rfl

theorem isDefinitionLine_definition {entry : Entry} (h : IsReadableKey entry.key) :
    isDefinitionLine (definition entry) = true := by
  have hne : entry.key.toList ≠ [] := fun hnil => entry.key_ne_empty (String.toList_eq_nil_iff.mp hnil)
  obtain ⟨c, rest, hkey⟩ := List.exists_cons_of_ne_nil hne
  have hc : c ≠ '#' := by
    have := h.no_comment
    rw [hkey] at this
    simpa using this
  simp [isDefinitionLine, definition, hkey, hc]

/-- A line that begins with a number sign does so when it is read back. -/
theorem isDefinitionLine_map_comment {line : List Char} (h : line.head? = some '#') :
    isDefinitionLine (line.map shown) = false := by
  obtain ⟨rest, rfl⟩ := List.head?_eq_some_iff.mp h
  rfl

theorem filter_entryLines {entry : Entry} (h : IsReadableKey entry.key) :
    ((entryLines entry).map (·.map shown)).filter isDefinitionLine = [definition entry] := by
  have hcomments : ((commentLines entry).map (·.map shown)).filter isDefinitionLine = [] := by
    apply List.filter_eq_nil_iff.mpr
    intro line hline
    obtain ⟨comment, hcomment, rfl⟩ := List.mem_map.mp hline
    rw [isDefinitionLine_map_comment (mem_commentLines hcomment)]
    decide
  rw [entryLines, List.map_append, List.filter_append, hcomments, List.nil_append, List.map_cons,
    map_shown_of_canEncode (canEncode_definition h), List.filter_cons_of_pos
      (isDefinitionLine_definition h)]
  rfl

theorem filter_flatMap_entryLines {entries : List Entry}
    (h : ∀ entry ∈ entries, IsReadableKey entry.key) :
    ((entries.flatMap entryLines).map (·.map shown)).filter isDefinitionLine =
      entries.map definition := by
  induction entries with
  | nil => rfl
  | cons entry entries ih =>
    obtain ⟨hentry, hentries⟩ := List.forall_mem_cons.mp h
    rw [List.flatMap_cons, List.map_append, List.filter_append, filter_entryLines hentry,
      ih hentries, List.map_cons, List.singleton_append]

/-- The payload of some entries is read back as their keys and values. -/
theorem read?_payload {entries : List Entry} (hkeys : ∀ entry ∈ entries, IsReadableKey entry.key)
    (hclasses : ∀ entry ∈ entries, '\n' ∉ entry.className.toList) :
    read? (payload entries) = some (entries.map keyAndValue) := by
  have hlines : (Text.pieces '\n' (decode (payload entries))).filter isDefinitionLine =
      entries.map definition := by
    rw [payload, decode_encode_eq_map,
      Text.pieces_map fun c => shown_eq_iff '\n' c (by decide) (by decide),
      pieces_render (fun entry h => (hkeys entry h).single_line) hclasses, List.map_append,
      List.map_cons, List.filter_append, List.filter_cons_of_neg, filter_flatMap_entryLines hkeys]
    · exact List.append_nil _
    · rw [isDefinitionLine_map_comment (by decide +kernel)]
      decide
  rw [read?, hlines]
  clear hlines hclasses
  induction entries with
  | nil => rfl
  | cons entry entries ih =>
    obtain ⟨hentry, hentries⟩ := List.forall_mem_cons.mp hkeys
    rw [List.map_cons, List.mapM_cons, definition, cutLine?_append hentry.no_equals, ih hentries,
      List.map_cons, keyAndValue_eq]
    rfl

/-- Every bundle that a generation writes is that of one of the locales of the store, and it is read
back as the entries of this locale, in strictly ascending order of their keys. -/
theorem read_written {σ ρ : Type} (configuration : Configuration) (sink : Sink σ ρ)
    (outputs : List Output) (store : Store) (elements : List Element) (s : Session σ)
    (hkeys : ∀ placed ∈ store.placed, IsReadableKey placed.entry.key)
    (hclasses : ∀ placed ∈ store.placed, '\n' ∉ placed.entry.className.toList) :
    (∀ locale,
      (store.entriesFor locale).Perm
          ((store.placed.filter (·.locale == locale)).map (·.entry)) ∧
        (store.entriesFor locale).Pairwise (fun a b => a.key < b.key) ∧
        read? (payload (store.entriesFor locale)) =
          some ((store.entriesFor locale).map keyAndValue)) ∧
      ∀ task ∈ Generation.written configuration sink outputs store elements s,
        ∃ locale ∈ store.locales,
          task.path = path configuration.baseName locale configuration.defaultLocale ∧
          task.bytes = payload (store.entriesFor locale) := by
  constructor
  · intro locale
    refine ⟨Store.entriesFor_perm store locale, Store.ascending_entriesFor store locale, ?_⟩
    apply read?_payload
    · exact fun entry h => hkeys _ (Store.mem_entriesFor.mp h)
    · exact fun entry h => hclasses _ (Store.mem_entriesFor.mp h)
  · intro task htask
    have hmem := (Generation.written_prefix_tasks configuration sink outputs store elements s).subset
      htask
    obtain ⟨locale, hlocale, hmem⟩ := List.mem_flatMap.mp hmem
    obtain ⟨output, _, rfl⟩ := List.mem_map.mp hmem
    exact ⟨locale, hlocale, rfl, rfl⟩

/-- An entry whose description looks like an entry, and whose text has a number sign, an equals sign
and a character outside of ISO-8859-1. -/
def totalEntry : Entry :=
  ⟨"app.TXT_total", false, "de", "total\nfake=1", "#1 = 5 €", "app", by decide, by decide⟩

def closeEntry : Entry := ⟨"app.TXT_close", false, "de", "", "Schließen", "", by decide, by decide⟩

def germanStore : Store := ⟨[⟨"de", totalEntry⟩, ⟨"de", closeEntry⟩], by decide⟩

theorem read_written_german :
    (∀ placed ∈ germanStore.placed, IsReadableKey placed.entry.key) ∧
      (∀ placed ∈ germanStore.placed, '\n' ∉ placed.entry.className.toList) ∧
      read? (payload (germanStore.entriesFor "de")) =
        some [("app.TXT_close".toList, "Schließen".toList),
          ("app.TXT_total".toList, "#1 = 5 \\u20AC".toList)] := by
  have hlatin : ∀ placed ∈ germanStore.placed, placed.entry.key.toList.all isLatin = true := by
    decide +kernel
  have hkeys : ∀ placed ∈ germanStore.placed, IsReadableKey placed.entry.key := by
    intro placed h
    have hbound : ∀ c ∈ placed.entry.key.toList, c.toNat ≤ 0xFF := fun c hc =>
      Nat.le_of_lt_succ (isLatin_iff.mp (List.all_eq_true.mp (hlatin placed h) c hc))
    simp only [germanStore, List.mem_cons, List.not_mem_nil, or_false] at h
    rcases h with rfl | rfl
    · exact ⟨hbound, by decide +kernel, by decide +kernel, by decide +kernel⟩
    · exact ⟨hbound, by decide +kernel, by decide +kernel, by decide +kernel⟩
  have hclasses : ∀ placed ∈ germanStore.placed, '\n' ∉ placed.entry.className.toList := by
    decide +kernel
  obtain ⟨hperm, hascending, hread⟩ := (read_written .default (Memory.sink []) Output.all germanStore
    [] ⟨Memory.Written.empty, []⟩ hkeys hclasses).1 "de"
  have hentries : germanStore.entriesFor "de" = [closeEntry, totalEntry] := by
    apply Store.eq_of_perm_of_ascending (hperm.trans _) hascending
    · decide +kernel
    · decide +kernel
  refine ⟨hkeys, hclasses, hread.trans ?_⟩
  rw [hentries]
  decide +kernel

end ResourceBundle.Bundle
