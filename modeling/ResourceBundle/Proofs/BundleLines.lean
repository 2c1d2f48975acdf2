import ResourceBundle.Bundle
import ResourceBundle.Proofs.NormalControls

/-! # The lines of a bundle

A bundle is a sequence of lines, each ended by a line feed: the header, and for each entry its comments,
its definition and an empty line. Descriptions may hold line feeds, they are cut into comments there; no
other part does. -/

namespace ResourceBundle.Text

variable {separator : Char}

theorem pieces_append_cons {line : List Char} (h : separator ∉ line) (rest : List Char) :
    pieces separator (line ++ separator :: rest) = line :: pieces separator rest := by
  induction line with
  | nil => rw [List.nil_append, pieces, if_pos rfl]
  | cons c line ih =>
    obtain ⟨hc, hline⟩ := not_or.mp (mt List.mem_cons.mpr h)
    rw [List.cons_append, pieces, if_neg (Ne.symm hc), ih hline]

/-- Lines that are each ended by the separator are the pieces of the whole, before an empty one. -/
theorem pieces_flatMap {lines : List (List Char)} (h : ∀ line ∈ lines, separator ∉ line) :
    pieces separator (lines.flatMap (· ++ [separator])) = lines ++ [[]] := by
  induction lines with
  | nil => rfl
  | cons line lines ih =>
    obtain ⟨hline, hlines⟩ := List.forall_mem_cons.mp h
    rw [List.flatMap_cons, List.append_assoc, List.singleton_append, pieces_append_cons hline,
      ih hlines, List.cons_append]

/-- A change of characters that keeps the separators changes the pieces one by one. -/
theorem pieces_map {f : Char → Char} (h : ∀ c, f c = separator ↔ c = separator) (cs : List Char) :
    pieces separator (cs.map f) = (pieces separator cs).map (·.map f) := by
  induction cs with
  | nil => rfl
  | cons c cs ih =>
    rw [List.map_cons, pieces, pieces, ih]
    by_cases hc : c = separator
    · simp [hc, (h separator).mpr rfl]
    · rw [if_neg hc, if_neg (mt (h c).mp hc)]
      cases pieces separator cs <;> rfl

theorem mem_hex_bounds {width n : Nat} {d : Char} (h : d ∈ hex width n) :
    0x30 ≤ d.toNat ∧ d.toNat < 0x47 := by
  induction width generalizing n with
  | zero => simp [hex] at h
  | succ width ih =>
    rcases List.mem_append.mp h with h | h
    · exact ih h
    · have hdigit : ∀ m, m < 16 → 0x30 ≤ (hexDigit m).toNat ∧ (hexDigit m).toNat < 0x47 := by decide
      rw [List.mem_singleton] at h
      subst h
      exact hdigit _ (Nat.mod_lt n (by decide))

end ResourceBundle.Text

namespace ResourceBundle.Bundle

/-- The character that is read back for one that is written. -/
def shown (c : Char) : Char := if isLatin c then c else '?'

theorem decode_encode_eq_map (cs : List Char) : decode (encode cs) = cs.map shown := by
  induction cs with
  | nil => rfl
  | cons c cs ih =>
    simp only [encode, decode, List.map_cons, List.cons.injEq]
    refine ⟨?_, ih⟩
    by_cases hc : isLatin c = true
    · have hlt := isLatin_iff.mp hc
      rw [encodeChar, shown, if_pos hc, if_pos hc, UInt8.toNat_ofNat', Nat.mod_eq_of_lt (by omega),
        Char.ofNat_toNat]
    · rw [encodeChar, shown, if_neg hc, if_neg hc]
      rfl

theorem shown_eq_iff (mark c : Char) (hlatin : isLatin mark = true) (hmark : mark ≠ '?') :
    shown c = mark ↔ c = mark := by
  unfold shown
  split
  · rfl
  · rename_i hc
    constructor
    · exact fun h => absurd h.symm hmark
    · exact fun h => absurd (h ▸ hlatin) hc

theorem map_shown_of_canEncode {cs : List Char} (h : canEncode cs = true) : cs.map shown = cs := by
  rw [← decode_encode_eq_map, decode_encode h]

theorem mem_escapeUnit_bounds {n : Nat} {d : Char} (h : d ∈ escapeUnit n) :
    0x20 ≤ d.toNat ∧ d.toNat < 0x80 := by
  rcases List.mem_cons.mp h with rfl | h
  · decide
  · rcases List.mem_cons.mp h with rfl | h
    · decide
    · have := Text.mem_hex_bounds h
      omega

/-- A character is escaped in ASCII, and to control characters only if it is one. -/
theorem mem_escapeChar {c d : Char} (h : d ∈ escapeChar c) :
    d.toNat < 0x80 ∧ (d.toNat < 0x20 → d = c) := by
  unfold escapeChar at h
  simp only at h
  split at h
  · rw [List.mem_singleton] at h
    subst h
    exact ⟨by assumption, fun _ => rfl⟩
  · have hbounds : 0x20 ≤ d.toNat ∧ d.toNat < 0x80 := by
      split at h
      · exact mem_escapeUnit_bounds h
      · rcases List.mem_append.mp h with h | h <;> exact mem_escapeUnit_bounds h
    exact ⟨hbounds.2, fun hlt => absurd hlt (by omega)⟩

theorem mem_escape {d : Char} {cs : List Char} (h : d ∈ escape cs) :
    d.toNat < 0x80 ∧ (d.toNat < 0x20 → d ∈ cs) := by
  obtain ⟨c, hc, hd⟩ := List.mem_flatMap.mp h
  obtain ⟨hascii, hcontrol⟩ := mem_escapeChar hd
  refine ⟨hascii, fun hlt => ?_⟩
  have heq := hcontrol hlt
  exact Text.control_of_mem_nfkc (heq ▸ hc) hlt

/-- A value never needs the replacement character. -/
theorem canEncode_value (cs : List Char) : canEncode (value cs) = true := by
  unfold value
  split
  · assumption
  · apply List.all_eq_true.mpr
    intro d hd
    exact isLatin_iff.mpr (by have := (mem_escape hd).1; omega)

theorem not_mem_value {cs : List Char} (h : '\n' ∉ cs) : '\n' ∉ value cs := by
  unfold value
  split
  · exact h
  · exact fun hmem => h ((mem_escape hmem).2 (by decide))

def commentLines (entry : Entry) : List (List Char) :=
  (Text.pieces '\n' entry.description.toList).map (fun line => '#' :: ' ' :: line) ++
    if Text.isBlankText entry.className then []
    else ['#' :: ' ' :: ("Defined in: ".toList ++ entry.className.toList)]

def entryLines (entry : Entry) : List (List Char) := commentLines entry ++ [definition entry, []]

def headerLine : List Char := header.dropLast

theorem comments_eq_flatMap (entry : Entry) :
    comments entry = (commentLines entry).flatMap (· ++ ['\n']) := by
  have hpieces (pieces : List (List Char)) : pieces.flatMap comment =
      (pieces.map fun line => '#' :: ' ' :: line).flatMap (· ++ ['\n']) := by
    rw [List.flatMap_map]
    rfl
  unfold comments commentLines
  rw [List.flatMap_append, hpieces]
  split
  · rfl
  · simp [comment]

/-- A bundle is its lines, each ended by a line feed. -/
theorem render_eq_flatMap (entries : List Entry) :
    render entries = (headerLine :: entries.flatMap entryLines).flatMap (· ++ ['\n']) := by
  have hheader : header = headerLine ++ ['\n'] := by decide +kernel
  have hentry (entry : Entry) : comments entry ++ definition entry ++ ['\n', '\n'] =
      (entryLines entry).flatMap (· ++ ['\n']) := by
    rw [comments_eq_flatMap, entryLines, List.flatMap_append]
    simp
  rw [render, hheader, List.flatMap_cons, List.flatMap_assoc]
  simp only [hentry]

theorem mem_commentLines {entry : Entry} {line : List Char} (h : line ∈ commentLines entry) :
    line.head? = some '#' := by
  rcases List.mem_append.mp h with h | h
  · obtain ⟨piece, _, rfl⟩ := List.mem_map.mp h
    rfl
  · split at h
    · simp at h
    · rw [List.mem_singleton.mp h]
      rfl

theorem not_mem_commentLines {entry : Entry} (hclass : '\n' ∉ entry.className.toList)
    {line : List Char} (h : line ∈ commentLines entry) : '\n' ∉ line := by
  rcases List.mem_append.mp h with h | h
  · obtain ⟨piece, hpiece, rfl⟩ := List.mem_map.mp h
    have := Text.not_mem_of_mem_pieces hpiece
    simpa using this
  · split at h
    · simp at h
    · rw [List.mem_singleton.mp h]
      simpa using hclass

theorem not_mem_definition {entry : Entry} (hkey : '\n' ∉ entry.key.toList) :
    '\n' ∉ definition entry := by
  have hvalue := not_mem_value entry.text_single_line
  simpa [definition] using ⟨hkey, hvalue⟩

/-- The pieces of a bundle between line feeds. -/
theorem pieces_render {entries : List Entry}
    (hkeys : ∀ entry ∈ entries, '\n' ∉ entry.key.toList)
    (hclasses : ∀ entry ∈ entries, '\n' ∉ entry.className.toList) :
    Text.pieces '\n' (render entries) = headerLine :: entries.flatMap entryLines ++ [[]] := by
  rw [render_eq_flatMap]
  apply Text.pieces_flatMap
  intro line hline
  rcases List.mem_cons.mp hline with rfl | hline
  · decide +kernel
  · obtain ⟨entry, hentry, hline⟩ := List.mem_flatMap.mp hline
    rcases List.mem_append.mp hline with hline | hline
    · exact not_mem_commentLines (hclasses entry hentry) hline
    · simp only [List.mem_cons, List.not_mem_nil, or_false] at hline
      rcases hline with rfl | rfl
      · exact not_mem_definition (hkeys entry hentry)
      · simp

end ResourceBundle.Bundle
