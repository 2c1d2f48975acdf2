import Mathlib.Data.List.Basic
import ResourceBundle.Proofs.BundleLines

/-! # Natural lines of a bundle

A reader of bundles ends a line at a line feed, at a carriage return, or at the two together. A bundle is
written with line feeds in mind alone, so a carriage return in a text cuts the text off, and one in a
description begins a line that is no comment. Without them every entry has one line of its own. -/

namespace ResourceBundle.Text

/-- The lines of a text that end at a line feed, a carriage return, or the two together; an end at the
end of the text opens no further line. -/
def naturalLines : List Char → List (List Char)
  | [] => []
  | '\r' :: '\n' :: rest => [] :: naturalLines rest
  | c :: rest =>
    if c = '\n' ∨ c = '\r' then
      [] :: naturalLines rest
    else
      match naturalLines rest with
      | [] => [[c]]
      | line :: further => (c :: line) :: further

theorem naturalLines_cons {c : Char} (hfeed : c ≠ '\n') (hreturn : c ≠ '\r') (rest : List Char) :
    naturalLines (c :: rest) = match naturalLines rest with
      | [] => [[c]]
      | line :: further => (c :: line) :: further := by
  rw [naturalLines, if_neg (not_or.mpr ⟨hfeed, hreturn⟩)]
  exact fun _ hc => absurd hc hreturn

theorem naturalLines_feed (rest : List Char) : naturalLines ('\n' :: rest) = [] :: naturalLines rest := by
  rw [naturalLines, if_pos (.inl rfl)]
  exact fun _ hc => absurd hc (by decide)

theorem naturalLines_return {rest : List Char} (h : rest.head? ≠ some '\n') :
    naturalLines ('\r' :: rest) = [] :: naturalLines rest := by
  rw [naturalLines, if_pos (.inr rfl)]
  rintro further _ rfl
  exact h rfl

theorem naturalLines_ne_nil {cs : List Char} (h : cs ≠ []) : naturalLines cs ≠ [] := by
  fun_cases naturalLines cs <;> simp_all

/-- A character that ends no line goes to the first line. -/
theorem naturalLines_cons_append {c : Char} (hfeed : c ≠ '\n') (hreturn : c ≠ '\r')
    {cs first rest : List Char} (hfirst : first ≠ [])
    (h : naturalLines cs = naturalLines first ++ naturalLines rest) :
    naturalLines (c :: cs) = naturalLines (c :: first) ++ naturalLines rest := by
  obtain ⟨line, further, hlines⟩ := List.exists_cons_of_ne_nil (naturalLines_ne_nil hfirst)
  rw [naturalLines_cons hfeed hreturn, naturalLines_cons hfeed hreturn, h, hlines]
  rfl

/-- Lines do not reach over a line feed. -/
theorem naturalLines_append_cons (cs rest : List Char) :
    naturalLines (cs ++ '\n' :: rest) = naturalLines (cs ++ ['\n']) ++ naturalLines rest := by
  fun_induction naturalLines cs with
  | case1 =>
    rw [List.nil_append, List.nil_append, naturalLines_feed, naturalLines_feed]
    rfl
  | case2 cs ih => simp only [List.cons_append, naturalLines, ih]
  | case3 c cs hpair hend ih =>
    rcases hend with rfl | rfl
    · rw [List.cons_append, List.cons_append, naturalLines_feed, naturalLines_feed, ih, List.cons_append]
    · cases cs with
      | nil => rfl
      | cons d cs =>
        have hd (further : List Char) : (d :: further).head? ≠ some '\n' := fun h =>
          hpair cs rfl (by rw [Option.some.inj h])
        simp only [List.cons_append] at ih ⊢
        rw [naturalLines_return (hd _), naturalLines_return (hd _), ih, List.cons_append]
  | case4 c cs hpair hend hnone ih =>
    exact naturalLines_cons_append (not_or.mp hend).1 (not_or.mp hend).2 (by simp) ih
  | case5 c cs hpair hend line further hlines ih =>
    exact naturalLines_cons_append (not_or.mp hend).1 (not_or.mp hend).2 (by simp) ih

/-- Lines that are each followed by a line feed are cut apart from each other. -/
theorem naturalLines_flatMap (lines : List (List Char)) :
    naturalLines (lines.flatMap (· ++ ['\n'])) = lines.flatMap fun line => naturalLines (line ++ ['\n']) := by
  induction lines with
  | nil => rfl
  | cons line lines ih =>
    rw [List.flatMap_cons, List.flatMap_cons, List.append_assoc, List.singleton_append,
      naturalLines_append_cons, ih]

theorem naturalLines_of_not_mem {line : List Char} (hfeed : '\n' ∉ line) (hreturn : '\r' ∉ line) :
    naturalLines (line ++ ['\n']) = [line] := by
  induction line with
  | nil => exact naturalLines_feed []
  | cons c line ih =>
    obtain ⟨hc, hline⟩ := not_or.mp (mt List.mem_cons.mpr hfeed)
    obtain ⟨hc', hline'⟩ := not_or.mp (mt List.mem_cons.mpr hreturn)
    rw [List.cons_append, naturalLines_cons (Ne.symm hc) (Ne.symm hc'), ih hline hline']

/-- No line holds a character that ends one. -/
theorem not_mem_of_mem_naturalLines {cs line : List Char} (h : line ∈ naturalLines cs) :
    '\n' ∉ line ∧ '\r' ∉ line := by
  fun_induction naturalLines cs generalizing line with
  | case1 => simp at h
  | case2 rest ih => grind
  | case3 c rest hpair hend ih => grind
  | case4 c rest hpair hend hnone ih => grind
  | case5 c rest hpair hend first further hlines ih => grind

end ResourceBundle.Text

namespace ResourceBundle.Bundle

/-- White space of a file of properties. -/
def isLineSpace (c : Char) : Bool := c == ' ' || c == '\t' || c == '\x0c'

/-- Whether a line is neither blank nor a comment. -/
def isFurtherLine (line : List Char) : Bool := !line.all isLineSpace && line.head? != some '#'

/-- The lines of a text that are neither blank nor comments. -/
def furtherLines (cs : List Char) : List (List Char) := (Text.naturalLines cs).filter isFurtherLine

/-- The lines of a description that begin after a carriage return. The sign of a comment is put in front
of those only that begin after a line feed. -/
def bareLines (description : List Char) : List (List Char) :=
  (Text.pieces '\n' description).flatMap fun piece => (Text.naturalLines (piece ++ ['\n'])).tail

theorem mem_value_of_control {cs : List Char} {d : Char} (hd : d ∈ cs) (hcontrol : d.toNat < 0x20) :
    d ∈ value cs := by
  unfold value
  split
  · exact hd
  · refine List.mem_flatMap.mpr ⟨d, Text.mem_nfkc_of_control hd hcontrol, ?_⟩
    rw [escapeChar, if_pos (by omega)]
    exact List.mem_singleton.mpr rfl

/-- A value holds a carriage return exactly if its text does. -/
theorem return_mem_value_iff {cs : List Char} : '\r' ∈ value cs ↔ '\r' ∈ cs := by
  refine ⟨fun h => ?_, fun h => mem_value_of_control h (by decide)⟩
  unfold value at h
  split at h
  · exact h
  · exact (mem_escape h).2 (by decide)

/-- The sign of a comment makes the first line of a text a comment, and no other one. -/
theorem furtherLines_comment (piece : List Char) :
    furtherLines ('#' :: ' ' :: piece ++ ['\n']) =
      (Text.naturalLines (piece ++ ['\n'])).tail.filter isFurtherLine := by
  have hne : Text.naturalLines (piece ++ ['\n']) ≠ [] := Text.naturalLines_ne_nil (by simp)
  obtain ⟨line, further, hlines⟩ := List.exists_cons_of_ne_nil hne
  rw [furtherLines, List.cons_append, List.cons_append,
    Text.naturalLines_cons (by decide) (by decide), Text.naturalLines_cons (by decide) (by decide), hlines]
  exact List.filter_cons_of_neg (by simp [isFurtherLine])

theorem furtherLines_of_not_mem {line : List Char} (hfeed : '\n' ∉ line) (hreturn : '\r' ∉ line)
    (h : isFurtherLine line = true) : furtherLines (line ++ ['\n']) = [line] := by
  rw [furtherLines, Text.naturalLines_of_not_mem hfeed hreturn, List.filter_cons_of_pos h]
  rfl

theorem isFurtherLine_definition {entry : Entry} (h : entry.key.toList.head? ≠ some '#') :
    isFurtherLine (definition entry) = true := by
  have hne : entry.key.toList ≠ [] := fun hnil => entry.key_ne_empty (String.toList_eq_nil_iff.mp hnil)
  obtain ⟨c, rest, hkey⟩ := List.exists_cons_of_ne_nil hne
  have hequals : ¬ ∀ d ∈ definition entry, isLineSpace d = true := fun hall =>
    absurd (hall '=' (by simp [definition])) (by decide)
  rw [isFurtherLine, Bool.and_eq_true, Bool.not_eq_true', Bool.eq_false_iff, bne_iff_ne, ne_eq,
    List.all_eq_true]
  refine ⟨hequals, ?_⟩
  rw [definition, hkey]
  rwa [hkey] at h

/-- Whether a name is written on one line that no reader takes for a comment. -/
structure IsPlainKey (key : String) : Prop where
  no_feed : '\n' ∉ key.toList
  no_return : '\r' ∉ key.toList
  no_comment : key.toList.head? ≠ some '#'

theorem furtherLines_definition {entry : Entry} (hkey : IsPlainKey entry.key)
    (htext : '\r' ∉ entry.text.toList) :
    furtherLines (definition entry ++ ['\n']) = [definition entry] := by
  apply furtherLines_of_not_mem (not_mem_definition hkey.no_feed)
  · have hvalue := mt return_mem_value_iff.mp htext
    simpa [definition] using ⟨hkey.no_return, hvalue⟩
  · exact isFurtherLine_definition hkey.no_comment

theorem flatMap_furtherLines_commentLines {entry : Entry} (hfeed : '\n' ∉ entry.className.toList)
    (hreturn : '\r' ∉ entry.className.toList) :
    ((commentLines entry).flatMap fun line => furtherLines (line ++ ['\n'])) =
      (bareLines entry.description.toList).filter isFurtherLine := by
  have hclass : ((if Text.isBlankText entry.className then []
      else ['#' :: ' ' :: ("Defined in: ".toList ++ entry.className.toList)]).flatMap
        fun line => furtherLines (line ++ ['\n'])) = [] := by
    split
    · rfl
    · rw [List.flatMap_singleton, furtherLines_comment, Text.naturalLines_of_not_mem]
      · rfl
      · simpa using hfeed
      · simpa using hreturn
  rw [commentLines, List.flatMap_append, hclass, List.append_nil, List.flatMap_map, bareLines,
    List.filter_flatMap]
  simp only [furtherLines_comment]

/-- The lines of a bundle that are neither blank nor comments: what descriptions bring in, and what
becomes of the lines of the entries. -/
theorem furtherLines_render {entries : List Entry}
    (hclasses : ∀ entry ∈ entries, '\n' ∉ entry.className.toList ∧ '\r' ∉ entry.className.toList) :
    furtherLines (render entries) = entries.flatMap fun entry =>
      (bareLines entry.description.toList).filter isFurtherLine ++
        furtherLines (definition entry ++ ['\n']) := by
  have hheader : furtherLines (headerLine ++ ['\n']) = [] := by decide +kernel
  have hempty : furtherLines (([] : List Char) ++ ['\n']) = [] := by decide
  have hrender : furtherLines (render entries) =
      (headerLine :: entries.flatMap entryLines).flatMap fun line => furtherLines (line ++ ['\n']) := by
    rw [furtherLines, render_eq_flatMap, Text.naturalLines_flatMap, List.filter_flatMap]
    rfl
  rw [hrender, List.flatMap_cons, hheader, List.nil_append, List.flatMap_assoc]
  apply List.flatMap_congr
  intro entry hentry
  obtain ⟨hfeed, hreturn⟩ := hclasses entry hentry
  rw [entryLines, List.flatMap_append, flatMap_furtherLines_commentLines hfeed hreturn, List.flatMap_cons,
    List.flatMap_singleton, hempty, List.append_nil]

theorem length_le_of_flatMap {α β : Type} (f : α → List β) (g : α → β) (xs : List α) :
    xs.length ≤ (xs.flatMap fun x => f x ++ [g x]).length := by
  induction xs with
  | nil => exact Nat.le_refl 0
  | cons x xs ih =>
    simp only [List.flatMap_cons, List.length_append, List.length_cons, List.length_nil]
    omega

/-- If nothing else is there, nothing was put in front of any item. -/
theorem eq_nil_of_flatMap_eq_map {α β : Type} {f : α → List β} {g : α → β} {xs : List α}
    (h : (xs.flatMap fun x => f x ++ [g x]) = xs.map g) : ∀ x ∈ xs, f x = [] := by
  induction xs with
  | nil => exact fun _ hx => absurd hx List.not_mem_nil
  | cons x xs ih =>
    have hlength := congrArg List.length h
    have hrest := length_le_of_flatMap f g xs
    simp only [List.flatMap_cons, List.length_append, List.length_map, List.length_cons,
      List.length_nil] at hlength
    have hx : f x = [] := List.eq_nil_of_length_eq_zero (by omega)
    rw [List.flatMap_cons, hx, List.nil_append, List.map_cons, List.singleton_append] at h
    exact List.forall_mem_cons.mpr ⟨hx, ih (List.cons.inj h).2⟩

/-- Where keys and class names stay on their lines, the lines of a bundle that are neither blank nor
comments are the complete lines of its entries, one for each and in order, exactly if no text holds a
carriage return, and in the descriptions only blank lines and comments begin after one. -/
theorem furtherLines_render_iff {entries : List Entry}
    (hkeys : ∀ entry ∈ entries, IsPlainKey entry.key)
    (hclasses : ∀ entry ∈ entries, '\n' ∉ entry.className.toList ∧ '\r' ∉ entry.className.toList) :
    furtherLines (render entries) = entries.map definition ↔
      ∀ entry ∈ entries, '\r' ∉ entry.text.toList ∧
        ∀ line ∈ bareLines entry.description.toList, isFurtherLine line = false := by
  have hbare (entry : Entry) : (bareLines entry.description.toList).filter isFurtherLine = [] ↔
      ∀ line ∈ bareLines entry.description.toList, isFurtherLine line = false := by
    simp only [List.filter_eq_nil_iff, Bool.not_eq_true]
  -- Texts without a carriage return keep their lines whole.
  have hwhole (htexts : ∀ entry ∈ entries, '\r' ∉ entry.text.toList) :
      furtherLines (render entries) = entries.flatMap fun entry =>
        (bareLines entry.description.toList).filter isFurtherLine ++ [definition entry] := by
    rw [furtherLines_render hclasses]
    apply List.flatMap_congr
    intro entry hentry
    rw [furtherLines_definition (hkeys entry hentry) (htexts entry hentry)]
  constructor
  · intro h
    have htexts : ∀ entry ∈ entries, '\r' ∉ entry.text.toList := by
      intro entry hentry hreturn
      have hline : definition entry ∈ furtherLines (render entries) :=
        h ▸ List.mem_map_of_mem hentry
      apply (Text.not_mem_of_mem_naturalLines (List.mem_of_mem_filter hline)).2
      have hvalue := return_mem_value_iff.mpr hreturn
      simp [definition, hvalue]
    rw [hwhole htexts] at h
    have hnone := eq_nil_of_flatMap_eq_map h
    exact fun entry hentry => ⟨htexts entry hentry, (hbare entry).mp (hnone entry hentry)⟩
  · intro h
    rw [hwhole fun entry hentry => (h entry hentry).1, List.map_eq_flatMap]
    apply List.flatMap_congr
    intro entry hentry
    rw [(hbare entry).mpr (h entry hentry).2, List.nil_append]

def greetingEntry : Entry :=
  ⟨"app.TXT_greeting", false, "en", "shown\r\n= at start", "Hello\\nthere", "app", by decide, by decide⟩

theorem furtherLines_render_greeting : IsPlainKey greetingEntry.key ∧
    furtherLines (render [greetingEntry]) = ["app.TXT_greeting=Hello\\nthere".toList] := by
  have hkey : IsPlainKey greetingEntry.key :=
    ⟨by decide +kernel, by decide +kernel, by decide +kernel⟩
  have hlines := (@furtherLines_render_iff [greetingEntry]
    (by simpa using hkey) (by decide +kernel)).mpr (by decide +kernel)
  exact ⟨hkey, hlines.trans (by decide +kernel)⟩

def brokenEntry : Entry :=
  ⟨"app.TXT_title", false, "en", "shown\rfake=2", "first\rsecond=1", "app", by decide, by decide⟩

/-- A carriage return cuts the text of an entry off and brings in lines that belong to no entry. -/
theorem furtherLines_render_broken : IsPlainKey brokenEntry.key ∧
    furtherLines (render [brokenEntry]) =
      ["fake=2".toList, "app.TXT_title=first".toList, "second=1".toList] ∧
    furtherLines (render [brokenEntry]) ≠ [brokenEntry].map definition := by
  refine ⟨⟨?_, ?_, ?_⟩, ?_, ?_⟩ <;> decide +kernel

end ResourceBundle.Bundle
