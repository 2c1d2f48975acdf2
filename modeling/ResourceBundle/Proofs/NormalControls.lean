import Mathlib.Tactic.Tauto
import ResourceBundle.Text.Normal

/-! # Control characters and normalisation

Normalisation never makes one of the control characters below U+0020: those of the result stood in the
text. The tables hold no such code point, and Hangul arithmetic stays inside its blocks. -/

namespace ResourceBundle.Text.Normal

/-- Whether a code point denotes a character that is no control character of ASCII. -/
def isProper (n : Nat) : Bool := decide (0x20 ≤ (Char.ofNat n).toNat)

theorem toNat_ofNat_of_valid {n : Nat} (h : n.isValidChar) : (Char.ofNat n).toNat = n := by
  rw [Char.ofNat, dif_pos h]
  rfl

theorem isProper_of_lt {n : Nat} (hlow : 0x20 ≤ n) (hhigh : n < 0xD800) : isProper n = true := by
  apply decide_eq_true
  rw [toNat_ofNat_of_valid (.inl hhigh)]
  exact hlow

theorem proper_of_mem_map {ns : List Nat} (h : ns.all isProper = true) {c : Char}
    (hc : c ∈ ns.map Char.ofNat) : 0x20 ≤ c.toNat := by
  obtain ⟨n, hn, rfl⟩ := List.mem_map.mp hc
  exact of_decide_eq_true (List.all_eq_true.mp h n hn)

theorem composites_proper : composites.all (fun entry =>
    isProper entry.1 && isProper entry.2.1 && isProper entry.2.2) = true := by
  decide +kernel

theorem forms_proper : forms.all (fun block => block.2.all (·.all isProper)) = true := by
  decide +kernel

/-- A run has its images between the control characters and the surrogates, or above the surrogates. -/
def hasProperImages (run : Run) : Bool :=
  decide (0x20 ≤ run.image ∧ run.image + (run.last - run.first) < 0xD800) ||
    decide (0xE000 ≤ run.image ∧ run.image + (run.last - run.first) < 0x110000)

theorem formRuns_proper : formRuns.all hasProperImages = true := by
  decide +kernel

theorem imageOf_proper {run : Run} (h : hasProperImages run = true) {c d : Char}
    (hd : run.imageOf? c = some d) : 0x20 ≤ d.toNat := by
  unfold Run.imageOf? at hd
  split at hd
  · rename_i hc
    obtain ⟨hfirst, hlast, _⟩ := hc
    have hd := Option.some.inj hd
    subst hd
    simp only [hasProperImages, Bool.or_eq_true, decide_eq_true_eq] at h
    have hvalid : (run.image + (c.toNat - run.first)).isValidChar := by
      unfold Nat.isValidChar
      omega
    rw [toNat_ofNat_of_valid hvalid]
    omega
  · simp at hd

theorem form_proper {n : Nat} {cs : List Nat} (h : form? forms n = some cs) :
    cs.all isProper = true := by
  obtain ⟨block, hblock, hcs⟩ := List.exists_of_findSome?_eq_some h
  split at hcs
  · have hmem : cs ∈ block.2 := List.mem_of_getElem? hcs
    exact List.all_eq_true.mp (List.all_eq_true.mp forms_proper block hblock) cs hmem
  · simp at hcs

theorem jamo_proper {n : Nat} (hlow : syllableBase ≤ n) (hhigh : n < syllableBase + syllableCount)
    {c : Char} (hc : c ∈ jamo n) : 0x20 ≤ c.toNat := by
  have hindex : n - syllableBase < 11172 := by simp only [syllableCount] at hhigh; omega
  have hjamo : ∃ m, 0x1100 ≤ m ∧ m < 0xD800 ∧ c = Char.ofNat m := by
    simp only [jamo] at hc
    split at hc <;> simp only [List.mem_append, List.mem_cons, List.not_mem_nil, or_false] at hc
    · rcases hc with hc | hc <;> exact ⟨_, by omega, by omega, hc⟩
    · rcases hc with (hc | hc) | hc <;> exact ⟨_, by omega, by omega, hc⟩
  obtain ⟨m, hm, hlt, rfl⟩ := hjamo
  exact of_decide_eq_true (isProper_of_lt (by omega) hlt)

/-- A control character in the decomposition of a character is that character. -/
theorem control_of_mem_decomposeChar {depth : Nat} {c d : Char} (hd : d ∈ decomposeChar depth c)
    (hcontrol : d.toNat < 0x20) : d = c := by
  induction depth generalizing c with
  | zero => simpa [decomposeChar] using hd
  | succ depth ih =>
    unfold decomposeChar at hd
    split at hd
    · simpa using hd
    · split at hd
      · rename_i hsyllable
        have := jamo_proper hsyllable.1 hsyllable.2 hd
        omega
      · split at hd
        · rename_i code first second hfind
          have hentry := List.all_eq_true.mp composites_proper _ (List.mem_of_find?_eq_some hfind)
          simp only [Bool.and_eq_true] at hentry
          rcases List.mem_append.mp hd with hfirst | hsecond
          · have heq := ih hfirst
            have hproper := of_decide_eq_true hentry.1.2
            rw [← heq] at hproper
            omega
          · have hproper := of_decide_eq_true hentry.2
            rw [← List.mem_singleton.mp hsecond] at hproper
            omega
        · split at hd
          · rename_i cs hform
            have := proper_of_mem_map (form_proper hform) hd
            omega
          · rw [List.mem_singleton] at hd
            cases himage : runImage? formRuns c with
            | none => simpa [himage] using hd
            | some image =>
              obtain ⟨run, hrun, himage'⟩ := List.exists_of_findSome?_eq_some himage
              have := imageOf_proper (List.all_eq_true.mp formRuns_proper run hrun) himage'
              rw [himage, Option.getD_some] at hd
              subst hd
              omega

theorem mem_insertMark {mark c : Char} {cs : List Char} :
    c ∈ insertMark mark cs ↔ c = mark ∨ c ∈ cs := by
  induction cs with
  | nil => simp [insertMark]
  | cons d cs ih =>
    unfold insertMark
    split
    · simp only [List.mem_cons, ih]
      exact or_left_comm
    · simp only [List.mem_cons]

theorem mem_orderMarks {c : Char} {cs : List Char} : c ∈ orderMarks cs ↔ c ∈ cs := by
  induction cs with
  | nil => simp [orderMarks]
  | cons d cs ih =>
    unfold orderMarks
    split <;> simp only [mem_insertMark, List.mem_cons, ih]

theorem compose_proper {a b c : Char} (h : compose? a b = some c) : 0x20 ≤ c.toNat := by
  unfold compose? at h
  simp only at h
  split at h
  · have hc := Option.some.inj h
    subst hc
    exact of_decide_eq_true (isProper_of_lt (by simp only [syllableBase]; omega)
      (by simp only [syllableBase]; omega))
  · split at h
    · rename_i hsyllable
      have hc := Option.some.inj h
      subst hc
      simp only [syllableBase, syllableCount] at hsyllable
      exact of_decide_eq_true (isProper_of_lt (by omega) (by omega))
    · obtain ⟨entry, hfind, rfl⟩ := Option.map_eq_some_iff.mp h
      have hentry := List.all_eq_true.mp composites_proper _ (List.mem_of_find?_eq_some hfind)
      simp only [Bool.and_eq_true] at hentry
      exact of_decide_eq_true hentry.1.1

theorem control_of_mem_composeFrom {starter d : Char} {skipped cs : List Char}
    (hd : d ∈ composeFrom starter skipped cs) (hcontrol : d.toNat < 0x20) :
    d = starter ∨ d ∈ skipped ∨ d ∈ cs := by
  fun_induction composeFrom starter skipped cs with
  | case1 starter skipped => simpa using hd
  | case2 starter skipped c rest blocked composed hcomposed ih =>
    rcases ih hd with heq | hskipped | hrest
    · have hproper : 0x20 ≤ composed.toNat := by
        split at hcomposed
        · simp at hcomposed
        · exact compose_proper hcomposed
      rw [← heq] at hproper
      omega
    · exact .inr (.inl hskipped)
    · exact .inr (.inr (List.mem_cons_of_mem c hrest))
  | case3 starter skipped c rest blocked hnone hclass ih =>
    simp only [List.cons_append, List.mem_cons, List.mem_append, List.mem_reverse] at hd
    rcases hd with heq | hskipped | hrest
    · exact .inl heq
    · exact .inr (.inl hskipped)
    · have := ih hrest
      simp only [List.not_mem_nil, false_or] at this
      exact .inr (.inr (List.mem_cons.mpr this))
  | case4 starter skipped c rest blocked hnone hclass ih =>
    have := ih hd
    simp only [List.mem_cons] at this ⊢
    tauto

theorem control_of_mem_compose {d : Char} {cs : List Char} (hd : d ∈ compose cs)
    (hcontrol : d.toNat < 0x20) : d ∈ cs := by
  induction cs with
  | nil => simp [compose] at hd
  | cons c cs ih =>
    unfold compose at hd
    split at hd
    · have := control_of_mem_composeFrom hd hcontrol
      simpa using this
    · rcases List.mem_cons.mp hd with heq | hmem
      · exact List.mem_cons.mpr (.inl heq)
      · exact List.mem_cons_of_mem c (ih hmem)

/-- Control characters do not compose. -/
theorem proper_of_compose {a b c : Char} (h : compose? a b = some c) :
    0x20 ≤ a.toNat ∧ 0x20 ≤ b.toNat := by
  unfold compose? at h
  simp only at h
  split at h
  · omega
  · split at h
    · simp only [syllableBase] at *
      omega
    · obtain ⟨entry, hfind, -⟩ := Option.map_eq_some_iff.mp h
      have hentry := List.all_eq_true.mp composites_proper _ (List.mem_of_find?_eq_some hfind)
      have hparts := List.find?_some hfind
      simp only [Bool.and_eq_true, beq_iff_eq] at hentry hparts
      have hfirst := of_decide_eq_true hentry.1.2
      have hsecond := of_decide_eq_true hentry.2
      rw [hparts.1, Char.ofNat_toNat] at hfirst
      rw [hparts.2, Char.ofNat_toNat] at hsecond
      exact ⟨hfirst, hsecond⟩

theorem mem_composeFrom_of_control {starter d : Char} {skipped cs : List Char}
    (hcontrol : d.toNat < 0x20) (h : d = starter ∨ d ∈ skipped ∨ d ∈ cs) :
    d ∈ composeFrom starter skipped cs := by
  fun_induction composeFrom starter skipped cs with
  | case1 starter skipped => simpa using h
  | case2 starter skipped c rest blocked composed hcomposed ih =>
    have hproper : 0x20 ≤ starter.toNat ∧ 0x20 ≤ c.toNat := by
      split at hcomposed
      · simp at hcomposed
      · exact proper_of_compose hcomposed
    -- What composes is no control character, so `d` is still to come.
    rcases h with rfl | hskipped | hmem
    · omega
    · exact ih (.inr (.inl hskipped))
    · rcases List.mem_cons.mp hmem with rfl | hrest
      · omega
      · exact ih (.inr (.inr hrest))
  | case3 starter skipped c rest blocked hnone hclass ih =>
    simp only [List.cons_append, List.mem_cons, List.mem_append, List.mem_reverse]
    rcases h with heq | hskipped | hmem
    · exact .inl heq
    · exact .inr (.inl hskipped)
    · rcases List.mem_cons.mp hmem with hc | hrest
      · exact .inr (.inr (ih (.inl hc)))
      · exact .inr (.inr (ih (.inr (.inr hrest))))
  | case4 starter skipped c rest blocked hnone hclass ih =>
    apply ih
    rcases h with heq | hskipped | hmem
    · exact .inl heq
    · exact .inr (.inl (List.mem_cons_of_mem c hskipped))
    · rcases List.mem_cons.mp hmem with hc | hrest
      · exact .inr (.inl (List.mem_cons.mpr (.inl hc)))
      · exact .inr (.inr hrest)

theorem mem_compose_of_control {d : Char} {cs : List Char} (hcontrol : d.toNat < 0x20)
    (hd : d ∈ cs) : d ∈ compose cs := by
  induction cs with
  | nil => simp at hd
  | cons c cs ih =>
    unfold compose
    split
    · apply mem_composeFrom_of_control hcontrol
      simpa using hd
    · rcases List.mem_cons.mp hd with heq | hmem
      · exact List.mem_cons.mpr (.inl heq)
      · exact List.mem_cons_of_mem c (ih hmem)

theorem decomposeChar_of_control {c : Char} (hcontrol : c.toNat < 0x20) (depth : Nat) :
    decomposeChar depth c = [c] := by
  cases depth with
  | zero => rfl
  | succ depth => rw [decomposeChar, if_pos (by omega)]

end ResourceBundle.Text.Normal

namespace ResourceBundle.Text

/-- Every control character of a normalised text stood in the text. -/
theorem control_of_mem_nfkc {d : Char} {cs : List Char} (hd : d ∈ nfkc cs)
    (hcontrol : d.toNat < 0x20) : d ∈ cs := by
  have hordered := Normal.control_of_mem_compose hd hcontrol
  obtain ⟨c, hc, hmem⟩ := List.mem_flatMap.mp (Normal.mem_orderMarks.mp hordered)
  rw [Normal.control_of_mem_decomposeChar hmem hcontrol]
  exact hc

/-- Normalisation keeps control characters. -/
theorem mem_nfkc_of_control {d : Char} {cs : List Char} (hd : d ∈ cs) (hcontrol : d.toNat < 0x20) :
    d ∈ nfkc cs := by
  apply Normal.mem_compose_of_control hcontrol
  apply Normal.mem_orderMarks.mpr
  refine List.mem_flatMap.mpr ⟨d, hd, ?_⟩
  rw [Normal.decomposeChar_of_control hcontrol]
  exact List.mem_singleton.mpr rfl

end ResourceBundle.Text
