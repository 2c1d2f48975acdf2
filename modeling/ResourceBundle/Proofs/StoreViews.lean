import Mathlib.Data.List.Nodup
import Mathlib.Data.String.Basic
import ResourceBundle.Store

/-! # Views of a store

The views are in strictly ascending order and depend only on which entries are placed where, not on the
order of insertion. -/

namespace ResourceBundle.Store

theorem ascending_eraseDups {α : Type} [LinearOrder α] (xs : List α) (h : xs.Pairwise (· ≤ ·)) :
    xs.eraseDups.Pairwise (· < ·) := by
  match xs with
  | [] => simp
  | x :: rest =>
    obtain ⟨hx, hrest⟩ := List.pairwise_cons.mp h
    rw [List.eraseDups_cons]
    refine List.pairwise_cons.mpr ⟨?_, ascending_eraseDups _ (hrest.filter _)⟩
    intro y hy
    obtain ⟨hmem, hne⟩ := List.mem_filter.mp (List.mem_eraseDups.mp hy)
    have hyx : y ≠ x := by simpa using hne
    exact lt_of_le_of_ne (hx y hmem) hyx.symm
termination_by xs.length
decreasing_by
  have := List.length_filter_le (fun y => !y == x) rest
  simp only [List.length_cons]
  omega

theorem ascending_locales (store : Store) : store.locales.Pairwise (· < ·) := by
  apply ascending_eraseDups
  apply (List.pairwise_mergeSort _ _ _).imp
  · intro a b hab
    exact of_decide_eq_true hab
  · intro a b c hab hbc
    exact decide_eq_true (le_trans (of_decide_eq_true hab) (of_decide_eq_true hbc))
  · intro a b
    simpa using le_total a b

/-- Two ascending lists with the same members are the same list. -/
theorem locales_eq_of_ascending {store : Store} {locales : List String}
    (hascending : locales.Pairwise (· < ·))
    (h : ∀ locale, locale ∈ store.locales ↔ locale ∈ locales) : store.locales = locales := by
  have hperm : store.locales.Perm locales :=
    (List.perm_ext_iff_of_nodup ((ascending_locales store).imp ne_of_lt)
      (hascending.imp ne_of_lt)).mpr h
  apply hperm.eq_of_pairwise _ (ascending_locales store) hascending
  intro x y _ _ hxy hyx
  exact absurd hyx (lt_asymm hxy)

theorem locales_eq_of_mem_iff {a b : Store} (h : ∀ locale, locale ∈ a.locales ↔ locale ∈ b.locales) :
    a.locales = b.locales :=
  locales_eq_of_ascending (ascending_locales b) h

theorem entriesFor_perm (store : Store) (locale : String) :
    (store.entriesFor locale).Perm ((store.placed.filter (·.locale == locale)).map (·.entry)) :=
  List.mergeSort_perm _ _

theorem nodup_keys_entriesFor (store : Store) (locale : String) :
    ((store.entriesFor locale).map (·.key)).Nodup := by
  apply ((entriesFor_perm store locale).map (·.key)).nodup_iff.mpr
  rw [List.map_map]
  have hslots := (store.slots_distinct.of_map _).filter (·.locale == locale)
  apply List.Nodup.map_on _ hslots
  intro a ha b hb hkey
  have hla : a.locale = locale := by simpa using (List.mem_filter.mp ha).2
  have hlb : b.locale = locale := by simpa using (List.mem_filter.mp hb).2
  have hslot : a.slot = b.slot := by
    simp only [Placed.slot, hla, hlb]
    exact congrArg (Prod.mk locale) hkey
  exact List.inj_on_of_nodup_map store.slots_distinct (List.mem_of_mem_filter ha)
    (List.mem_of_mem_filter hb) hslot

/-- The entries of a locale stand in strictly ascending order of their keys. -/
theorem ascending_entriesFor (store : Store) (locale : String) :
    (store.entriesFor locale).Pairwise fun a b => a.key < b.key := by
  have hsorted : (store.entriesFor locale).Pairwise fun a b => a.key ≤ b.key := by
    apply (List.pairwise_mergeSort _ _ _).imp
    · intro a b hab
      exact of_decide_eq_true hab
    · intro a b c hab hbc
      exact decide_eq_true (le_trans (of_decide_eq_true hab) (of_decide_eq_true hbc))
    · intro a b
      simpa using le_total a.key b.key
  have hdistinct := List.pairwise_map.mp (nodup_keys_entriesFor store locale)
  exact (hsorted.and hdistinct).imp fun h => lt_of_le_of_ne h.1 h.2

theorem eq_of_perm_of_ascending {xs ys : List Entry} (h : xs.Perm ys)
    (hx : xs.Pairwise fun a b => a.key < b.key) (hy : ys.Pairwise fun a b => a.key < b.key) :
    xs = ys := by
  apply h.eq_of_pairwise _ hx hy
  intro a b _ _ hab hba
  exact absurd hba (lt_asymm hab)

/-- The entries of a locale do not depend on the order of insertion. -/
theorem entriesFor_congr {a b : Store} (h : a.placed.Perm b.placed) (locale : String) :
    a.entriesFor locale = b.entriesFor locale := by
  apply eq_of_perm_of_ascending _ (ascending_entriesFor a locale) (ascending_entriesFor b locale)
  calc (a.entriesFor locale).Perm _ := entriesFor_perm a locale
    List.Perm _ _ := (h.filter _).map _
    List.Perm _ _ := (entriesFor_perm b locale).symm

theorem locales_congr {a b : Store} (h : a.placed.Perm b.placed) : a.locales = b.locales := by
  apply locales_eq_of_mem_iff
  intro locale
  simp only [mem_locales, h.mem_iff]

/-- Whether a place is taken does not depend on the order of insertion. -/
theorem contains_congr {a b : Store} (h : a.placed.Perm b.placed) (locale key : String) :
    a.contains locale key = b.contains locale key := by
  rw [Bool.eq_iff_iff, contains_iff, contains_iff, (h.map Placed.slot).mem_iff]

end ResourceBundle.Store
