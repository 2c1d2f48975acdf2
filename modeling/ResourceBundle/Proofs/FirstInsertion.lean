import Mathlib
import ResourceBundle.Proofs.Contribution
import ResourceBundle.Proofs.StoreViews

/-! # The first entry of a place stays

A store is filled by attempts, some of which are refused. After any attempts it is the finite map in
which each place has the entry of the first attempt for it, and all views of the store tell the same
about this map. -/

namespace ResourceBundle

/-- The failure of inserting an entry where there is one. -/
def Placed.duplicate (placed : Placed) : Failure :=
  .duplicateKey placed.entry.key placed.entry.mark placed.entry.className

namespace Store

/-- Tries to insert an entry. A refusal is the result and does not end a run. -/
def attempt (placed : Placed) : Action Store (Except Failure Unit) :=
  tryCatch (do place placed.locale placed.entry; pure (.ok ())) fun failure => pure (.error failure)

/-- Tries to insert entries one after the other; gives a result for each. -/
def attemptAll : List Placed → Action Store (List (Except Failure Unit))
  | [] => pure []
  | placed :: rest => do
    let result ← attempt placed
    let results ← attemptAll rest
    pure (result :: results)

/-- The first attempt for a place. -/
def first? (attempts : List Placed) (slot : String × String) : Option Placed :=
  attempts.find? fun placed => placed.slot = slot

/-- What has to come of an attempt after earlier ones, whatever came of these. -/
def verdict (earlier : List Placed) (placed : Placed) : Except Failure Unit :=
  if earlier.any fun other => other.slot = placed.slot then .error placed.duplicate else .ok ()

def granted (attempts : List Placed) (results : List (Except Failure Unit)) : List Placed :=
  (attempts.zip results).filterMap fun attempt => match attempt.2 with
    | .ok _ => some attempt.1
    | .error _ => none

/-- What can be observed of a store after attempts with their results. -/
structure FirstWins (attempts : List Placed) (results : List (Except Failure Unit)) (store : Store) :
    Prop where
  /-- An attempt is refused exactly if an earlier one was for the same place. -/
  verdicts : results = attempts.mapIdx fun i placed => verdict (attempts.take i) placed
  entries (locale : String) (entry : Entry) :
    entry ∈ store.entriesFor locale ↔ first? attempts (locale, entry.key) = some ⟨locale, entry⟩
  entriesAscending (locale : String) : (store.entriesFor locale).Pairwise fun a b => a.key < b.key
  locales (locale : String) :
    locale ∈ store.locales ↔ ∃ placed ∈ granted attempts results, placed.locale = locale
  localesAscending : store.locales.Pairwise (· < ·)
  contains (locale key : String) :
    store.contains locale key = true ↔ key ∈ (store.entriesFor locale).map (·.key)
  size : store.size = (granted attempts results).length
  total : store.size = (store.locales.map fun locale => (store.entriesFor locale).length).sum

theorem verdict_of_mem {earlier : List Placed} {placed : Placed}
    (h : placed.slot ∈ earlier.map Placed.slot) : verdict earlier placed = .error placed.duplicate := by
  obtain ⟨other, hother, hslot⟩ := List.mem_map.mp h
  exact if_pos (List.any_eq_true.mpr ⟨other, hother, decide_eq_true hslot⟩)

theorem verdict_of_not_mem {earlier : List Placed} {placed : Placed}
    (h : placed.slot ∉ earlier.map Placed.slot) : verdict earlier placed = .ok () := by
  refine if_neg fun hany => h ?_
  obtain ⟨other, hother, hslot⟩ := List.any_eq_true.mp hany
  exact List.mem_map.mpr ⟨other, hother, of_decide_eq_true hslot⟩

theorem length_entriesFor (store : Store) (locale : String) :
    (store.entriesFor locale).length = (store.placed.map (·.locale)).count locale := by
  rw [(entriesFor_perm store locale).length_eq, List.length_map, List.count_eq_countP,
    List.countP_map, List.countP_eq_length_filter]
  rfl

/-- Each entry is counted in exactly one locale. -/
theorem sum_length_entriesFor (store : Store) :
    (store.locales.map fun locale => (store.entriesFor locale).length).sum = store.size := by
  have hperm : store.locales.Perm (store.placed.map (·.locale)).dedup := by
    refine (List.perm_ext_iff_of_nodup ((ascending_locales store).imp ne_of_lt)
      (List.nodup_dedup _)).mpr fun locale => ?_
    rw [mem_locales, List.mem_dedup, List.mem_map]
  calc (store.locales.map fun locale => (store.entriesFor locale).length).sum
      = (store.locales.map fun locale => (store.placed.map (·.locale)).count locale).sum := by
        simp only [length_entriesFor]
    _ = ((store.placed.map (·.locale)).dedup.map fun locale =>
          (store.placed.map (·.locale)).count locale).sum := (hperm.map _).sum_eq
    _ = (store.placed.map (·.locale)).length := List.sum_map_count_dedup_eq_length _
    _ = store.size := List.length_map _

theorem contains_iff_mem_keys (store : Store) (locale key : String) :
    store.contains locale key = true ↔ key ∈ (store.entriesFor locale).map (·.key) := by
  simp only [contains_iff, List.mem_map, mem_entriesFor, Placed.slot, Prod.mk.injEq]
  constructor
  · rintro ⟨⟨_, entry⟩, hplaced, rfl, hkey⟩
    exact ⟨entry, hplaced, hkey⟩
  · rintro ⟨entry, hplaced, hkey⟩
    exact ⟨⟨locale, entry⟩, hplaced, rfl, hkey⟩

/-- An insertion fails exactly if the place is taken, and then it changes nothing. -/
theorem run_place_eq_error_iff {placed : Placed} {failure : Failure} {s t : Session Store} :
    (place placed.locale placed.entry).run s = .error failure t ↔
      placed.slot ∈ s.state.placed.map Placed.slot ∧ failure = placed.duplicate ∧ t = s := by
  cases hinsert : s.state.insert placed.locale placed.entry with
  | error other =>
    obtain ⟨htaken, rfl⟩ := insert_eq_error_iff.mp hinsert
    have hslot : placed.slot ∈ s.state.placed.map Placed.slot := contains_iff.mp htaken
    rw [run_place_of_error hinsert]
    constructor
    · intro h
      cases h
      exact ⟨hslot, rfl, rfl⟩
    · rintro ⟨_, rfl, rfl⟩
      rfl
  | ok store =>
    have hslot : placed.slot ∉ s.state.placed.map Placed.slot := by
      intro htaken
      have hcontains := contains_iff.mpr htaken
      rw [(insert_eq_ok_iff.mp hinsert).1] at hcontains
      cases hcontains
    rw [run_place_of_ok hinsert]
    constructor
    · rintro ⟨⟩
    · exact fun h => absurd h.1 hslot

theorem run_attempt_of_taken {placed : Placed} {s : Session Store}
    (h : placed.slot ∈ s.state.placed.map Placed.slot) :
    (attempt placed).run s = .ok (.error placed.duplicate) s := by
  have hplace := run_place_eq_error_iff.mpr ⟨h, rfl, rfl⟩
  simp only [attempt, Action.run_tryCatch, EStateM.run_bind, hplace, EStateM.run_pure]

theorem run_attempt_of_free {placed : Placed} {s : Session Store}
    (h : placed.slot ∉ s.state.placed.map Placed.slot) :
    ∃ t, (attempt placed).run s = .ok (.ok ()) t ∧ t.state.placed = s.state.placed ++ [placed] := by
  cases hinsert : s.state.insert placed.locale placed.entry with
  | error failure =>
    have htaken := (insert_eq_error_iff.mp hinsert).1
    exact absurd (contains_iff.mp htaken) h
  | ok store =>
    refine ⟨⟨store, s.events ++ [.stored placed.entry.key placed.locale]⟩, ?_,
      (insert_eq_ok_iff.mp hinsert).2⟩
    simp only [attempt, Action.run_tryCatch, EStateM.run_bind, run_place_of_ok hinsert,
      EStateM.run_pure]

/-- The invariant of a run: the store has, for each place, the first attempt for it. -/
def Holds (attempts : List Placed) (store : Store) : Prop :=
  ∀ placed, placed ∈ store.placed ↔ first? attempts placed.slot = some placed

theorem holds_empty : Holds [] empty := by
  intro placed
  simp [empty, first?]

theorem Holds.taken_iff {attempts : List Placed} {store : Store} (h : Holds attempts store)
    (slot : String × String) :
    slot ∈ store.placed.map Placed.slot ↔ slot ∈ attempts.map Placed.slot := by
  constructor
  · intro htaken
    obtain ⟨placed, hplaced, rfl⟩ := List.mem_map.mp htaken
    exact List.mem_map_of_mem (List.mem_of_find?_eq_some ((h placed).mp hplaced))
  · intro hattempted
    obtain ⟨placed, hplaced, hslot⟩ := List.mem_map.mp hattempted
    have hfirst : (first? attempts slot).isSome := by
      rw [first?, List.find?_isSome]
      exact ⟨placed, hplaced, decide_eq_true hslot⟩
    obtain ⟨first, hfirst⟩ := Option.isSome_iff_exists.mp hfirst
    have hfirstSlot : first.slot = slot := by simpa using List.find?_some hfirst
    rw [← hfirstSlot] at hfirst
    exact List.mem_map.mpr ⟨first, (h first).mpr hfirst, hfirstSlot⟩

theorem first?_append (attempts : List Placed) (next : Placed) (slot : String × String) :
    first? (attempts ++ [next]) slot =
      (first? attempts slot).or (if next.slot = slot then some next else none) := by
  rw [first?, first?, List.find?_append, List.find?_singleton]
  simp only [decide_eq_true_eq]

theorem first?_eq_none {attempts : List Placed} {slot : String × String}
    (h : slot ∉ attempts.map Placed.slot) : first? attempts slot = none := by
  rw [first?, List.find?_eq_none]
  intro placed hplaced hslot
  exact h (List.mem_map.mpr ⟨placed, hplaced, of_decide_eq_true hslot⟩)

/-- An attempt for a place that is taken is not the first one. -/
theorem Holds.refused {attempts : List Placed} {store : Store} (h : Holds attempts store)
    {next : Placed} (htaken : next.slot ∈ store.placed.map Placed.slot) :
    Holds (attempts ++ [next]) store := by
  intro placed
  rw [h placed, first?_append]
  by_cases hslot : next.slot = placed.slot
  · obtain ⟨own, hown, hsame⟩ := List.mem_map.mp htaken
    have hfirst := (h own).mp hown
    rw [hsame, hslot] at hfirst
    rw [hfirst, Option.some_or]
  · rw [if_neg hslot, Option.or_none]

/-- An attempt for a place that is free is the first one. -/
theorem Holds.inserted {attempts : List Placed} {store after : Store} (h : Holds attempts store)
    {next : Placed} (hfree : next.slot ∉ store.placed.map Placed.slot)
    (hafter : after.placed = store.placed ++ [next]) : Holds (attempts ++ [next]) after := by
  have hnone : first? attempts next.slot = none :=
    first?_eq_none ((h.taken_iff next.slot).not.mp hfree)
  intro placed
  rw [hafter, List.mem_append, List.mem_singleton, h placed, first?_append]
  by_cases hslot : next.slot = placed.slot
  · rw [← hslot, hnone, Option.none_or, if_pos rfl, Option.some.injEq]
    constructor
    · rintro (hsome | rfl)
      · cases hsome
      · rfl
    · exact fun heq => .inr heq.symm
  · rw [if_neg hslot, Option.or_none]
    refine or_iff_left ?_
    rintro rfl
    exact hslot rfl

/-- From a store that holds earlier attempts, further ones have the results that are due. The store
gets the successful ones, in order, and holds them all. -/
theorem run_attemptAll {earlier : List Placed} (attempts : List Placed) {s : Session Store}
    (h : Holds earlier s.state) :
    ∃ results t, (attemptAll attempts).run s = .ok results t ∧
      results = (attempts.mapIdx fun i placed => verdict (earlier ++ attempts.take i) placed) ∧
      t.state.placed = s.state.placed ++ granted attempts results ∧
      Holds (earlier ++ attempts) t.state := by
  -- The invariant speaks of the earlier attempts, so each step moves one attempt over to them.
  induction attempts generalizing earlier s with
  | nil => exact ⟨[], s, rfl, rfl, (List.append_nil _).symm, by rwa [List.append_nil]⟩
  | cons next rest ih =>
    have hfurther (i : Nat) (placed : Placed) :
        verdict (earlier ++ [next] ++ rest.take i) placed =
          verdict (earlier ++ (next :: rest).take (i + 1)) placed := by
      rw [List.take_succ_cons, List.append_assoc, List.singleton_append]
    by_cases htaken : next.slot ∈ s.state.placed.map Placed.slot
    · have hverdict : verdict earlier next = .error next.duplicate :=
        verdict_of_mem ((h.taken_iff next.slot).mp htaken)
      obtain ⟨results, t, hrun, hresults, hplaced, hholds⟩ := ih (h.refused htaken)
      refine ⟨.error next.duplicate :: results, t, ?_, ?_, ?_, ?_⟩
      · simp only [attemptAll, EStateM.run_bind, run_attempt_of_taken htaken, hrun, EStateM.run_pure]
      · rw [List.mapIdx_cons, List.take_zero, List.append_nil, hverdict, hresults]
        simp only [hfurther]
      · rw [hplaced]
        rfl
      · rwa [List.append_assoc, List.singleton_append] at hholds
    · have hverdict : verdict earlier next = .ok () :=
        verdict_of_not_mem ((h.taken_iff next.slot).not.mp htaken)
      obtain ⟨u, hattempt, hstate⟩ := run_attempt_of_free htaken
      obtain ⟨results, t, hrun, hresults, hplaced, hholds⟩ := ih (h.inserted htaken hstate)
      refine ⟨.ok () :: results, t, ?_, ?_, ?_, ?_⟩
      · simp only [attemptAll, EStateM.run_bind, hattempt, hrun, EStateM.run_pure]
      · rw [List.mapIdx_cons, List.take_zero, List.append_nil, hverdict, hresults]
        simp only [hfurther]
      · rw [hplaced, hstate, List.append_assoc]
        rfl
      · rwa [List.append_assoc, List.singleton_append] at hholds

theorem Holds.mem_entriesFor_iff {attempts : List Placed} {store : Store} (h : Holds attempts store)
    (locale : String) (entry : Entry) :
    entry ∈ store.entriesFor locale ↔ first? attempts (locale, entry.key) = some ⟨locale, entry⟩ := by
  rw [mem_entriesFor]
  exact h ⟨locale, entry⟩

/-- After any attempts on the empty store, the first attempt for each place is in it, and all views agree
about that. One more insertion fails exactly if there was an attempt for its place; it then tells about
the new entry and leaves everything as it was. -/
theorem attempts_firstWins (attempts : List Placed) (events : List Event) :
    ∃ results t, (attemptAll attempts).run ⟨empty, events⟩ = .ok results t ∧
      FirstWins attempts results t.state ∧
      ∀ (next : Placed) failure u, (place next.locale next.entry).run t = .error failure u ↔
        next.slot ∈ attempts.map Placed.slot ∧
          failure = .duplicateKey next.entry.key next.entry.mark next.entry.className ∧ u = t := by
  obtain ⟨results, t, hrun, hresults, hplaced, hholds⟩ :=
    run_attemptAll attempts (s := ⟨empty, events⟩) holds_empty
  rw [List.nil_append] at hholds
  have hgranted : t.state.placed = granted attempts results := hplaced
  refine ⟨results, t, hrun, ⟨hresults, hholds.mem_entriesFor_iff, ascending_entriesFor t.state, ?_,
    ascending_locales t.state, contains_iff_mem_keys t.state, ?_,
    (sum_length_entriesFor t.state).symm⟩, ?_⟩
  · intro locale
    rw [mem_locales, hgranted]
  · rw [size, hgranted]
  · intro next failure u
    rw [run_place_eq_error_iff, hholds.taken_iff]
    rfl

end Store

end ResourceBundle
