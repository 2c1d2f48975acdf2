import ResourceBundle.Entry

/-! # The store of entries

Entries are grouped by the locale they are inserted for, which need not be their own; within a locale
the first entry of a key stays. All views are sorted by code point. -/

namespace ResourceBundle

/-- An entry together with the locale it was inserted for. -/
structure Placed where
  locale : String
  entry : Entry
deriving DecidableEq

/-- The place of an entry: a key within a locale. -/
def Placed.slot (placed : Placed) : String × String := (placed.locale, placed.entry.key)

/-- Entries in order of insertion, each in a place of its own. -/
structure Store where
  placed : List Placed
  slots_distinct : (placed.map Placed.slot).Nodup
deriving DecidableEq

namespace Store

def empty : Store := ⟨[], by simp⟩

def contains (store : Store) (locale key : String) : Bool :=
  (store.placed.map Placed.slot).contains (locale, key)

/-- Adds an entry at the place of its key; a place that is taken is refused. -/
def insert (store : Store) (locale : String) (entry : Entry) : Except Failure Store :=
  if h : (locale, entry.key) ∈ store.placed.map Placed.slot then
    .error (.duplicateKey entry.key entry.mark entry.className)
  else
    .ok ⟨store.placed ++ [⟨locale, entry⟩], by
      rw [List.map_append, List.nodup_append]
      refine ⟨store.slots_distinct, by simp, ?_⟩
      intro slot hslot other hother
      simp only [List.map_cons, List.map_nil, List.mem_singleton] at hother
      subst hother
      intro heq
      subst heq
      exact h hslot⟩

theorem contains_iff {store : Store} {locale key : String} :
    store.contains locale key = true ↔ (locale, key) ∈ store.placed.map Placed.slot := by
  simp [contains]

/-- A place is refused exactly if it is taken. -/
theorem insert_eq_error_iff {store : Store} {locale : String} {entry : Entry} {failure : Failure} :
    store.insert locale entry = .error failure ↔
      store.contains locale entry.key = true ∧
        failure = .duplicateKey entry.key entry.mark entry.className := by
  rw [contains_iff]
  unfold insert
  split
  · rename_i h
    simp only [h, true_and, Except.error.injEq]
    exact eq_comm
  · simp [*]

/-- A place that is free is filled, after all entries that are there. -/
theorem insert_eq_ok_iff {store after : Store} {locale : String} {entry : Entry} :
    store.insert locale entry = .ok after ↔
      store.contains locale entry.key = false ∧ after.placed = store.placed ++ [⟨locale, entry⟩] := by
  cases after
  rw [← Bool.not_eq_true, contains_iff]
  unfold insert
  split
  · simp [*]
  · simp [*, eq_comm]

def size (store : Store) : Nat := store.placed.length

/-- The entries of a locale, sorted by key. -/
def entriesFor (store : Store) (locale : String) : List Entry :=
  ((store.placed.filter (·.locale == locale)).map (·.entry)).mergeSort fun a b => decide (a.key ≤ b.key)

@[simp] theorem mem_entriesFor {store : Store} {locale : String} {entry : Entry} :
    entry ∈ store.entriesFor locale ↔ ⟨locale, entry⟩ ∈ store.placed := by
  simp only [entriesFor, List.mem_mergeSort, List.mem_map, List.mem_filter, beq_iff_eq]
  constructor
  · rintro ⟨⟨_, _⟩, ⟨hmem, rfl⟩, rfl⟩
    exact hmem
  · exact fun hmem => ⟨_, ⟨hmem, rfl⟩, rfl⟩

/-- The locales with at least one entry, sorted. -/
def locales (store : Store) : List String :=
  ((store.placed.map (·.locale)).mergeSort fun a b => decide (a ≤ b)).eraseDups

@[simp] theorem mem_locales {store : Store} {locale : String} :
    locale ∈ store.locales ↔ ∃ placed ∈ store.placed, placed.locale = locale := by
  simp [locales, List.mem_eraseDups]

end Store

end ResourceBundle
