import Mathlib.Data.List.Forall2
import ResourceBundle.Collection
import ResourceBundle.Proofs.ActionRuns

/-! # Contributions

A contribution is one text for one language, wherever it comes from. Adding it resolves the language,
then makes an entry and puts it in the place of its key. A pass over several contributions stops at the
first one that cannot be added and keeps those before it. -/

namespace ResourceBundle

theorem Locale.failure_of_resolve {language : Option String} {failure : Failure}
    (h : resolve language = .error failure) : ∃ tag, failure = .invalidLocale tag := by
  unfold resolve at h
  split at h
  · exact ⟨_, (Except.error.inj h).symm⟩
  · split at h
    · cases h
    · exact ⟨_, (Except.error.inj h).symm⟩

namespace Store

theorem run_place_of_ok {locale : String} {entry : Entry} {s : Session Store} {store : Store}
    (h : s.state.insert locale entry = .ok store) :
    (place locale entry).run s = .ok () ⟨store, s.events ++ [.stored entry.key locale]⟩ := by
  simp only [place, EStateM.run_bind, Action.run_getState, h, Action.run_ofExcept_ok,
    Action.run_setState, Action.run_record]

theorem run_place_of_error {locale : String} {entry : Entry} {s : Session Store} {failure : Failure}
    (h : s.state.insert locale entry = .error failure) :
    (place locale entry).run s = .error failure s := by
  simp only [place, EStateM.run_bind, Action.run_getState, h, Action.run_ofExcept_error]

end Store

/-- A text that is meant for the bundle of the locale that its language names. -/
structure Contribution where
  language : Option String
  key : String
  isMessage : Bool
  description : String
  text : String
  className : String
deriving DecidableEq, Repr

namespace Contribution

def entry (c : Contribution) (locale : String) : Except Failure Entry :=
  Entry.create c.key c.isMessage locale c.description c.text c.className

def add (c : Contribution) : Action Store Unit := do
  let locale ← Action.ofExcept (Locale.resolve c.language)
  let entry ← Action.ofExcept (c.entry locale)
  Store.place locale entry

def addAll : List Contribution → Action Store Unit
  | [] => pure ()
  | c :: rest => do
    c.add
    addAll rest

/-- Whether the contribution is to become this entry for this locale. -/
structure Gives (c : Contribution) (placed : Placed) : Prop where
  locale : Locale.resolve c.language = .ok placed.locale
  entry : c.entry placed.locale = .ok placed.entry

theorem Gives.unique {c : Contribution} {a b : Placed} (ha : c.Gives a) (hb : c.Gives b) : a = b := by
  obtain ⟨locale, entry⟩ := a
  obtain ⟨locale', entry'⟩ := b
  have hlocale : locale = locale' := Except.ok.inj (ha.locale.symm.trans hb.locale)
  subst hlocale
  have hentry : entry = entry' := Except.ok.inj (ha.entry.symm.trans hb.entry)
  rw [hentry]

/-- A contribution with a key can only fail for its language. -/
theorem gives_of_resolve {c : Contribution} (hkey : c.key ≠ "") {locale : String}
    (h : Locale.resolve c.language = .ok locale) : ∃ entry, c.Gives ⟨locale, entry⟩ := by
  have hentry : ∃ entry, c.entry locale = .ok entry := by
    unfold Contribution.entry Entry.create
    rw [dif_neg hkey]
    exact ⟨_, rfl⟩
  obtain ⟨entry, hentry⟩ := hentry
  exact ⟨entry, h, hentry⟩

/-- The content of the entry that a contribution becomes. -/
theorem Gives.content {c : Contribution} {placed : Placed} (h : c.Gives placed) :
    placed.entry.key = c.key ∧ placed.entry.isMessage = c.isMessage ∧
      placed.entry.locale = placed.locale ∧ placed.entry.description = c.description ∧
      placed.entry.text = String.ofList (Entry.singleLine c.text.toList) ∧
      placed.entry.className = c.className := by
  have hentry := h.entry
  unfold Contribution.entry Entry.create at hentry
  split at hentry
  · cases hentry
  · rw [← Except.ok.inj hentry]
    exact ⟨rfl, rfl, rfl, rfl, rfl, rfl⟩

theorem exists_gives_of_mem {cs : List Contribution} {placed : List Placed}
    (h : List.Forall₂ Gives cs placed) {c : Contribution} (hc : c ∈ cs) :
    ∃ p ∈ placed, c.Gives p := by
  induction h with
  | nil => cases hc
  | cons hfirst _ ih =>
    rcases List.mem_cons.mp hc with rfl | hc
    · exact ⟨_, List.mem_cons_self, hfirst⟩
    · obtain ⟨p, hp, hgives⟩ := ih hc
      exact ⟨p, List.mem_cons_of_mem _ hp, hgives⟩

theorem exists_given_of_mem {cs : List Contribution} {placed : List Placed}
    (h : List.Forall₂ Gives cs placed) {p : Placed} (hp : p ∈ placed) : ∃ c ∈ cs, c.Gives p := by
  induction h with
  | nil => cases hp
  | cons hfirst _ ih =>
    rcases List.mem_cons.mp hp with rfl | hp
    · exact ⟨_, List.mem_cons_self, hfirst⟩
    · obtain ⟨c, hc, hgives⟩ := ih hp
      exact ⟨c, List.mem_cons_of_mem _ hc, hgives⟩

/-- What adding a contribution can do: refuse its language, refuse its key, find its place taken, or
put its entry there. -/
theorem run_add_cases (c : Contribution) (s : Session Store) :
    (∃ failure, Locale.resolve c.language = .error failure ∧ c.add.run s = .error failure s) ∨
    (c.key = "" ∧ c.add.run s = .error .emptyEntryKey s) ∨
    (∃ placed, c.Gives placed ∧ s.state.contains placed.locale placed.entry.key = true ∧
      c.add.run s = .error
        (.duplicateKey placed.entry.key placed.entry.mark placed.entry.className) s) ∨
    (∃ placed store, c.Gives placed ∧ s.state.insert placed.locale placed.entry = .ok store ∧
      c.add.run s =
        .ok () ⟨store, s.events ++ [.stored placed.entry.key placed.locale]⟩) := by
  cases hlocale : Locale.resolve c.language with
  | error failure =>
    refine .inl ⟨failure, rfl, ?_⟩
    rw [add, EStateM.run_bind, hlocale, Action.run_ofExcept_error]
  | ok locale =>
    refine .inr ?_
    by_cases hkey : c.key = ""
    · refine .inl ⟨hkey, ?_⟩
      have hentry : c.entry locale = .error .emptyEntryKey := dif_pos hkey
      simp only [add, EStateM.run_bind, hlocale, Action.run_ofExcept_ok, hentry,
        Action.run_ofExcept_error]
    · obtain ⟨entry, hgives⟩ := gives_of_resolve hkey hlocale
      refine .inr ?_
      cases hinsert : s.state.insert locale entry with
      | error failure =>
        obtain ⟨hcontains, rfl⟩ := Store.insert_eq_error_iff.mp hinsert
        refine .inl ⟨_, hgives, hcontains, ?_⟩
        simp only [add, EStateM.run_bind, hlocale, Action.run_ofExcept_ok, hgives.entry,
          Store.run_place_of_error hinsert]
      | ok store =>
        refine .inr ⟨_, store, hgives, hinsert, ?_⟩
        simp only [add, EStateM.run_bind, hlocale, Action.run_ofExcept_ok, hgives.entry,
          Store.run_place_of_ok hinsert]

theorem run_add_eq_ok_iff {c : Contribution} {s t : Session Store} :
    c.add.run s = .ok () t ↔ ∃ placed, c.Gives placed ∧
      s.state.insert placed.locale placed.entry = .ok t.state ∧
      t.events = s.events ++ [.stored placed.entry.key placed.locale] := by
  constructor
  · intro h
    rcases run_add_cases c s with ⟨_, _, hrun⟩ | ⟨_, hrun⟩ | ⟨_, _, _, hrun⟩ |
      ⟨placed, store, hgives, hinsert, hrun⟩
    · rw [hrun] at h
      cases h
    · rw [hrun] at h
      cases h
    · rw [hrun] at h
      cases h
    · rw [hrun] at h
      cases h
      exact ⟨placed, hgives, hinsert, rfl⟩
  · rintro ⟨placed, hgives, hinsert, hevents⟩
    rcases run_add_cases c s with ⟨_, herror, _⟩ | ⟨hkey, _⟩ | ⟨other, hother, hcontains, _⟩ |
      ⟨other, store, hother, hinsert', hrun⟩
    · rw [hgives.locale] at herror
      cases herror
    · exact absurd (hgives.content.1.trans hkey) placed.entry.key_ne_empty
    · rw [hother.unique hgives] at hcontains
      have hfree := (Store.insert_eq_ok_iff.mp hinsert).1
      rw [hcontains] at hfree
      cases hfree
    · rw [hother.unique hgives] at hinsert' hrun
      rw [hrun, Except.ok.inj (hinsert'.symm.trans hinsert), ← hevents]

theorem addAll_append (cs ds : List Contribution) :
    addAll (cs ++ ds) = (do addAll cs; addAll ds) := by
  induction cs with
  | nil => rw [List.nil_append, addAll, pure_bind]
  | cons c cs ih => rw [List.cons_append, addAll, addAll, ih, bind_assoc]

/-- A pass that succeeds puts one entry for each contribution, in order, behind those that are there. -/
theorem placed_of_run_addAll {cs : List Contribution} {s t : Session Store}
    (h : (addAll cs).run s = .ok () t) :
    ∃ placed, List.Forall₂ Gives cs placed ∧ t.state.placed = s.state.placed ++ placed := by
  induction cs generalizing s with
  | nil =>
    cases h
    exact ⟨[], .nil, (List.append_nil _).symm⟩
  | cons c cs ih =>
    obtain ⟨_, u, hadd, hrest⟩ := Action.run_bind_eq_ok_iff.mp h
    obtain ⟨placed, hgives, hinsert, _⟩ := run_add_eq_ok_iff.mp hadd
    obtain ⟨further, hfurther, hplaced⟩ := ih hrest
    refine ⟨placed :: further, .cons hgives hfurther, ?_⟩
    rw [hplaced, (Store.insert_eq_ok_iff.mp hinsert).2, List.append_assoc]
    rfl

/-- A pass succeeds if every contribution gives an entry and all places are different. -/
theorem run_addAll_of_gives {cs : List Contribution} {placed : List Placed}
    (hgives : List.Forall₂ Gives cs placed) {s : Session Store}
    (hnodup : ((s.state.placed ++ placed).map Placed.slot).Nodup) :
    ∃ t, (addAll cs).run s = .ok () t ∧ t.state.placed = s.state.placed ++ placed := by
  induction hgives generalizing s with
  | nil => exact ⟨s, rfl, (List.append_nil _).symm⟩
  | @cons c first cs further hfirst _ ih =>
    have hfree : s.state.contains first.locale first.entry.key = false := by
      rw [← Bool.not_eq_true, Store.contains_iff]
      intro htaken
      rw [List.map_append, List.nodup_append] at hnodup
      exact hnodup.2.2 _ htaken _ List.mem_cons_self rfl
    cases hinsert : s.state.insert first.locale first.entry with
    | error failure =>
      obtain ⟨htaken, _⟩ := Store.insert_eq_error_iff.mp hinsert
      rw [hfree] at htaken
      cases htaken
    | ok store =>
      have hadd : c.add.run s = .ok () ⟨store, _⟩ := run_add_eq_ok_iff.mpr ⟨first, hfirst, hinsert, rfl⟩
      have hplaced : store.placed ++ further = s.state.placed ++ first :: further := by
        rw [(Store.insert_eq_ok_iff.mp hinsert).2, List.append_assoc]
        rfl
      rw [← hplaced] at hnodup
      obtain ⟨t, hrest, ht⟩ := ih (s := ⟨store, _⟩) hnodup
      exact ⟨t, Action.run_bind_eq_ok_iff.mpr ⟨(), _, hadd, hrest⟩, ht.trans hplaced⟩

theorem size_of_run_addAll {cs : List Contribution} {s t : Session Store}
    (h : (addAll cs).run s = .ok () t) : t.state.size = s.state.size + cs.length := by
  obtain ⟨placed, hgives, hplaced⟩ := placed_of_run_addAll h
  rw [Store.size, Store.size, hplaced, List.length_append, hgives.length_eq]

/-- Why a contribution cannot be added: its language names no locale, or its place is taken. -/
inductive Refused (c : Contribution) (store : Store) : Failure → Prop
  | language {tag : String} :
    Locale.resolve c.language = .error (.invalidLocale tag) → Refused c store (.invalidLocale tag)
  | place {placed : Placed} :
    c.Gives placed → store.contains placed.locale placed.entry.key = true →
    Refused c store (.duplicateKey placed.entry.key placed.entry.mark placed.entry.className)

/-- A pass over contributions with keys that fails keeps the entries of those before the one that is
refused. -/
theorem refused_of_run_addAll {cs : List Contribution} (hkeys : ∀ c ∈ cs, c.key ≠ "")
    {s t : Session Store} {failure : Failure} (h : (addAll cs).run s = .error failure t) :
    ∃ before c after placed, cs = before ++ c :: after ∧ List.Forall₂ Gives before placed ∧
      t.state.placed = s.state.placed ++ placed ∧ c.Refused t.state failure := by
  induction cs generalizing s with
  | nil => cases h
  | cons c cs ih =>
    obtain ⟨hkey, hkeys⟩ := List.forall_mem_cons.mp hkeys
    rw [addAll, EStateM.run_bind] at h
    rcases run_add_cases c s with ⟨other, hlocale, hrun⟩ | ⟨hempty, _⟩ |
      ⟨placed, hgives, hcontains, hrun⟩ | ⟨placed, store, hgives, hinsert, hrun⟩
    · rw [hrun] at h
      cases h
      obtain ⟨tag, rfl⟩ := Locale.failure_of_resolve hlocale
      exact ⟨[], c, cs, [], rfl, .nil, (List.append_nil _).symm, .language hlocale⟩
    · exact absurd hempty hkey
    · rw [hrun] at h
      cases h
      exact ⟨[], c, cs, [], rfl, .nil, (List.append_nil _).symm, .place hgives hcontains⟩
    · rw [hrun] at h
      obtain ⟨before, d, after, further, rfl, hbefore, hplaced, hrefused⟩ := ih hkeys h
      refine ⟨c :: before, d, after, placed :: further, rfl, .cons hgives hbefore, ?_, hrefused⟩
      rw [hplaced, (Store.insert_eq_ok_iff.mp hinsert).2, List.append_assoc]
      rfl

end Contribution

end ResourceBundle
