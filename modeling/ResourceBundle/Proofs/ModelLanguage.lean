import Mathlib.Computability.Language
import ResourceBundle.Xml.Model

/-! # The language of a content model

A content model stands for a language of sequences of names, built from unions, concatenations and
closures. Matching by derivatives decides this language. -/

namespace ResourceBundle.Xml.Model

open scoped Computability

variable {α : Type}

def language : Model α → Language α
  | never => 0
  | empty => 1
  | symbol a => {[a]}
  | sequence first second => first.language * second.language
  | choice first second => first.language + second.language
  | star body => body.language∗

theorem language_never : (never : Model α).language = 0 := rfl

theorem language_empty : (empty : Model α).language = 1 := rfl

@[simp] theorem mem_language_never (word : List α) : word ∈ language (never : Model α) ↔ False := .rfl

@[simp] theorem mem_language_empty (word : List α) : word ∈ language (empty : Model α) ↔ word = [] := .rfl

@[simp] theorem mem_language_symbol (a : α) (word : List α) :
    word ∈ language (symbol a) ↔ word = [a] := .rfl

@[simp] theorem mem_language_choice (first second : Model α) (word : List α) :
    word ∈ language (choice first second) ↔ word ∈ first.language ∨ word ∈ second.language := .rfl

theorem mem_language_sequence (first second : Model α) (word : List α) :
    word ∈ language (sequence first second) ↔
      ∃ before ∈ first.language, ∃ after ∈ second.language, before ++ after = word :=
  Language.mem_mul

theorem nil_mem_language_sequence (first second : Model α) :
    [] ∈ language (sequence first second) ↔ [] ∈ first.language ∧ [] ∈ second.language := by
  rw [mem_language_sequence]
  constructor
  · rintro ⟨before, hbefore, after, hafter, heq⟩
    obtain ⟨rfl, rfl⟩ := List.append_eq_nil_iff.mp heq
    exact ⟨hbefore, hafter⟩
  · rintro ⟨hfirst, hsecond⟩
    exact ⟨[], hfirst, [], hsecond, rfl⟩

theorem nullable_iff (model : Model α) : model.nullable = true ↔ [] ∈ model.language := by
  induction model with
  | never => simp [nullable]
  | empty => simp [nullable]
  | symbol a => simp [nullable]
  | sequence first second ihfirst ihsecond =>
    rw [nil_mem_language_sequence, ← ihfirst, ← ihsecond, nullable, Bool.and_eq_true]
  | choice first second ihfirst ihsecond =>
    rw [mem_language_choice, ← ihfirst, ← ihsecond, nullable, Bool.or_eq_true]
  | star body ih => simp [nullable, language, Language.nil_mem_kstar]

theorem cons_mem_language_sequence (first second : Model α) (a : α) (word : List α) :
    a :: word ∈ language (sequence first second) ↔
      (∃ before, a :: before ∈ first.language ∧ ∃ after ∈ second.language, before ++ after = word) ∨
      ([] ∈ first.language ∧ a :: word ∈ second.language) := by
  rw [mem_language_sequence]
  constructor
  · rintro ⟨before, hbefore, after, hafter, heq⟩
    cases before with
    | nil => exact .inr ⟨hbefore, heq ▸ hafter⟩
    | cons b before =>
      obtain ⟨rfl, hword⟩ := List.cons.inj heq
      exact .inl ⟨before, hbefore, after, hafter, hword⟩
  · rintro (⟨before, hbefore, after, hafter, rfl⟩ | ⟨hnil, hword⟩)
    · exact ⟨a :: before, hbefore, after, hafter, rfl⟩
    · exact ⟨[], hnil, a :: word, hword, rfl⟩

theorem cons_mem_language_star (body : Model α) (a : α) (word : List α) :
    a :: word ∈ language (star body) ↔
      ∃ before, a :: before ∈ body.language ∧ ∃ after ∈ language (star body), before ++ after = word := by
  constructor
  · intro h
    obtain ⟨chunks, hword, hchunks⟩ := Language.mem_kstar_iff_exists_nonempty.mp h
    cases chunks with
    | nil => cases hword
    | cons first rest =>
      obtain ⟨hfirst, hne⟩ := hchunks first List.mem_cons_self
      obtain ⟨b, before, rfl⟩ := List.exists_cons_of_ne_nil hne
      obtain ⟨rfl, hrest⟩ := List.cons.inj hword
      refine ⟨before, hfirst, rest.flatten, ?_, hrest.symm⟩
      exact Language.join_mem_kstar fun chunk hchunk => (hchunks chunk (List.mem_cons_of_mem _ hchunk)).1
  · rintro ⟨before, hbefore, after, hafter, rfl⟩
    obtain ⟨chunks, rfl, hchunks⟩ := Language.mem_kstar.mp hafter
    refine Language.mem_kstar.mpr ⟨(a :: before) :: chunks, rfl, ?_⟩
    exact List.forall_mem_cons.mpr ⟨hbefore, hchunks⟩

/-- The derivative by a name stands for what may follow after this name. -/
theorem mem_derivative_iff [DecidableEq α] (a : α) (model : Model α) (word : List α) :
    word ∈ (model.derivative a).language ↔ a :: word ∈ model.language := by
  induction model generalizing word with
  | never => exact .rfl
  | empty => simp [derivative]
  | symbol b =>
    rw [derivative]
    split
    · simp [*]
    · simp [*]
  | choice first second ihfirst ihsecond =>
    rw [derivative, mem_language_choice, mem_language_choice, ihfirst, ihsecond]
  | sequence first second ihfirst ihsecond =>
    have hbefore : word ∈ language (sequence (first.derivative a) second) ↔
        ∃ before, a :: before ∈ first.language ∧ ∃ after ∈ second.language, before ++ after = word := by
      simp only [mem_language_sequence, ihfirst]
    rw [cons_mem_language_sequence, derivative, ← nullable_iff]
    split
    · rename_i hnullable
      rw [mem_language_choice, hbefore, ihsecond]
      simp only [hnullable, true_and]
    · rename_i hnullable
      rw [hbefore, Bool.eq_false_of_not_eq_true hnullable]
      simp only [Bool.false_eq_true, false_and, or_false]
  | star body ih =>
    rw [cons_mem_language_star, derivative, mem_language_sequence]
    simp only [ih]

theorem language_simplify (model : Model α) : model.simplify.language = model.language := by
  induction model with
  | sequence first second ihfirst ihsecond =>
    rw [language, ← ihfirst, ← ihsecond, simplify]
    split
    · rename_i hfirst
      rw [hfirst, language_never, zero_mul]
    · rename_i hsecond _
      rw [hsecond, language_never, mul_zero]
    · rename_i hfirst _
      rw [hfirst, language_empty, one_mul]
    · rfl
  | choice first second ihfirst ihsecond =>
    rw [language, ← ihfirst, ← ihsecond, simplify]
    split
    · rename_i hfirst
      rw [hfirst, language_never, zero_add]
    · rename_i hsecond _
      rw [hsecond, language_never, add_zero]
    · rfl
  | _ => rfl

/-- Matching decides the language of the model. -/
theorem isMatch_iff [DecidableEq α] (model : Model α) (word : List α) :
    model.isMatch word = true ↔ word ∈ model.language := by
  induction word generalizing model with
  | nil => exact nullable_iff model
  | cons a word ih => rw [isMatch, ih, language_simplify, mem_derivative_iff]

theorem mem_language_star_symbol {a : α} {word : List α} :
    word ∈ language (star (symbol a)) ↔ ∀ b ∈ word, b = a := by
  induction word with
  | nil => simp [language, Language.nil_mem_kstar]
  | cons b word ih =>
    rw [cons_mem_language_star, List.forall_mem_cons, ← ih]
    constructor
    · rintro ⟨before, hbefore, after, hafter, rfl⟩
      obtain ⟨rfl, rfl⟩ := List.cons.inj hbefore
      exact ⟨rfl, hafter⟩
    · rintro ⟨rfl, hword⟩
      exact ⟨[], rfl, word, hword, rfl⟩

theorem mem_language_optional {body : Model α} {word : List α} :
    word ∈ language (optional body) ↔ word = [] ∨ word ∈ body.language := .rfl

end ResourceBundle.Xml.Model
