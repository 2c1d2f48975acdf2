import Mathlib.Data.List.Perm.Basic
import ResourceBundle.Proofs.CollectionSteps
import ResourceBundle.Proofs.MergeAgreement
import ResourceBundle.Proofs.Recording

/-! # When two rounds are processed alike

Rounds with the same contributions, in whatever order, are collected into stores with the same entries,
or fail in both. If moreover the bundles are taken by both sinks or refused by both, the whole
processing agrees. -/

namespace ResourceBundle

open ResourceBundle.Action (Agree)

variable {σ τ ρ π : Type} {S : σ → τ → Prop}

namespace Contribution

/-- A pass that succeeds also succeeds in another order, with the same entries. -/
theorem run_addAll_of_perm {cs ds : List Contribution} (h : cs.Perm ds) {s t s' : Session Store}
    (hs : s.state.SameEntries t.state) (hrun : (addAll cs).run s = .ok () s') :
    ∃ t', (addAll ds).run t = .ok () t' ∧ s'.state.SameEntries t'.state := by
  obtain ⟨placed, hgives, hplaced⟩ := placed_of_run_addAll hrun
  -- The other order gives the same entries, so their places are still different.
  obtain ⟨other, hgives', hother⟩ := List.perm_comp_forall₂ h.symm hgives
  have hsame : (t.state.placed ++ other).Perm s'.state.placed := by
    rw [hplaced]
    exact (List.Perm.symm hs).append hother
  have hnodup : ((t.state.placed ++ other).map Placed.slot).Nodup :=
    (hsame.map Placed.slot).nodup_iff.mpr s'.state.slots_distinct
  obtain ⟨t', hrun', hplaced'⟩ := run_addAll_of_gives hgives' hnodup
  refine ⟨t', hrun', ?_⟩
  rw [Store.SameEntries, hplaced']
  exact hsame.symm

end Contribution

theorem Collection.collectAll_agree (messagePrefix : String) {elements others : List Element}
    (hcollectable : (∀ element ∈ elements, element.Collectable) ↔
      ∀ element ∈ others, element.Collectable)
    (hperm : (elements.flatMap (·.contributions messagePrefix)).Perm
      (others.flatMap (·.contributions messagePrefix))) :
    Agree Store.SameEntries Eq (collectAll messagePrefix elements)
      (collectAll messagePrefix others) := by
  refine ⟨fun s t hs => ?_⟩
  cases hrun : (collectAll messagePrefix elements).run s with
  | ok _ s' =>
    obtain ⟨hdemands, hadd⟩ := run_collectAll_eq_ok_iff.mp hrun
    obtain ⟨t', hadd', hsame⟩ := Contribution.run_addAll_of_perm hperm hs hadd
    rw [run_collectAll_eq_ok_iff.mpr ⟨hcollectable.mp hdemands, hadd'⟩]
    exact ⟨rfl, hsame⟩
  | error failure s' =>
    cases hrun' : (collectAll messagePrefix others).run t with
    | error other t' => trivial
    | ok _ t' =>
      obtain ⟨hdemands, hadd⟩ := run_collectAll_eq_ok_iff.mp hrun'
      obtain ⟨u, hadd', _⟩ := Contribution.run_addAll_of_perm hperm.symm (List.Perm.symm hs) hadd
      rw [run_collectAll_eq_ok_iff.mpr ⟨hcollectable.mpr hdemands, hadd'⟩] at hrun
      cases hrun

def Processor.withSink (processor : Processor σ ρ) (sink : Sink τ π) : Processor τ π :=
  ⟨processor.settings, processor.homes, processor.sourceRoots, sink⟩

namespace Processing

theorem collect_agree (messagePrefix : String) {elements others : List Element}
    (hcollectable : (∀ element ∈ elements, element.Collectable) ↔
      ∀ element ∈ others, element.Collectable)
    (hperm : (elements.flatMap (·.contributions messagePrefix)).Perm
      (others.flatMap (·.contributions messagePrefix))) :
    Agree S Store.SameEntries (collect messagePrefix elements) (collect messagePrefix others) := by
  have hcollectAll := Collection.collectAll_agree messagePrefix hcollectable hperm
  have hempty : Store.empty.SameEntries Store.empty := List.Perm.refl _
  unfold collect
  refine (hcollectAll.within hempty).bind ?_
  rintro ⟨_, store⟩ ⟨_, store'⟩ ⟨_, hsame⟩
  exact (Agree.record _ _).seq (.pure hsame)

/-- What two rounds must have in common to be processed alike. -/
structure Alike (settings : Settings) (round other : Round) : Prop where
  due : isDue round = isDue other
  configuration : configure settings round = configure settings other
  folder : providedFolder round = providedFolder other
  collectable : (∀ element ∈ round.markedElements, element.Collectable) ↔
    ∀ element ∈ other.markedElements, element.Collectable
  contributions (messagePrefix : String) :
    (round.markedElements.flatMap (·.contributions messagePrefix)).Perm
      (other.markedElements.flatMap (·.contributions messagePrefix))

theorem Alike.refl (settings : Settings) (round : Round) : Alike settings round round :=
  ⟨rfl, rfl, rfl, .rfl, fun _ => .refl _⟩

/-- Rounds that are alike are processed alike, as far as the bundles are generated alike. -/
theorem process_agree {processor : Processor σ ρ} {sink : Sink τ π} (files : LinkedTree)
    {round other : Round} (halike : Alike processor.settings round other)
    (hgenerate : ∀ configuration {a b : Store}, a.SameEntries b → Agree S (fun _ _ => True)
      (Generation.generate configuration processor.sink Output.all a round.markedElements)
      (Generation.generate configuration sink Output.all b other.markedElements)) :
    Agree S Eq (process processor files round) (process (processor.withSink sink) files other) := by
  unfold process
  refine (Agree.note _ _).seq ?_
  rw [halike.due]
  split
  · rw [halike.configuration, halike.folder]
    refine ((Agree.ofExcept _).reporting _ _).bind ?_
    rintro configuration _ rfl
    refine (collect_agree _ halike.collectable (halike.contributions _)).bind ?_
    intro a b hsame
    refine ((Agree.ofExcept _).reporting _ _).bind ?_
    rintro provided _ rfl
    refine (Agree.note _ _).seq ((Lookup.locate_agree ..).bind ?_)
    rintro found _ rfl
    refine (mergeFound_agree files found hsame).bind ?_
    intro a b hsame
    exact (hgenerate configuration hsame).bind fun _ _ _ => .pure rfl
  · exact .pure rfl

end Processing

end ResourceBundle
