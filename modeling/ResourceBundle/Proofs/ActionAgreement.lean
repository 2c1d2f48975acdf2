import ResourceBundle.Proofs.ActionRuns

/-! # Agreement of actions

Two actions on different states agree if from related states both succeed, with related values and
related states, or both fail. The events and the failures themselves are not compared. -/

namespace ResourceBundle.Action

variable {σ τ σ' τ' α β γ δ : Type}

/-- Whether two outcomes are related: both values with their states, or both failures. -/
def Related (S : σ → τ → Prop) (R : α → β → Prop) :
    EStateM.Result Failure (Session σ) α → EStateM.Result Failure (Session τ) β → Prop
  | .ok a s, .ok b t => R a b ∧ S s.state t.state
  | .error _ _, .error _ _ => True
  | _, _ => False

/-- Whether two actions have related outcomes from related states. -/
structure Agree (S : σ → τ → Prop) (R : α → β → Prop) (x : Action σ α) (y : Action τ β) : Prop where
  related : ∀ s t, S s.state t.state → Related S R (x.run s) (y.run t)

variable {S : σ → τ → Prop} {P : σ' → τ' → Prop} {R : α → β → Prop} {Q : γ → δ → Prop}

theorem Related.ok_or_error {r : EStateM.Result Failure (Session σ) α}
    {q : EStateM.Result Failure (Session τ) β} (h : Related S R r q) :
    (∃ a s b t, r = .ok a s ∧ q = .ok b t ∧ R a b ∧ S s.state t.state) ∨
      ∃ failure s other t, r = .error failure s ∧ q = .error other t := by
  cases r with
  | ok a s =>
    cases q with
    | ok b t => exact .inl ⟨a, s, b, t, rfl, rfl, h⟩
    | error failure t => cases h
  | error failure s =>
    cases q with
    | ok b t => cases h
    | error other t => exact .inr ⟨failure, s, other, t, rfl, rfl⟩

namespace Agree

theorem symm {x : Action σ α} {y : Action τ β} (h : Agree S R x y) :
    Agree (fun t s => S s t) (fun b a => R a b) y x := by
  refine ⟨fun t s hs => ?_⟩
  rcases (h.related s t hs).ok_or_error with
    ⟨_, _, _, _, hx, hy, houtcome⟩ | ⟨_, _, _, _, hx, hy⟩
  · rw [hx, hy]
    exact houtcome
  · rw [hx, hy]
    trivial

theorem run_ok {x : Action σ α} {y : Action τ β} (h : Agree S R x y) {s s' : Session σ}
    {t : Session τ} (hs : S s.state t.state) {a : α} (hx : x.run s = .ok a s') :
    ∃ b t', y.run t = .ok b t' ∧ R a b ∧ S s'.state t'.state := by
  rcases (h.related s t hs).ok_or_error with
    ⟨_, _, b, t', hok, hy, hab, hs'⟩ | ⟨_, _, _, _, herror, _⟩
  · cases hx.symm.trans hok
    exact ⟨b, t', hy, hab, hs'⟩
  · cases hx.symm.trans herror

theorem run_error {x : Action σ α} {y : Action τ β} (h : Agree S R x y) {s s' : Session σ}
    {t : Session τ} (hs : S s.state t.state) {failure : Failure}
    (hx : x.run s = .error failure s') : ∃ other t', y.run t = .error other t' := by
  rcases (h.related s t hs).ok_or_error with ⟨_, _, _, _, hok, _⟩ | ⟨_, _, other, t', _, hy⟩
  · cases hx.symm.trans hok
  · exact ⟨other, t', hy⟩

/-- Actions that agree on their values give the same ones. -/
theorem exists_ok_iff {x : Action σ α} {y : Action τ α} (h : Agree S Eq x y) {s : Session σ}
    {t : Session τ} (hs : S s.state t.state) (a : α) :
    (∃ s', x.run s = .ok a s') ↔ ∃ t', y.run t = .ok a t' := by
  constructor
  · rintro ⟨s', hx⟩
    obtain ⟨_, t', hy, rfl, _⟩ := h.run_ok hs hx
    exact ⟨t', hy⟩
  · rintro ⟨t', hy⟩
    obtain ⟨_, s', hx, rfl, _⟩ := h.symm.run_ok hs hy
    exact ⟨s', hx⟩

theorem exists_error_iff {x : Action σ α} {y : Action τ β} (h : Agree S R x y) {s : Session σ}
    {t : Session τ} (hs : S s.state t.state) :
    (∃ failure s', x.run s = .error failure s') ↔ ∃ failure t', y.run t = .error failure t' := by
  constructor
  · rintro ⟨failure, s', hx⟩
    exact h.run_error hs hx
  · rintro ⟨failure, t', hy⟩
    exact h.symm.run_error hs hy

theorem pure {a : α} {b : β} (h : R a b) : Agree S R (pure a) (pure b) :=
  ⟨fun _ _ hs => ⟨h, hs⟩⟩

theorem throw (failure other : Failure) : Agree S R (throw failure) (throw other) :=
  ⟨fun _ _ _ => trivial⟩

theorem fail (failure other : Failure) (subject about : Subject) :
    Agree S R (fail failure subject) (fail other about) :=
  ⟨fun _ _ _ => trivial⟩

theorem record (event other : Event) : Agree S Eq (record event) (record other) :=
  ⟨fun _ _ hs => ⟨rfl, hs⟩⟩

theorem note (text other : String) : Agree S Eq (note text) (note other) :=
  ⟨fun _ _ hs => ⟨rfl, hs⟩⟩

theorem getState : Agree S S getState getState :=
  ⟨fun _ _ hs => ⟨hs, hs⟩⟩

theorem ofExcept (result : Except Failure α) :
    Agree S Eq (ofExcept result) (ofExcept result) := by
  cases result with
  | ok a => exact Agree.pure rfl
  | error failure => exact Agree.throw failure failure

theorem bind {x : Action σ γ} {y : Action τ δ} {f : γ → Action σ α} {g : δ → Action τ β}
    (h : Agree S Q x y) (hnext : ∀ c d, Q c d → Agree S R (f c) (g d)) :
    Agree S R (x >>= f) (y >>= g) := by
  refine ⟨fun s t hs => ?_⟩
  rw [EStateM.run_bind, EStateM.run_bind]
  rcases (h.related s t hs).ok_or_error with
    ⟨c, s', d, t', hx, hy, hcd, hs'⟩ | ⟨failure, s', other, t', hx, hy⟩
  · rw [hx, hy]
    exact (hnext c d hcd).related s' t' hs'
  · rw [hx, hy]
    trivial

/-- A first part whose value does not matter. -/
theorem seq {x : Action σ γ} {y : Action τ γ} {f : Action σ α} {g : Action τ β}
    (h : Agree S Eq x y) (hnext : Agree S R f g) :
    Agree S R (x >>= fun _ => f) (y >>= fun _ => g) :=
  h.bind fun _ _ _ => hnext

/-- Handlers that fail again leave an agreement as it is. -/
theorem tryCatch {x : Action σ α} {y : Action τ β} {f : Failure → Action σ α}
    {g : Failure → Action τ β} (h : Agree S R x y)
    (hf : ∀ failure s, ∃ other t, (f failure).run s = .error other t)
    (hg : ∀ failure s, ∃ other t, (g failure).run s = .error other t) :
    Agree S R (tryCatch x f) (tryCatch y g) := by
  refine ⟨fun s t hs => ?_⟩
  rw [run_tryCatch, run_tryCatch]
  rcases (h.related s t hs).ok_or_error with
    ⟨a, s', b, t', hx, hy, hab, hs'⟩ | ⟨failure, s', other, t', hx, hy⟩
  · rw [hx, hy]
    exact ⟨hab, hs'⟩
  · obtain ⟨_, _, hfail⟩ := hf failure s'
    obtain ⟨_, _, hfail'⟩ := hg other t'
    simp only [hx, hy, hfail, hfail']
    trivial

theorem reporting {x : Action σ α} {y : Action τ β} (h : Agree S R x y)
    (subject about : Subject) : Agree S R (reporting subject x) (reporting about y) :=
  h.tryCatch (fun _ _ => ⟨_, _, rfl⟩) (fun _ _ => ⟨_, _, rfl⟩)

theorem within {x : Action σ' α} {y : Action τ' β} {a : σ'} {b : τ'} (h : Agree P R x y)
    (hstart : P a b) :
    Agree S (fun p q => R p.1 q.1 ∧ P p.2 q.2) (within a x) (within b y) := by
  refine ⟨fun s t hs => ?_⟩
  rw [run_within, run_within]
  rcases (h.related ⟨a, s.events⟩ ⟨b, t.events⟩ hstart).ok_or_error with
    ⟨c, s', d, t', hx, hy, hcd, hs'⟩ | ⟨failure, s', other, t', hx, hy⟩
  · rw [hx, hy]
    exact ⟨⟨hcd, hs'⟩, hs⟩
  · rw [hx, hy]
    trivial

theorem zoom {part : σ → σ'} {withPart : σ' → σ → σ} {part' : τ → τ'} {withPart' : τ' → τ → τ}
    {x : Action σ' α} {y : Action τ' β} (h : Agree P R x y)
    (hpart : ∀ a b, S a b → P (part a) (part' b))
    (hwith : ∀ a b c d, S a b → P c d → S (withPart c a) (withPart' d b)) :
    Agree S R (zoom part withPart x) (zoom part' withPart' y) := by
  refine ⟨fun s t hs => ?_⟩
  rw [run_zoom, run_zoom]
  rcases (h.related ⟨part s.state, s.events⟩ ⟨part' t.state, t.events⟩ (hpart _ _ hs)).ok_or_error with
    ⟨a, s', b, t', hx, hy, hab, hs'⟩ | ⟨failure, s', other, t', hx, hy⟩
  · rw [hx, hy]
    exact ⟨hab, hwith _ _ _ _ hs hs'⟩
  · rw [hx, hy]
    trivial

end Agree

end ResourceBundle.Action
