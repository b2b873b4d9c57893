import Mathlib.Data.List.Forall2

/-!
What a computation that ended well says about its steps: each of them ended well too. A fold that
may fail keeps what its steps keep, and gathers what they gather.
-/

namespace ApiCall

universe u v w

variable {ε : Type u} {α β : Type v} {σ : Type v}

theorem bind_eq_ok {x : Except ε α} {f : α → Except ε β} {b : β} :
    (x >>= f) = .ok b ↔ ∃ a, x = .ok a ∧ f a = .ok b := by
  cases x <;> simp [bind, Except.bind]

/-- A computation that may give up first ends well if it does not give up. -/
theorem guard_eq_ok {p : Prop} [Decidable p] {e : ε} {f : α → Except ε β} {x : Except ε β}
    {b : β} : (if p then throw e >>= f else x) = .ok b ↔ ¬ p ∧ x = .ok b := by
  by_cases hp : p
  · rw [if_pos hp]
    exact ⟨fun h => (nomatch h), fun h => absurd hp h.1⟩
  · rw [if_neg hp]
    exact ⟨fun h => ⟨hp, h⟩, And.right⟩

theorem mapM_eq_ok {f : α → Except ε β} {xs : List α} {ys : List β}
    (h : xs.mapM f = .ok ys) : List.Forall₂ (fun x y => f x = .ok y) xs ys := by
  induction xs generalizing ys with
  | nil =>
      obtain rfl : [] = ys := Except.ok.inj h
      exact .nil
  | cons x xs ih =>
      rw [List.mapM_cons] at h
      obtain ⟨y, hy, hrest⟩ := bind_eq_ok.mp h
      obtain ⟨rest, hmap, hlast⟩ := bind_eq_ok.mp hrest
      obtain rfl : y :: rest = ys := Except.ok.inj hlast
      exact .cons hy (ih hmap)

theorem mapM_congr_left {f g : α → Except ε β} {xs : List α} (h : ∀ x ∈ xs, f x = g x) :
    xs.mapM f = xs.mapM g := by
  induction xs with
  | nil => rfl
  | cons x xs ih =>
      obtain ⟨hx, hxs⟩ := List.forall_mem_cons.mp h
      rw [List.mapM_cons, List.mapM_cons, hx, ih hxs]

theorem foldlM_congr_left {f g : σ → α → Except ε σ} {xs : List α}
    (h : ∀ x ∈ xs, ∀ s, f s x = g s x) (s : σ) : xs.foldlM f s = xs.foldlM g s := by
  induction xs generalizing s with
  | nil => rfl
  | cons x xs ih =>
      obtain ⟨hx, hxs⟩ := List.forall_mem_cons.mp h
      rw [List.foldlM_cons, List.foldlM_cons, hx]
      simp only [ih hxs]

/-- What is made of each result on its own can be made of all of them at the end. -/
theorem mapM_bind_pure {γ : Type v} (f : α → Except ε β) (g : α → β → γ) (xs : List α) :
    (xs.mapM fun x => f x >>= fun y => pure (g x y)) =
      xs.mapM f >>= fun ys => pure (List.zipWith g xs ys) := by
  induction xs with
  | nil => rfl
  | cons x xs ih =>
      rw [List.mapM_cons, List.mapM_cons, ih]
      cases f x with
      | error e => rfl
      | ok y => cases xs.mapM f <;> rfl

theorem exists_of_mem_right {R : α → β → Prop} {xs : List α} {ys : List β}
    (h : List.Forall₂ R xs ys) {y : β} (hy : y ∈ ys) : ∃ x ∈ xs, R x y := by
  induction h with
  | nil => cases hy
  | cons hxy _ ih =>
      rcases List.mem_cons.mp hy with rfl | hy
      · exact ⟨_, List.mem_cons_self, hxy⟩
      · obtain ⟨x, hx, hxy⟩ := ih hy
        exact ⟨x, List.mem_cons_of_mem _ hx, hxy⟩

/-- What related elements have in common holds of all of them on one side exactly when it does on
the other. -/
theorem forall_mem_iff_of_forall₂ {R : α → β → Prop} {P : α → Prop} {Q : β → Prop}
    {xs : List α} {ys : List β} (h : List.Forall₂ R xs ys) (hiff : ∀ x y, R x y → (P x ↔ Q y)) :
    (∀ x ∈ xs, P x) ↔ ∀ y ∈ ys, Q y := by
  induction h with
  | nil => simp
  | cons hxy _ ih =>
      rw [List.forall_mem_cons, List.forall_mem_cons, ih, hiff _ _ hxy]

/-- A fold whose every step adds some gain to what is seen of the state adds all gains in order. -/
theorem foldlM_gathers {γ : Type w} {step : σ → α → Except ε σ} (view : σ → List γ)
    (gain : α → List γ)
    (hstep : ∀ s x s', step s x = .ok s' → view s' = view s ++ gain x)
    {xs : List α} {s s' : σ} (h : xs.foldlM step s = .ok s') :
    view s' = view s ++ xs.flatMap gain := by
  induction xs generalizing s with
  | nil =>
      obtain rfl : s = s' := Except.ok.inj h
      simp
  | cons x xs ih =>
      rw [List.foldlM_cons] at h
      obtain ⟨next, hnext, hrest⟩ := bind_eq_ok.mp h
      rw [ih hrest, hstep s x next hnext, List.flatMap_cons, List.append_assoc]

theorem foldlM_keeps {γ : Type w} {step : σ → α → Except ε σ} (view : σ → γ)
    (hstep : ∀ s x s', step s x = .ok s' → view s' = view s)
    {xs : List α} {s s' : σ} (h : xs.foldlM step s = .ok s') : view s' = view s := by
  induction xs generalizing s with
  | nil =>
      obtain rfl : s = s' := Except.ok.inj h
      rfl
  | cons x xs ih =>
      rw [List.foldlM_cons] at h
      obtain ⟨next, hnext, hrest⟩ := bind_eq_ok.mp h
      rw [ih hrest, hstep s x next hnext]

/-- Where each step does to a view what a list of actions does, a fold does to it what all these
actions do in order. -/
theorem foldlM_acts {τ : Type v} {γ : Type w} {step : σ → α → Except ε σ} {act : τ → γ → Except ε τ}
    (view : σ → τ) (actions : α → List γ)
    (hstep : ∀ s x s', step s x = .ok s' → (actions x).foldlM act (view s) = .ok (view s'))
    {xs : List α} {s s' : σ} (h : xs.foldlM step s = .ok s') :
    (xs.flatMap actions).foldlM act (view s) = .ok (view s') := by
  induction xs generalizing s with
  | nil =>
      obtain rfl : s = s' := Except.ok.inj h
      rfl
  | cons x xs ih =>
      rw [List.foldlM_cons] at h
      obtain ⟨next, hnext, hrest⟩ := bind_eq_ok.mp h
      rw [List.flatMap_cons, List.foldlM_append, hstep s x next hnext]
      exact ih hrest

/-- A fold that ended well has taken a step that ended well at each element. -/
theorem foldlM_steps {step : σ → α → Except ε σ} {xs : List α} {s s' : σ}
    (h : xs.foldlM step s = .ok s') : ∀ x ∈ xs, ∃ t t', step t x = .ok t' := by
  induction xs generalizing s with
  | nil => simp
  | cons x xs ih =>
      rw [List.foldlM_cons] at h
      obtain ⟨next, hnext, hrest⟩ := bind_eq_ok.mp h
      intro y hy
      rcases List.mem_cons.mp hy with rfl | hy
      · exact ⟨s, next, hnext⟩
      · exact ih hrest y hy

/-- Where a step at an element ends well from one state it does so from any other, a fold ends well
if a step at each element does. -/
theorem exists_foldlM_eq_ok {step : σ → α → Except ε σ}
    (hstep : ∀ s x s', step s x = .ok s' → ∀ t, ∃ t', step t x = .ok t') {xs : List α}
    (h : ∀ x ∈ xs, ∃ t t', step t x = .ok t') (s : σ) : ∃ s', xs.foldlM step s = .ok s' := by
  induction xs generalizing s with
  | nil => exact ⟨s, rfl⟩
  | cons x xs ih =>
      obtain ⟨⟨t, t', hx⟩, hxs⟩ := List.forall_mem_cons.mp h
      obtain ⟨next, hnext⟩ := hstep t x t' hx s
      obtain ⟨s', hrest⟩ := ih hxs next
      exact ⟨s', by rw [List.foldlM_cons]; exact bind_eq_ok.mpr ⟨next, hnext, hrest⟩⟩

end ApiCall
