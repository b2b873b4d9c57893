import Mathlib.Data.List.Basic

/-!
What kinds of errors a computation may end with. If each step fails with errors of one kind only, so
does the whole.
-/

namespace ApiCall

universe u v

variable {ε : Type u} {α β σ : Type v}

theorem bind_eq_error {x : Except ε α} {f : α → Except ε β} {e : ε} :
    (x >>= f) = .error e ↔ x = .error e ∨ ∃ a, x = .ok a ∧ f a = .error e := by
  cases x <;> simp [Bind.bind, Except.bind]

/-- Every error of the computation is of the kind. -/
def FailsAs (P : ε → Prop) (x : Except ε α) : Prop :=
  ∀ e, x = .error e → P e

namespace FailsAs

variable {P : ε → Prop}

theorem ok (a : α) : FailsAs P (.ok a : Except ε α) := by
  intro e h
  cases h

theorem error {e : ε} (h : P e) : FailsAs P (.error e : Except ε α) := by
  rintro _ ⟨⟩
  exact h

theorem bind {x : Except ε α} {f : α → Except ε β} (hx : FailsAs P x)
    (hf : ∀ a, x = .ok a → FailsAs P (f a)) : FailsAs P (x >>= f) := by
  cases x with
  | error e => exact error (hx e rfl)
  | ok a => exact hf a rfl

theorem mapM {f : α → Except ε β} {xs : List α} (h : ∀ x ∈ xs, FailsAs P (f x)) :
    FailsAs P (xs.mapM f) := by
  induction xs with
  | nil => exact ok []
  | cons x xs ih =>
      obtain ⟨hx, hxs⟩ := List.forall_mem_cons.mp h
      rw [List.mapM_cons]
      exact bind hx fun y _ => bind (ih hxs) fun ys _ => ok (y :: ys)

theorem foldlM {step : σ → α → Except ε σ} {xs : List α}
    (h : ∀ x ∈ xs, ∀ s, FailsAs P (step s x)) (s : σ) : FailsAs P (xs.foldlM step s) := by
  induction xs generalizing s with
  | nil => exact ok s
  | cons x xs ih =>
      obtain ⟨hx, hxs⟩ := List.forall_mem_cons.mp h
      rw [List.foldlM_cons]
      exact bind (hx s) fun next _ => ih hxs next

end FailsAs

end ApiCall
