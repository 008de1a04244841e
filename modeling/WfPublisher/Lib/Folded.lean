import Mathlib

/-!
# Components of a folded state

A fold over a record of running values, read one component at a time: a
component that each step combines with a value is the fold of these values, one
that takes the new value is the last of them, and one that no step writes is as
at the start.
-/

namespace Folded

section
variable {σ ι K : Type*} {step : σ → ι → σ} {f : σ → K} {g : ι → K}

/-- A component that each step combines with a value, in the order of the steps. -/
theorem foldl_combine {op : K → K → K} (h : ∀ s x, f (step s x) = op (f s) (g x)) (xs : List ι)
    (s : σ) : f (xs.foldl step s) = (xs.map g).foldl op (f s) := by
  induction xs generalizing s with
  | nil => rfl
  | cons x xs ih => simp [ih, h]

theorem foldl_last (h : ∀ s x, f (step s x) = g x) {xs : List ι} {x : ι} (hx : x ∈ xs.getLast?)
    (s : σ) : f (xs.foldl step s) = g x := by
  obtain ⟨init, rfl⟩ := List.getLast?_eq_some_iff.mp hx
  simp [h]

theorem foldl_unwritten (h : ∀ s x, f (step s x) = f s) (xs : List ι) (s : σ) :
    f (xs.foldl step s) = f s := by
  induction xs generalizing s with
  | nil => rfl
  | cons x xs ih => simp [ih, h]

end

end Folded
