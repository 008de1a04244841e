import Mathlib

/-!
# Running extremes

A maximum kept over a list from a starting value, when it is the list's own,
and when the maximum of two sets is that of the second. The minimum is the
maximum of the dual order.
-/

namespace Extremes

section
variable {α : Type} [LinearOrder α]

theorem if_gt_eq_max (a b : α) : (if a > b then a else b) = max b a := by
  rcases le_or_gt a b with h | h
  · rw [if_neg (not_lt.mpr h), max_eq_left h]
  · rw [if_pos h, max_eq_right h.le]

theorem if_lt_eq_min (a b : α) : (if a < b then a else b) = min b a :=
  if_gt_eq_max (α := αᵒᵈ) a b

theorem init_le_foldl_max (init : α) (xs : List α) : init ≤ xs.foldl max init := by
  induction xs generalizing init with
  | nil => exact le_rfl
  | cons x xs ih => exact (le_max_left init x).trans (ih _)

theorem le_foldl_max (init : α) {xs : List α} {x : α} (hx : x ∈ xs) : x ≤ xs.foldl max init := by
  induction xs generalizing init with
  | nil => cases hx
  | cons y xs ih =>
    rcases List.mem_cons.mp hx with rfl | hx
    · exact (le_max_right init x).trans (init_le_foldl_max _ xs)
    · exact ih _ hx

theorem foldl_min_le (init : α) {xs : List α} {x : α} (hx : x ∈ xs) : xs.foldl min init ≤ x :=
  le_foldl_max (α := αᵒᵈ) init hx

theorem foldl_max_mem (init : α) (xs : List α) : xs.foldl max init ∈ init :: xs := by
  induction xs generalizing init with
  | nil => exact List.mem_singleton_self _
  | cons x xs ih =>
    rcases List.mem_cons.mp (ih (max init x)) with h | h
    · rw [List.foldl_cons, h]
      rcases max_choice init x with h | h <;> simp [h]
    · simp [h]

theorem isGreatest_foldl_max {init x : α} {xs : List α} (hx : x ∈ xs) (h : init ≤ x) :
    IsGreatest {y | y ∈ xs} (xs.foldl max init) := by
  refine ⟨?_, fun y hy => le_foldl_max init hy⟩
  rcases List.mem_cons.mp (foldl_max_mem init xs) with hmem | hmem
  · have heq : x = xs.foldl max init := le_antisymm (le_foldl_max init hx) (hmem.le.trans h)
    rwa [heq] at hx
  · exact hmem

theorem isLeast_foldl_min {init x : α} {xs : List α} (hx : x ∈ xs) (h : x ≤ init) :
    IsLeast {y | y ∈ xs} (xs.foldl min init) :=
  isGreatest_foldl_max (α := αᵒᵈ) hx h

theorem isGreatest_right_iff {left right : Set α} {m : α} (hm : IsGreatest (left ∪ right) m) :
    IsGreatest right m ↔ ∀ x ∈ left, ∃ y ∈ right, x ≤ y := by
  constructor
  · intro h x hx
    exact ⟨m, h.1, hm.2 (.inl hx)⟩
  · intro h
    refine ⟨?_, fun y hy => hm.2 (.inr hy)⟩
    obtain hmem | hmem := hm.1
    · obtain ⟨y, hy, hle⟩ := h m hmem
      have heq : m = y := le_antisymm hle (hm.2 (.inr hy))
      exact heq ▸ hy
    · exact hmem

theorem isLeast_right_iff {left right : Set α} {m : α} (hm : IsLeast (left ∪ right) m) :
    IsLeast right m ↔ ∀ x ∈ left, ∃ y ∈ right, y ≤ x :=
  isGreatest_right_iff (α := αᵒᵈ) hm

-- ---------------------------------------------------------------------------
-- The earliest maximum
-- ---------------------------------------------------------------------------

variable {ι : Type} (value : ι → α)

/-- `x` has the largest value of the list, and no item before it has it too. -/
def EarliestMax (xs : List ι) (x : ι) : Prop :=
  ∃ before after, xs = before ++ x :: after ∧
    (∀ y ∈ before, value y < value x) ∧ ∀ y ∈ after, value y ≤ value x

theorem earliestMax_singleton (x : ι) : EarliestMax value [x] x :=
  ⟨[], [], rfl, nofun, nofun⟩

variable {value} {xs : List ι} {x y : ι}

theorem EarliestMax.le (h : EarliestMax value xs x) (hy : y ∈ xs) : value y ≤ value x := by
  obtain ⟨before, after, rfl, hbefore, hafter⟩ := h
  rcases List.mem_append.mp hy with hy | hy
  · exact (hbefore y hy).le
  · rcases List.mem_cons.mp hy with rfl | hy
    · exact le_rfl
    · exact hafter y hy

theorem EarliestMax.concat_of_le (h : EarliestMax value xs x) (hy : value y ≤ value x) :
    EarliestMax value (xs ++ [y]) x := by
  obtain ⟨before, after, rfl, hbefore, hafter⟩ := h
  refine ⟨before, after ++ [y], by simp, hbefore, fun z hz => ?_⟩
  rcases List.mem_append.mp hz with hz | hz
  · exact hafter z hz
  · rw [List.mem_singleton.mp hz]
    exact hy

theorem EarliestMax.concat_of_lt (h : EarliestMax value xs x) (hy : value x < value y) :
    EarliestMax value (xs ++ [y]) y :=
  ⟨xs, [], rfl, fun _ hz => (h.le hz).trans_lt hy, nofun⟩

end

end Extremes
