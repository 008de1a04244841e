import Mathlib
import WfPublisher.Lib.PeriodTotals

/-!
# A ring of slots that are overwritten in place

Each reading goes to the slot its time selects and replaces what was there.
The sum of the slots is the sum of the readings that no later one replaced,
plus what was in the slots no reading went to. A window sum is therefore off
by two amounts: readings that are too old but still in their slot, and
readings of the window that were replaced.
-/

namespace SlotRing

open Runs (sumWhere)
open scoped BigOperators

variable {α ι K : Type*} (slot : α → ι) (value : α → K)

/-- A reading of the list goes to this slot. -/
def Hit (xs : List α) (i : ι) : Prop := ∃ x ∈ xs, slot x = i

@[simp] theorem hit_nil (i : ι) : ¬ Hit slot [] i := by simp [Hit]

@[simp] theorem hit_cons (x : α) (xs : List α) (i : ι) :
    Hit slot (x :: xs) i ↔ slot x = i ∨ Hit slot xs i := by
  simp [Hit]

variable [DecidableEq ι]

instance (xs : List α) : DecidablePred (Hit slot xs) := fun _ => by
  unfold Hit
  infer_instance

def write (slots : ι → K) (x : α) : ι → K := Function.update slots (slot x) (value x)

def writeAll (slots : ι → K) (xs : List α) : ι → K := xs.foldl (write slot value) slots

/-- The readings that no later one replaced. -/
def lasting : List α → List α
  | [] => []
  | x :: xs => if Hit slot xs (slot x) then lasting xs else x :: lasting xs

def replaced : List α → List α
  | [] => []
  | x :: xs => if Hit slot xs (slot x) then x :: replaced xs else replaced xs

theorem mem_lasting {xs : List α} {x : α} (h : x ∈ lasting slot xs) :
    ∃ before after, xs = before ++ x :: after ∧ ¬ Hit slot after (slot x) := by
  induction xs with
  | nil => simp [lasting] at h
  | cons y ys ih =>
    have hrec : x ∈ lasting slot ys →
        ∃ before after, y :: ys = before ++ x :: after ∧ ¬ Hit slot after (slot x) := by
      intro hx
      obtain ⟨before, after, rfl, ha⟩ := ih hx
      exact ⟨y :: before, after, rfl, ha⟩
    rw [lasting] at h
    split at h
    · exact hrec h
    · rename_i hy
      rcases List.mem_cons.mp h with rfl | h
      · exact ⟨[], ys, rfl, hy⟩
      · exact hrec h

theorem mem_replaced {xs : List α} {x : α} (h : x ∈ replaced slot xs) :
    ∃ before after, xs = before ++ x :: after ∧ Hit slot after (slot x) := by
  induction xs with
  | nil => simp [replaced] at h
  | cons y ys ih =>
    have hrec : x ∈ replaced slot ys →
        ∃ before after, y :: ys = before ++ x :: after ∧ Hit slot after (slot x) := by
      intro hx
      obtain ⟨before, after, rfl, ha⟩ := ih hx
      exact ⟨y :: before, after, rfl, ha⟩
    rw [replaced] at h
    split at h
    · rename_i hy
      rcases List.mem_cons.mp h with rfl | h
      · exact ⟨[], ys, rfl, hy⟩
      · exact hrec h
    · exact hrec h

theorem writeAll_cons (slots : ι → K) (x : α) (xs : List α) :
    writeAll slot value slots (x :: xs) = writeAll slot value (write slot value slots x) xs := rfl

variable [Fintype ι] [AddCommGroup K]

theorem sum_writeAll (slots : ι → K) (xs : List α) :
    ∑ i, writeAll slot value slots xs i =
      ((lasting slot xs).map value).sum + ∑ i with ¬ Hit slot xs i, slots i := by
  induction xs generalizing slots with
  | nil => simp [writeAll, lasting]
  | cons x xs ih =>
    rw [writeAll_cons, ih, lasting]
    by_cases hx : Hit slot xs (slot x)
    · -- the slot of `x` is written again, so neither `x` nor what it replaced counts
      rw [if_pos hx]
      congr 1
      refine Finset.sum_congr (Finset.filter_congr fun i _ => ?_) fun i hi => ?_
      · rw [hit_cons]
        constructor
        · rintro h (rfl | h')
          · exact h hx
          · exact h h'
        · exact fun h h' => h (.inr h')
      · have hne : i ≠ slot x := by
          rintro rfl
          exact (Finset.mem_filter.mp hi).2 (hit_cons .. |>.mpr (.inl rfl))
        simp [write, hne]
    · rw [if_neg hx]
      have hmem : slot x ∈ Finset.univ.filter fun i => ¬ Hit slot xs i := by simp [hx]
      have herase : (Finset.univ.filter fun i => ¬ Hit slot (x :: xs) i) =
          (Finset.univ.filter fun i => ¬ Hit slot xs i).erase (slot x) := by
        ext i
        simp only [Finset.mem_filter, Finset.mem_univ, true_and, hit_cons, Finset.mem_erase, not_or]
        exact and_congr_left' ⟨Ne.symm, Ne.symm⟩
      rw [← Finset.add_sum_erase _ _ hmem, herase, List.map_cons, List.sum_cons]
      have hrest : ∑ i ∈ (Finset.univ.filter fun i => ¬ Hit slot xs i).erase (slot x),
            write slot value slots x i =
          ∑ i ∈ (Finset.univ.filter fun i => ¬ Hit slot xs i).erase (slot x), slots i := by
        refine Finset.sum_congr rfl fun i hi => ?_
        simp [write, Finset.ne_of_mem_erase hi]
      rw [hrest]
      simp only [write, Function.update_self]
      abel

theorem sum_writeAll_sub (slots slots' : ι → K) (xs : List α) :
    ∑ i, writeAll slot value slots xs i - ∑ i, writeAll slot value slots' xs i =
      ∑ i with ¬ Hit slot xs i, (slots i - slots' i) := by
  rw [sum_writeAll, sum_writeAll, Finset.sum_sub_distrib]
  abel

omit [Fintype ι] in
theorem sumWhere_lasting_add_replaced (p : α → Prop) [DecidablePred p] (xs : List α) :
    sumWhere p value (lasting slot xs) + sumWhere p value (replaced slot xs) =
      sumWhere p value xs := by
  induction xs with
  | nil => simp [lasting, replaced]
  | cons x xs ih =>
    rw [lasting, replaced, Runs.sumWhere_cons, ← ih]
    split <;> rw [Runs.sumWhere_cons] <;> abel

theorem sum_sumWhere_slot (p : α → Prop) [DecidablePred p] (xs : List α) :
    ∑ i, sumWhere (fun x => p x ∧ slot x = i) value xs = sumWhere p value xs := by
  induction xs with
  | nil => simp
  | cons x xs ih =>
    simp only [Runs.sumWhere_cons, Finset.sum_add_distrib, ih]
    by_cases hp : p x <;> simp [hp]

/-- A ring that started empty holds the sum of a window exactly when the
lasting readings outside the window and the replaced ones inside it weigh the
same. -/
theorem sum_eq_window_iff (p : α → Prop) [DecidablePred p] (xs : List α) :
    ∑ i, writeAll slot value (fun _ => 0) xs i = sumWhere p value xs ↔
      sumWhere (fun x => ¬ p x) value (lasting slot xs) =
        sumWhere p value (replaced slot xs) := by
  have hsplit := Runs.sumWhere_split (fun _ => True) value p (lasting slot xs)
  simp only [true_and, Runs.sumWhere_true] at hsplit
  rw [sum_writeAll, Finset.sum_const_zero, add_zero, hsplit,
    ← sumWhere_lasting_add_replaced slot value p xs]
  exact add_right_inj _

end SlotRing
