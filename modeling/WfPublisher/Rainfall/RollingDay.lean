import Mathlib
import WfPublisher.Rainfall.Restart

/-!
# The rolling day

`rain_24_hr` is a ring indexed by the hour of the day, and each reading writes
its hour's total so far. With a reading in every minute the totals are those of
the clock hours, and a slot is written over just when its hour leaves the day.
-/

namespace WfPublisher

open Runs SlotRing
open scoped BigOperators

section
variable {K : Type}

/-- The clock hours `H-23 .. H`, where `H` is the hour of `r`. -/
def InLastDay (r q : Reading K) : Prop :=
  r.time.hour - 23 ≤ q.time.hour ∧ q.time.hour ≤ r.time.hour

instance (r : Reading K) : DecidablePred (InLastDay r) :=
  fun _ => inferInstanceAs (Decidable (_ ∧ _))

theorem hourSlot_eq_iff (q r : Reading K) :
    hourSlot q = hourSlot r ↔ q.time.hour % 24 = r.time.hour % 24 := by
  rw [hourSlot, hourSlot, ← tmHour_eq, ← tmHour_eq, Int.natCast_inj, Fin.val_inj]

theorem InLastDay.slot_iff {r q : Reading K} (hle : q.time.hour ≤ r.time.hour) :
    InLastDay r q ∧ hourSlot q = hourSlot r ↔ q.time.hour = r.time.hour := by
  rw [hourSlot_eq_iff]
  unfold InLastDay
  omega

theorem InLastDay.next_iff {q r x : Reading K} {i : Fin 24}
    (hnext : r.time.minute = q.time.minute + 1) (hx : x.time.hour ≤ q.time.hour)
    (hi : i ≠ hourSlot r) :
    InLastDay r x ∧ hourSlot x = i ↔ InLastDay q x ∧ hourSlot x = i := by
  refine and_congr_left fun hslot => ?_
  have hne : x.time.hour % 24 ≠ r.time.hour % 24 := by
    rw [ne_eq, ← hourSlot_eq_iff, hslot]
    exact hi
  have hq := LocalTime.hour_eq q.time
  have hr := LocalTime.hour_eq r.time
  unfold InLastDay
  omega

variable [Field K]

def RollingDayRight (past : List (Reading K)) (r : Reading K) : Prop :=
  (RainState.zero.run (past ++ [r])).wd.rainfall24hr =
    sumWhere (InLastDay r) Reading.amount (past ++ [r])

omit [Field K] in
theorem MinuteByMinute.hour_le_last {past : List (Reading K)} {q r : Reading K}
    (h : MinuteByMinute (past ++ [r])) (hq : q ∈ past ++ [r]) : q.time.hour ≤ r.time.hour := by
  have hminute := h.le_last hq
  rw [LocalTime.hour_eq, LocalTime.hour_eq]
  omega

theorem MinuteByMinute.rainfall1hr {past : List (Reading K)} {r : Reading K}
    (h : MinuteByMinute (past ++ [r])) : (RainState.zero.run (past ++ [r])).wd.rainfall1hr =
      periodSum (fun q => q.time.hour) Reading.amount (past ++ [r]) r :=
  ((calendarTotalsRight_iff h.inOrder).mpr h.opensPeriods past r List.prefix_rfl).1

theorem run_rain24Hr_concat (past : List (Reading K)) (r : Reading K) :
    (RainState.zero.run (past ++ [r])).rain24Hr =
      Function.update (RainState.zero.run past).rain24Hr (hourSlot r)
        (RainState.zero.run (past ++ [r])).wd.rainfall1hr := by
  rw [RainState.run_concat]
  rfl

theorem MinuteByMinute.rain24Hr_current {past : List (Reading K)} {r : Reading K}
    (h : MinuteByMinute (past ++ [r])) :
    (RainState.zero.run (past ++ [r])).rain24Hr (hourSlot r) =
      sumWhere (fun q => InLastDay r q ∧ hourSlot q = hourSlot r) Reading.amount (past ++ [r]) := by
  rw [run_rain24Hr_concat, Function.update_self, h.rainfall1hr, periodSum]
  exact sumWhere_congr _ _ fun q hq => (InLastDay.slot_iff (h.hour_le_last hq)).symm

theorem sumWhere_other_slot {r : Reading K} {i : Fin 24} (hi : i ≠ hourSlot r) :
    sumWhere (fun q => InLastDay r q ∧ hourSlot q = i) Reading.amount [r] = 0 := by
  refine sumWhere_eq_zero _ _ ?_
  rintro q hq ⟨-, hslot⟩
  cases List.mem_singleton.mp hq
  exact hi hslot.symm

theorem MinuteByMinute.rain24Hr {past : List (Reading K)} {r : Reading K}
    (h : MinuteByMinute (past ++ [r])) (i : Fin 24) :
    (RainState.zero.run (past ++ [r])).rain24Hr i =
      sumWhere (fun q => InLastDay r q ∧ hourSlot q = i) Reading.amount (past ++ [r]) := by
  induction past using List.reverseRecOn generalizing r with
  | nil =>
    by_cases hi : i = hourSlot r
    · subst hi
      exact h.rain24Hr_current
    · rw [run_rain24Hr_concat, Function.update_of_ne hi]
      exact (sumWhere_other_slot hi).symm
  | append_singleton past q ih =>
    by_cases hi : i = hourSlot r
    · subst hi
      exact h.rain24Hr_current
    · have hpast : MinuteByMinute (past ++ [q]) := List.IsChain.prefix h (List.prefix_append _ _)
      rw [run_rain24Hr_concat, Function.update_of_ne hi, ih hpast, sumWhere_append _ _ _ [r],
        sumWhere_other_slot hi, add_zero]
      refine sumWhere_congr _ _ fun x hx => ?_
      exact (InLastDay.next_iff h.last (hpast.hour_le_last hx) hi).symm

theorem rollingDay_right {readings : List (Reading K)} (h : MinuteByMinute readings) :
    AfterEach RollingDayRight readings := by
  intro past r hp
  have hrun : MinuteByMinute (past ++ [r]) := List.IsChain.prefix h hp
  have hsum : (RainState.zero.run (past ++ [r])).wd.rainfall24hr =
      ∑ i, (RainState.zero.run (past ++ [r])).rain24Hr i := by
    rw [RainState.run_concat]
    rfl
  rw [RollingDayRight, hsum]
  simp only [hrun.rain24Hr]
  exact sum_sumWhere_slot hourSlot Reading.amount (InLastDay r) (past ++ [r])

end

theorem newYearsEve_rollingDay :
    AfterEach RollingDayRight newYearsEve ∧
      sumWhere (InLastDay (rainAt 31536000 2)) Reading.amount newYearsEve = 3 :=
  ⟨rollingDay_right newYearsEve_minuteByMinute, by decide +kernel⟩

end WfPublisher
