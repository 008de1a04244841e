import WfPublisher.Lib.SlotRing
import WfPublisher.Rainfall.Totals

/-!
# The rolling hour

`rain_60_min` is a ring indexed by the minute of the hour, written by every
reading. Its sum is the rain of the last sixty clock minutes up to two errors:
stale readings, whose slot no packet has overwritten for an hour or more, and
lost readings, overwritten by another reading of the same minute.
-/

namespace WfPublisher

open Runs SlotRing
open scoped BigOperators

section
variable {K : Type}

def minuteSlot (r : Reading K) : Fin 60 := (localtime r.time).tmMin

/-- The clock minutes `M-59 .. M`, where `M` is the minute of `r`. -/
def InLastHour (r q : Reading K) : Prop :=
  r.time.minute - 59 ≤ q.time.minute ∧ q.time.minute ≤ r.time.minute

instance (r : Reading K) : DecidablePred (InLastHour r) :=
  fun _ => inferInstanceAs (Decidable (_ ∧ _))

theorem minuteSlot_eq_iff (q r : Reading K) :
    minuteSlot q = minuteSlot r ↔ q.time.minute % 60 = r.time.minute % 60 := by
  rw [minuteSlot, minuteSlot, ← tmMin_eq, ← tmMin_eq, Int.natCast_inj, Fin.val_inj]

variable [Field K]

theorem run_rain60Min (s : RainState K) (readings : List (Reading K)) :
    (s.run readings).rain60Min = writeAll minuteSlot Reading.amount s.rain60Min readings := by
  induction readings generalizing s with
  | nil => rfl
  | cons r rest ih => exact ih (accumulateRain r.time r.savedAt r.amount s)

theorem run_rainfall60min (s : RainState K) (past : List (Reading K)) (r : Reading K) :
    (s.run (past ++ [r])).wd.rainfall60min =
      ∑ i, writeAll minuteSlot Reading.amount s.rain60Min (past ++ [r]) i := by
  rw [← run_rain60Min, RainState.run_concat]
  rfl

def RollingHourRight (past : List (Reading K)) (r : Reading K) : Prop :=
  (RainState.zero.run (past ++ [r])).wd.rainfall60min =
    sumWhere (InLastHour r) Reading.amount (past ++ [r])

/-- Rain still in its slot though older than the hour. -/
def staleRain (past : List (Reading K)) (r : Reading K) : K :=
  sumWhere (fun q => ¬ InLastHour r q) Reading.amount (lasting minuteSlot (past ++ [r]))

/-- Rain of the last hour whose slot was overwritten. -/
def lostRain (past : List (Reading K)) (r : Reading K) : K :=
  sumWhere (InLastHour r) Reading.amount (replaced minuteSlot (past ++ [r]))

theorem rollingHourRight_iff (readings : List (Reading K)) :
    AfterEach RollingHourRight readings ↔
      AfterEach (fun past r => staleRain past r = lostRain past r) readings := by
  refine afterEach_congr fun past r _ _ => ?_
  rw [RollingHourRight, run_rainfall60min]
  exact sum_eq_window_iff minuteSlot Reading.amount (InLastHour r) (past ++ [r])

-- ---------------------------------------------------------------------------
-- A reading in every minute
-- ---------------------------------------------------------------------------

omit [Field K] in
theorem MinuteByMinute.minute_lt {readings : List (Reading K)} (h : MinuteByMinute readings) :
    readings.Pairwise fun a b => a.time.minute < b.time.minute := by
  have : IsTrans (Reading K) fun a b => a.time.minute < b.time.minute :=
    ⟨fun a b c hab hbc => lt_trans hab hbc⟩
  exact List.isChain_iff_pairwise.mp (h.imp fun a b hab => by omega)

omit [Field K] in
theorem MinuteByMinute.exists_minute {q r : Reading K} {after : List (Reading K)}
    (h : MinuteByMinute (q :: after)) (hr : r ∈ q :: after) {m : Int}
    (hm : q.time.minute < m ∧ m ≤ r.time.minute) : ∃ y ∈ after, y.time.minute = m := by
  induction after generalizing q with
  | nil =>
    rw [List.mem_singleton.mp hr] at hm
    omega
  | cons y rest ih =>
    obtain ⟨hy, hrest⟩ := List.isChain_cons_cons.mp h
    by_cases hym : y.time.minute = m
    · exact ⟨y, by simp, hym⟩
    · have hry : r ∈ y :: rest := by
        rcases List.mem_cons.mp hr with rfl | hr
        · omega
        · exact hr
      obtain ⟨z, hz, hzm⟩ := ih hrest hry ⟨by omega, hm.2⟩
      exact ⟨z, by simp [hz], hzm⟩

omit [Field K] in
theorem MinuteByMinute.le_last {past : List (Reading K)} {q r : Reading K}
    (h : MinuteByMinute (past ++ [r])) (hq : q ∈ past ++ [r]) : q.time.minute ≤ r.time.minute := by
  rcases List.mem_append.mp hq with hq | hq
  · exact ((List.pairwise_append.mp h.minute_lt).2.2 q hq r (by simp)).le
  · rw [List.mem_singleton.mp hq]

theorem MinuteByMinute.staleRain_eq_zero {past : List (Reading K)} {r : Reading K}
    (h : MinuteByMinute (past ++ [r])) : staleRain past r = 0 := by
  refine sumWhere_eq_zero _ _ fun x hx hold => ?_
  obtain ⟨before, after, heq, hnot⟩ := mem_lasting minuteSlot hx
  have hr : r ∈ x :: after := by
    have hlast : (before ++ x :: after).getLast? = some r := by
      rw [← heq]
      simp
    rw [List.getLast?_append_cons] at hlast
    exact List.mem_of_getLast? hlast
  have hx : x.time.minute ≤ r.time.minute := h.le_last (heq ▸ by simp)
  have hchain : MinuteByMinute (x :: after) := (heq ▸ h).right_of_append
  obtain ⟨y, hy, hym⟩ := hchain.exists_minute hr (m := x.time.minute + 60)
    (by unfold InLastHour at hold; omega)
  exact hnot ⟨y, hy, (minuteSlot_eq_iff y x).mpr (by omega)⟩

theorem MinuteByMinute.lostRain_eq_zero {past : List (Reading K)} {r : Reading K}
    (h : MinuteByMinute (past ++ [r])) : lostRain past r = 0 := by
  refine sumWhere_eq_zero _ _ fun x hx hwin => ?_
  obtain ⟨before, after, heq, y, hy, hslot⟩ := mem_replaced minuteSlot hx
  have hlater := (List.pairwise_append.mp (heq ▸ h.minute_lt)).2.1
  have hlt : x.time.minute < y.time.minute := (List.pairwise_cons.mp hlater).1 y hy
  have hyr : y.time.minute ≤ r.time.minute := h.le_last (heq ▸ by simp [hy])
  have hmod := (minuteSlot_eq_iff y x).mp hslot
  unfold InLastHour at hwin
  omega

theorem MinuteByMinute.staleRain_eq_lostRain {readings : List (Reading K)}
    (h : MinuteByMinute readings) :
    AfterEach (fun past r => staleRain past r = lostRain past r) readings := by
  intro past r hp
  have hrun : MinuteByMinute (past ++ [r]) := List.IsChain.prefix h hp
  rw [hrun.staleRain_eq_zero, hrun.lostRain_eq_zero]

end

def twoRows : List (Reading ℚ) := [rainAt 3540 1, rainAt 3540 2]

theorem twoRows_rollingHour : InOrder twoRows ∧ ¬ AfterEach RollingHourRight twoRows := by
  refine ⟨List.pairwise_pair.mpr (LocalTime.le_def.mpr le_rfl), fun h => ?_⟩
  have hour := h [_] _ List.prefix_rfl
  revert hour
  unfold RollingHourRight
  decide +kernel

end WfPublisher
