import WfPublisher.Lib.PeriodTotals
import WfPublisher.Rainfall

/-!
# The calendar totals over a run of readings

The hour, day and month totals are restarted totals, so they are right exactly
on the runs whose readings fall on the reset minutes as the resets expect: the
first reading of each period, and only that one. The year total is never reset.
-/

namespace WfPublisher

open Runs

/-- One call of `accumulate_rain`: the clock at the call, the clock when its
result is saved, and the rain handed over. -/
structure Reading (K : Type) where
  time : LocalTime
  savedAt : LocalTime
  amount : K

section
variable {K : Type}

def InOrder (readings : List (Reading K)) : Prop :=
  readings.Pairwise fun a b => a.time ≤ b.time

/-- Exactly one reading in every successive minute of the local clock. -/
def MinuteByMinute (readings : List (Reading K)) : Prop :=
  readings.IsChain fun a b => b.time.minute = a.time.minute + 1

theorem MinuteByMinute.inOrder {readings : List (Reading K)} (h : MinuteByMinute readings) :
    InOrder readings := by
  have : IsTrans (Reading K) fun a b => a.time ≤ b.time :=
    ⟨fun a b c hab hbc => LocalTime.le_def.mpr (le_trans (LocalTime.le_def.mp hab) hbc)⟩
  refine List.isChain_iff_pairwise.mp (h.imp fun a b hab => ?_)
  unfold LocalTime.minute at hab
  exact LocalTime.le_def.mpr (by omega)

theorem MinuteByMinute.last {past : List (Reading K)} {q r : Reading K}
    (h : MinuteByMinute (past ++ [q] ++ [r])) : r.time.minute = q.time.minute + 1 := by
  unfold MinuteByMinute at h
  rw [List.append_assoc] at h
  simpa using h.right_of_append

variable [Field K]

def RainState.run (s : RainState K) (readings : List (Reading K)) : RainState K :=
  readings.foldl (fun s r => accumulateRain r.time r.savedAt r.amount s) s

theorem RainState.run_append (s : RainState K) (xs ys : List (Reading K)) :
    s.run (xs ++ ys) = (s.run xs).run ys := List.foldl_append

theorem RainState.run_concat (s : RainState K) (xs : List (Reading K)) (r : Reading K) :
    s.run (xs ++ [r]) = accumulateRain r.time r.savedAt r.amount (s.run xs) := by
  rw [RainState.run_append]
  rfl

-- ---------------------------------------------------------------------------
-- The reset tests
-- ---------------------------------------------------------------------------

def HourReset (r : Reading K) : Prop := (localtime r.time).tmMin = 0

def DayReset (r : Reading K) : Prop :=
  (localtime r.time).tmHour = 0 ∧ (localtime r.time).tmMin = 0

def MonthReset (r : Reading K) : Prop :=
  (localtime r.time).tmMday = 1 ∧ (localtime r.time).tmHour = 0 ∧ (localtime r.time).tmMin = 0

instance : DecidablePred (HourReset (K := K)) := fun _ => inferInstanceAs (Decidable (_ = _))
instance : DecidablePred (DayReset (K := K)) := fun _ => inferInstanceAs (Decidable (_ ∧ _))
instance : DecidablePred (MonthReset (K := K)) := fun _ => inferInstanceAs (Decidable (_ ∧ _))

theorem run_rainfall1hr (readings : List (Reading K)) :
    (RainState.zero.run readings).wd.rainfall1hr = resetTotal HourReset Reading.amount readings :=
  eq_resetTotal (f := fun s : RainState K => s.wd.rainfall1hr) HourReset Reading.amount rfl
    (fun _ _ => rfl) readings

theorem run_rainfallDay (readings : List (Reading K)) :
    (RainState.zero.run readings).wd.rainfallDay = resetTotal DayReset Reading.amount readings :=
  eq_resetTotal (f := fun s : RainState K => s.wd.rainfallDay) DayReset Reading.amount rfl
    (fun _ _ => rfl) readings

theorem run_rainfallMonth (readings : List (Reading K)) :
    (RainState.zero.run readings).wd.rainfallMonth =
      resetTotal MonthReset Reading.amount readings :=
  eq_resetTotal (f := fun s : RainState K => s.wd.rainfallMonth) MonthReset Reading.amount rfl
    (fun _ _ => rfl) readings

theorem run_rainfallYear (readings : List (Reading K)) :
    (RainState.zero.run readings).wd.rainfallYear = (readings.map Reading.amount).sum := by
  induction readings using List.reverseRecOn with
  | nil => rfl
  | append_singleton xs r ih =>
    rw [RainState.run_concat, List.map_append, List.sum_append, ← ih]
    simp [accumulateRain]

-- ---------------------------------------------------------------------------
-- Hour, day and month
-- ---------------------------------------------------------------------------

/-- After the reading `r` each of the three totals is the sum of the readings
of its clock hour, calendar day and calendar month. -/
def CalendarTotalsRight (past : List (Reading K)) (r : Reading K) : Prop :=
  let readings := past ++ [r]
  let wd := (RainState.zero.run readings).wd
  wd.rainfall1hr = periodSum (fun q => q.time.hour) Reading.amount readings r ∧
  wd.rainfallDay = periodSum (fun q => q.time.day) Reading.amount readings r ∧
  wd.rainfallMonth = periodSum (fun q => q.time.month) Reading.amount readings r

/-- The reading `r` falls on a reset minute exactly where it opens a period,
for each of the three periods that holds any rain yet. -/
def OpensPeriods (past : List (Reading K)) (r : Reading K) : Prop :=
  Aligned (fun q => q.time.hour) HourReset Reading.amount past r ∧
  Aligned (fun q => q.time.day) DayReset Reading.amount past r ∧
  Aligned (fun q => q.time.month) MonthReset Reading.amount past r

theorem calendarTotalsRight_iff {readings : List (Reading K)} (hs : InOrder readings) :
    AfterEach CalendarTotalsRight readings ↔ AfterEach OpensPeriods readings := by
  have hhour := resetTotal_right_iff HourReset Reading.amount
    (hs.imp fun {q r : Reading K} h => LocalTime.hour_mono h)
  have hday := resetTotal_right_iff DayReset Reading.amount
    (hs.imp fun {q r : Reading K} h => LocalTime.day_mono h)
  have hmonth := resetTotal_right_iff MonthReset Reading.amount
    (hs.imp fun {q r : Reading K} h => LocalTime.month_mono h)
  unfold CalendarTotalsRight OpensPeriods
  simp only [run_rainfall1hr, run_rainfallDay, run_rainfallMonth, afterEach_and]
  rw [hhour, hday, hmonth]

theorem MinuteByMinute.opensPeriods {readings : List (Reading K)} (h : MinuteByMinute readings) :
    AfterEach OpensPeriods readings := by
  intro past r hp
  rcases List.eq_nil_or_concat' past with rfl | ⟨past, q, rfl⟩
  · exact ⟨aligned_nil .., aligned_nil .., aligned_nil ..⟩
  · have hr : r.time.minute = q.time.minute + 1 := MinuteByMinute.last <| List.IsChain.prefix h hp
    have hday : DayReset r ↔ q.time.day ≠ r.time.day := by
      rw [DayReset, tmHour_eq_zero_iff, tmMin_eq_zero_iff, LocalTime.day_eq, LocalTime.day_eq,
        LocalTime.hour_eq, LocalTime.hour_eq]
      omega
    refine ⟨.inl ?_, .inl ?_, .inl ?_⟩ <;> rw [newPeriod_concat]
    · rw [HourReset, tmMin_eq_zero_iff, LocalTime.hour_eq, LocalTime.hour_eq]
      omega
    · exact hday
    · by_cases hd : q.time.day = r.time.day
      · have hn : ¬ DayReset r := fun h => hday.mp h hd
        simp [MonthReset, LocalTime.month, hd, show ¬ (_ ∧ _) from hn]
      · have hq : q.time.day = r.time.day - 1 := by
          rw [LocalTime.day_eq, LocalTime.day_eq, LocalTime.hour_eq, LocalTime.hour_eq] at *
          omega
        have hreset : DayReset r := hday.mpr hd
        rw [LocalTime.month, LocalTime.month, hq, ← Calendar.dateOf_day_eq_one_iff]
        exact and_iff_left hreset

def rainAt (sec : Int) (amount : ℚ) : Reading ℚ := ⟨utc sec, utc sec, amount⟩

def newYearsEve : List (Reading ℚ) := [rainAt 31535940 1, rainAt 31536000 2]

theorem newYearsEve_minuteByMinute : MinuteByMinute newYearsEve := by
  unfold MinuteByMinute
  decide

theorem newYearsEve_calendarTotals : AfterEach CalendarTotalsRight newYearsEve :=
  (calendarTotalsRight_iff newYearsEve_minuteByMinute.inOrder).mpr
    newYearsEve_minuteByMinute.opensPeriods

def missedReset : List (Reading ℚ) := [rainAt 3540 1, rainAt 3660 2]

theorem missedReset_totals :
    InOrder missedReset ∧ ¬ AfterEach CalendarTotalsRight missedReset := by
  refine ⟨List.pairwise_pair.mpr (LocalTime.le_def.mpr (by decide)), fun h => ?_⟩
  have hour := (h [_] _ List.prefix_rfl).1
  revert hour
  decide +kernel

-- ---------------------------------------------------------------------------
-- The year
-- ---------------------------------------------------------------------------

/-- After the reading `r` the year total is the sum of the readings made since
00:00 on January 1 of its year. -/
def YearTotalRight (past : List (Reading K)) (r : Reading K) : Prop :=
  (RainState.zero.run (past ++ [r])).wd.rainfallYear =
    sumWhere (fun q => r.time.newYear ≤ q.time.sec) Reading.amount (past ++ [r])

def NoEarlierRain (past : List (Reading K)) (r : Reading K) : Prop :=
  sumWhere (fun q => q.time.sec < r.time.newYear) Reading.amount (past ++ [r]) = 0

theorem yearTotalRight_iff (readings : List (Reading K)) :
    AfterEach YearTotalRight readings ↔ AfterEach NoEarlierRain readings := by
  refine afterEach_congr fun past r _ _ => ?_
  have hsplit := sumWhere_split (fun _ => True) Reading.amount
    (fun q : Reading K => r.time.newYear ≤ q.time.sec) (past ++ [r])
  simp only [true_and, sumWhere_true, not_le] at hsplit
  rw [YearTotalRight, NoEarlierRain, run_rainfallYear, hsplit]
  exact add_eq_left

theorem noEarlierRain_of_year {readings : List (Reading K)} {year : Int}
    (h : ∀ r ∈ readings, r.time.year = year) : AfterEach NoEarlierRain readings := by
  intro past r hp
  refine sumWhere_eq_zero _ _ fun q hq => ?_
  rw [not_lt, LocalTime.newYear_le_iff, h q (hp.subset hq), h r (hp.subset (by simp))]

end

theorem newYearsEve_total :
    MinuteByMinute newYearsEve ∧ ¬ AfterEach YearTotalRight newYearsEve := by
  refine ⟨newYearsEve_minuteByMinute, fun h => ?_⟩
  have year := h [_] _ List.prefix_rfl
  revert year
  unfold YearTotalRight
  decide +kernel

end WfPublisher
