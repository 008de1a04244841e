import Mathlib
import WfPublisher.Rainfall.RollingHour

/-!
# Restarting the process

A restart loses the slot arrays. Within the hour of the last save the six
totals all come back, and the four calendar totals go on as if nothing had
happened; the two rolling sums go on without what the lost slots held, until
every one of those slots has been written again.
-/

namespace WfPublisher

open Runs SlotRing
open scoped BigOperators

section
variable {K : Type} [Field K]

-- ---------------------------------------------------------------------------
-- The ring of hours
-- ---------------------------------------------------------------------------

def hourSlot (r : Reading K) : Fin 24 := (localtime r.time).tmHour

def hourWrites : K → List (Reading K) → List (Fin 24 × K)
  | _, [] => []
  | total, r :: rest =>
    let total := if HourReset r then r.amount else total + r.amount
    (hourSlot r, total) :: hourWrites total rest

theorem hit_hourWrites (total : K) (readings : List (Reading K)) (i : Fin 24) :
    Hit Prod.fst (hourWrites total readings) i ↔ Hit hourSlot readings i := by
  induction readings generalizing total with
  | nil => simp [hourWrites]
  | cons r rest ih => simp [hourWrites, ih]

theorem run_rain24Hr (s : RainState K) (readings : List (Reading K)) :
    (s.run readings).rain24Hr =
      writeAll Prod.fst Prod.snd s.rain24Hr (hourWrites s.wd.rainfall1hr readings) := by
  induction readings generalizing s with
  | nil => rfl
  | cons r rest ih => exact ih (accumulateRain r.time r.savedAt r.amount s)

theorem run_rainfall24hr (s : RainState K) (past : List (Reading K)) (r : Reading K) :
    (s.run (past ++ [r])).wd.rainfall24hr =
      ∑ i, writeAll Prod.fst Prod.snd s.rain24Hr (hourWrites s.wd.rainfall1hr (past ++ [r])) i := by
  rw [← run_rain24Hr, RainState.run_concat]
  rfl

-- ---------------------------------------------------------------------------
-- Two runs from states with the same totals
-- ---------------------------------------------------------------------------

theorem run_calendar_congr {s s' : RainState K} (h : s.wd = s'.wd) (readings : List (Reading K)) :
    (s.run readings).wd.rainfall1hr = (s'.run readings).wd.rainfall1hr ∧
    (s.run readings).wd.rainfallDay = (s'.run readings).wd.rainfallDay ∧
    (s.run readings).wd.rainfallMonth = (s'.run readings).wd.rainfallMonth ∧
    (s.run readings).wd.rainfallYear = (s'.run readings).wd.rainfallYear := by
  induction readings using List.reverseRecOn with
  | nil => simp [RainState.run, h]
  | append_singleton past r ih =>
    obtain ⟨hour, day, month, year⟩ := ih
    rw [RainState.run_concat, RainState.run_concat]
    simp only [accumulateRain, hour, day, month, year, and_self]

/-- The slots no reading has gone to add up to nothing. -/
def SlotsSpent (s : RainState K) (past : List (Reading K)) (r : Reading K) : Prop :=
  ∑ i with ¬ Hit minuteSlot (past ++ [r]) i, s.rain60Min i = 0 ∧
  ∑ i with ¬ Hit hourSlot (past ++ [r]) i, s.rain24Hr i = 0

theorem run_wd_eq_iff {s s' : RainState K} (h : s'.wd = s.wd) (h60 : s'.rain60Min = fun _ => 0)
    (h24 : s'.rain24Hr = fun _ => 0) (past : List (Reading K)) (r : Reading K) :
    (s'.run (past ++ [r])).wd = (s.run (past ++ [r])).wd ↔ SlotsSpent s past r := by
  obtain ⟨hour, day, month, year⟩ := run_calendar_congr h (past ++ [r])
  have m := sum_writeAll_sub minuteSlot Reading.amount s.rain60Min s'.rain60Min (past ++ [r])
  have d := sum_writeAll_sub Prod.fst Prod.snd s.rain24Hr s'.rain24Hr
    (hourWrites s.wd.rainfall1hr (past ++ [r]))
  simp only [← run_rainfall60min] at m
  simp only [hit_hourWrites, ← run_rainfall24hr] at d
  rw [← h, ← run_rainfall24hr] at d
  simp only [h60, h24, sub_zero] at m d
  rw [RainTotals.ext_iff, SlotsSpent, ← m, ← d, sub_eq_zero, sub_eq_zero]
  constructor
  · rintro ⟨-, -, -, -, h60, h24⟩
    exact ⟨h60.symm, h24.symm⟩
  · rintro ⟨h60, h24⟩
    exact ⟨hour, day, month, year, h60.symm, h24.symm⟩

end

section
variable {K : Type} [Field K] [LinearOrder K] [FloorRing K] [IsStrictOrderedRing K]

theorem restart_sameHour {s : RainState K} {saved t : LocalTime}
    (hfile : s.rainfallJson = some (saveRainfall saved s.wd)) (ht : t.hour = saved.hour) :
    restart t s = .ok { s with rain60Min := fun _ => 0, rain24Hr := fun _ => 0 } := by
  have hd : saved.day = t.day := ((hour_eq_iff t saved).mp ht).1.symm
  simp [restart, hfile, readRainfall_saveRainfall, LocalTime.year, LocalTime.month, hd, ht]

/-- A run broken by a restart after `last`, in the clock hour of its save,
shows the same six totals after every later reading as the unbroken run
exactly as long as the slots lost and not yet rewritten add up to nothing. -/
theorem restart_transparent_iff (s : RainState K) (before after : List (Reading K))
    (last : Reading K) (t : LocalTime) (ht : t.hour = last.savedAt.hour) :
    ∃ s', restart t (s.run (before ++ [last])) = .ok s' ∧
      (AfterEach (fun past r => (s'.run (past ++ [r])).wd =
          (s.run (before ++ [last] ++ past ++ [r])).wd) after ↔
        AfterEach (SlotsSpent (s.run (before ++ [last]))) after) := by
  have hfile : (s.run (before ++ [last])).rainfallJson =
      some (saveRainfall last.savedAt (s.run (before ++ [last])).wd) := by
    rw [RainState.run_concat]
    rfl
  refine ⟨_, restart_sameHour hfile ht, afterEach_congr fun past r _ _ => ?_⟩
  have hrun : s.run (before ++ [last] ++ past ++ [r]) =
      (s.run (before ++ [last])).run (past ++ [r]) := by
    rw [List.append_assoc _ past]
    exact RainState.run_append ..
  rw [hrun]
  apply run_wd_eq_iff <;> rfl

end

def wetMinute : Reading ℚ := rainAt 3600 1
def dryMinute : Reading ℚ := rainAt 3660 0

theorem wetMinute_restart :
    ∃ s', restart (utc 3630) (RainState.zero.run [wetMinute]) = .ok s' ∧
      (s'.run [dryMinute]).wd ≠ (RainState.zero.run [wetMinute, dryMinute]).wd :=
  ⟨_, restart_sameHour rfl rfl, by decide +kernel⟩

theorem wetMinute_restart_unnoticed :
    ∃ s', restart (utc 3630) (RainState.zero.run [wetMinute]) = .ok s' ∧
      AfterEach (fun past r => (s'.run (past ++ [r])).wd =
        (RainState.zero.run ([wetMinute] ++ past ++ [r])).wd) [wetMinute] := by
  obtain ⟨s', hs', hiff⟩ := restart_transparent_iff (RainState.zero : RainState ℚ) []
    [wetMinute] wetMinute (utc 3630) rfl
  refine ⟨s', hs', hiff.mpr (afterEach_singleton.mpr ?_)⟩
  unfold SlotsSpent
  decide +kernel

end WfPublisher
