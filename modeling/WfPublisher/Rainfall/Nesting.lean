import Mathlib
import WfPublisher.Rainfall

/-!
# The nesting of the rain totals

An hour's rain is part of its day's, a day's part of its month's, and so on.
The resets keep this because each of them implies the shorter ones, and the
early returns of `read_rainfall` because the file holds totals that were
nested when they were saved.
-/

namespace WfPublisher

open Fallible
open scoped BigOperators

section
variable {K : Type} [Field K] [LinearOrder K]

structure Nested (wd : RainTotals K) : Prop where
  hour_nonneg : 0 ≤ wd.rainfall1hr
  hour_le_day : wd.rainfall1hr ≤ wd.rainfallDay
  day_le_month : wd.rainfallDay ≤ wd.rainfallMonth
  month_le_year : wd.rainfallMonth ≤ wd.rainfallYear
  hour_le_24hr : wd.rainfall1hr ≤ wd.rainfall24hr
  min60_nonneg : 0 ≤ wd.rainfall60min

/-- The nesting, of the totals and of those in the file, with what carries it:
no slot is negative. -/
structure RainInv (s : RainState K) : Prop where
  nested : Nested s.wd
  minutes : ∀ i, 0 ≤ s.rain60Min i
  hours : ∀ i, 0 ≤ s.rain24Hr i
  file : ∀ json, s.rainfallJson = some json →
    ∃ t totals, Nested totals ∧ json = saveRainfall t totals

theorem nested_zero : Nested (RainTotals.zero : RainTotals K) := by
  constructor <;> exact le_rfl

theorem rainInv_zero : RainInv (RainState.zero : RainState K) :=
  ⟨nested_zero, fun _ => le_rfl, fun _ => le_rfl, nofun⟩

theorem update_nonneg {ι : Type} [DecidableEq ι] {f : ι → K} (hf : ∀ i, 0 ≤ f i) (i : ι) {x : K}
    (hx : 0 ≤ x) (j : ι) : 0 ≤ Function.update f i x j := by
  by_cases h : j = i
  · subst h
    simpa using hx
  · simpa [h] using hf j

-- ---------------------------------------------------------------------------
-- One call, one restart
-- ---------------------------------------------------------------------------

variable [IsStrictOrderedRing K]

theorem rainInv_accumulateRain {s : RainState K} (time savedAt : LocalTime) {rain : K}
    (hs : RainInv s) (hr : 0 ≤ rain) : RainInv (accumulateRain time savedAt rain s) := by
  obtain ⟨⟨hour, day, month, year, -, -⟩, minutes, hours, -⟩ := hs
  have hour' : 0 ≤ if (localtime time).tmMin = 0 then rain else s.wd.rainfall1hr + rain := by
    split <;> linarith
  have minutes' := update_nonneg minutes (localtime time).tmMin hr
  have hours' := update_nonneg hours (localtime time).tmHour hour'
  have nested : Nested (accumulateRain time savedAt rain s).wd := by
    refine ⟨hour', ?_, ?_, ?_, ?_, ?_⟩
    · by_cases hm : (localtime time).tmMin = 0 <;> by_cases hh : (localtime time).tmHour = 0 <;>
        simp [accumulateRain, hm, hh] <;> linarith
    · by_cases hd : (localtime time).tmMday = 1 <;>
        by_cases hm : (localtime time).tmHour = 0 ∧ (localtime time).tmMin = 0 <;>
        simp [accumulateRain, hd, hm] <;> linarith
    · by_cases hd : (localtime time).tmMday = 1 ∧ (localtime time).tmHour = 0 ∧
        (localtime time).tmMin = 0 <;> simp [accumulateRain, hd] <;> linarith
    · have hself := Finset.single_le_sum (fun i _ => hours' i)
        (Finset.mem_univ (localtime time).tmHour)
      rwa [Function.update_self] at hself
    · have hsum := Finset.sum_nonneg fun i (_ : i ∈ Finset.univ) => minutes' i
      exact hsum
  exact ⟨nested, minutes', hours', fun json hjson => ⟨savedAt, _, nested, by
    cases hjson
    rfl⟩⟩

variable [FloorRing K]

theorem nested_readRainfall {saved t : LocalTime} {totals wd : RainTotals K} (hn : Nested totals)
    (h : readRainfall t (some (saveRainfall saved totals)) .zero = .ok wd) : Nested wd := by
  rw [readRainfall_saveRainfall] at h
  obtain ⟨hour, day, month, year, hours, minutes⟩ := hn
  have day_nonneg := hour.trans day
  have month_nonneg := day_nonneg.trans month
  cases h
  split
  · exact nested_zero
  · split
    · exact ⟨le_rfl, le_rfl, le_rfl, month_nonneg.trans year, le_rfl, le_rfl⟩
    · split
      · exact ⟨le_rfl, le_rfl, month_nonneg, year, le_rfl, le_rfl⟩
      · split
        · exact ⟨le_rfl, day_nonneg, month, year, hour.trans hours, le_rfl⟩
        · exact ⟨hour, day, month, year, hours, minutes⟩

theorem rainInv_restart {s s' : RainState K} {t : LocalTime} (hs : RainInv s)
    (h : restart t s = .ok s') : RainInv s' := by
  simp only [restart, bind_ok, deref_ok] at h
  obtain ⟨json, hjson, wd, hwd, h⟩ := h
  obtain ⟨saved, totals, hn, rfl⟩ := hs.file json hjson
  cases h
  exact ⟨nested_readRainfall hn hwd, fun _ => le_rfl, fun _ => le_rfl, hs.file⟩

theorem exists_restart {s : RainState K} {saved : LocalTime} {totals : RainTotals K}
    (h : s.rainfallJson = some (saveRainfall saved totals)) (t : LocalTime) :
    ∃ s', restart t s = .ok s' := by
  have read := readRainfall_saveRainfall saved t totals .zero
  exact ⟨_, bind_ok.2 ⟨_, deref_ok.2 h, bind_ok.2 ⟨_, read, rfl⟩⟩⟩

-- ---------------------------------------------------------------------------
-- Every reachable state
-- ---------------------------------------------------------------------------

/-- What calls of `accumulate_rain` with non-negative rain and restarts lead
to, at whatever times, from a first start with zeroed data. -/
inductive RainReachable : RainState K → Prop
  | start : RainReachable .zero
  | reading {s : RainState K} (time savedAt : LocalTime) (rain : K) :
      RainReachable s → 0 ≤ rain → RainReachable (accumulateRain time savedAt rain s)
  | restart {s s' : RainState K} (t : LocalTime) :
      RainReachable s → restart t s = .ok s' → RainReachable s'

theorem RainReachable.inv {s : RainState K} (h : RainReachable s) : RainInv s := by
  induction h with
  | start => exact rainInv_zero
  | reading time savedAt rain _ hr ih => exact rainInv_accumulateRain time savedAt ih hr
  | restart t _ h ih => exact rainInv_restart ih h

theorem rainReachable_nested {s : RainState K} (h : RainReachable s) : Nested s.wd := h.inv.nested

end

theorem rainReachable_nested_restart :
    ∃ s : RainState ℚ, restart (utc 40000)
        (accumulateRain (utc 3600) (utc 3600) 1 .zero) = .ok s ∧ Nested s.wd := by
  obtain ⟨s, hs⟩ := exists_restart
    (s := accumulateRain (utc 3600) (utc 3600) (1 : ℚ) .zero) rfl (utc 40000)
  have reading :
      RainReachable (accumulateRain (utc 3600) (utc 3600) (1 : ℚ) .zero) :=
    .reading _ _ 1 .start zero_le_one
  exact ⟨s, hs, rainReachable_nested (.restart _ reading hs)⟩

end WfPublisher
