import Mathlib
import WfPublisher.Clock

/-!
# Rain totals: accumulating, saving, restoring

The six totals of the weather record, the two static slot arrays behind the
last two of them, and the file `rainfall.json`. The file is kept as the JSON
tree that its text is printed from and parsed to. The results about the totals
take arithmetic to be exact.
-/

namespace WfPublisher

open scoped BigOperators

@[ext] structure RainTotals (K : Type) where
  rainfall1hr : K
  rainfallDay : K
  rainfallMonth : K
  rainfallYear : K
  rainfall60min : K
  rainfall24hr : K
  deriving DecidableEq

structure RainState (K : Type) where
  wd : RainTotals K
  rain60Min : Fin 60 → K
  rain24Hr : Fin 24 → K
  rainfallJson : Option (CJson K)

section
variable {K : Type} [Zero K]

def RainTotals.zero : RainTotals K := ⟨0, 0, 0, 0, 0, 0⟩

def RainState.zero : RainState K := ⟨.zero, fun _ => 0, fun _ => 0, none⟩

end

section
variable {K : Type} [Field K]

-- ---------------------------------------------------------------------------
-- Saving
-- ---------------------------------------------------------------------------

def saveRainfall (t : LocalTime) (wd : RainTotals K) : CJson K :=
  let lt := localtime t
  let lTime := createObject
  let lTime := addNumberToObject lTime "hour".toList ((lt.tmHour : Int) : K)
  let lTime := addNumberToObject lTime "day".toList (lt.tmMday : K)
  let lTime := addNumberToObject lTime "month".toList (((lt.tmMon : Int) + 1 : Int) : K)
  let lTime := addNumberToObject lTime "year".toList ((lt.tmYear + 1900 : Int) : K)
  let rain := createObject
  let rain := addItemToObject rain "time".toList lTime
  let rain := addNumberToObject rain "rain_60".toList wd.rainfall60min
  let rain := addNumberToObject rain "rain_24".toList wd.rainfall24hr
  let rain := addNumberToObject rain "rain_current_hour".toList wd.rainfall1hr
  let rain := addNumberToObject rain "rain_current_day".toList wd.rainfallDay
  let rain := addNumberToObject rain "rain_current_month".toList wd.rainfallMonth
  addNumberToObject rain "rain_current_year".toList wd.rainfallYear

-- ---------------------------------------------------------------------------
-- Accumulating
-- ---------------------------------------------------------------------------

/-- `sec` is the clock at the call and `saveTime` the clock when the totals are
saved at its end, in a file that can be opened. -/
def accumulateRain (sec saveTime : LocalTime) (rain : K) (s : RainState K) : RainState K :=
  let lt := localtime sec
  let wd := s.wd
  let wd := { wd with rainfall1hr := if lt.tmMin = 0 then rain else wd.rainfall1hr + rain }
  let wd := { wd with rainfallDay :=
    if lt.tmHour = 0 ∧ lt.tmMin = 0 then rain else wd.rainfallDay + rain }
  let wd := { wd with rainfallMonth :=
    if lt.tmMday = 1 ∧ lt.tmHour = 0 ∧ lt.tmMin = 0 then rain else wd.rainfallMonth + rain }
  -- `lt->tm_mon =- 0` stores 0 in `tm_mon`, and what it stored is the condition
  let lt := { lt with tmMon := 0 }
  let wd := { wd with rainfallYear :=
    if lt.tmMon ≠ 0 ∧ lt.tmMday = 1 ∧ lt.tmHour = 0 ∧ lt.tmMin = 0 then rain
    else wd.rainfallYear + rain }
  let rain60Min := Function.update s.rain60Min lt.tmMin rain
  let wd := { wd with rainfall60min := ∑ i, rain60Min i }
  let rain24Hr := Function.update s.rain24Hr lt.tmHour wd.rainfall1hr
  let wd := { wd with rainfall24hr := ∑ i, rain24Hr i }
  { wd, rain60Min, rain24Hr, rainfallJson := some (saveRainfall saveTime wd) }

/-- The call comes back only where the file is opened: the check is `fp < 0`, and
`fprintf` is given the null pointer. -/
def accumulateRainOn (opens : Bool) (sec saveTime : LocalTime) (rain : K) (s : RainState K) :
    Except Fault (RainState K) :=
  if opens then .ok (accumulateRain sec saveTime rain s) else .error .nullDeref

theorem accumulateRainOn_ok {opens : Bool} {sec saveTime : LocalTime} {rain : K}
    {s s' : RainState K} : accumulateRainOn opens sec saveTime rain s = .ok s' ↔
      opens = true ∧ s' = accumulateRain sec saveTime rain s := by
  cases opens <;> simp [accumulateRainOn, eq_comm]

end

-- ---------------------------------------------------------------------------
-- Restoring
-- ---------------------------------------------------------------------------

section
variable {K : Type} [Zero K] [Neg K] [OfScientific K] [LE K] [DecidableLE K] [CDouble K]

def readRainfall (t : LocalTime) (rainJson : Option (CJson K)) (wd : RainTotals K) :
    Except Fault (RainTotals K) := do
  let gt := localtime t
  let savedAt ← getObjectItemCaseSensitive rainJson "time".toList
  let tmp ← getObjectItemCaseSensitive savedAt "year".toList
  if let some tmp := tmp then
    if tmp.valueint ≠ gt.tmYear + 1900 then
      return wd
  let tmp ← getObjectItemCaseSensitive rainJson "rain_current_year".toList
  let wd := { wd with rainfallYear := (← deref tmp).valuedouble }
  let mut wd := wd
  let tmp ← getObjectItemCaseSensitive savedAt "month".toList
  if let some tmp := tmp then
    if tmp.valueint = (gt.tmMon : Int) + 1 then
      let tmp ← getObjectItemCaseSensitive rainJson "rain_current_month".toList
      wd := { wd with rainfallMonth := (← deref tmp).valuedouble }
    else
      return wd
  let tmp ← getObjectItemCaseSensitive savedAt "day".toList
  if let some tmp := tmp then
    if tmp.valueint = gt.tmMday then
      let tmp ← getObjectItemCaseSensitive rainJson "rain_current_day".toList
      wd := { wd with rainfallDay := (← deref tmp).valuedouble }
      let tmp ← getObjectItemCaseSensitive rainJson "rain_24".toList
      wd := { wd with rainfall24hr := (← deref tmp).valuedouble }
    else
      return wd
  let tmp ← getObjectItemCaseSensitive savedAt "hour".toList
  if let some tmp := tmp then
    if tmp.valueint = (gt.tmHour : Int) then
      let tmp ← getObjectItemCaseSensitive rainJson "rain_current_hour".toList
      wd := { wd with rainfall1hr := (← deref tmp).valuedouble }
      let tmp ← getObjectItemCaseSensitive rainJson "rain_60".toList
      wd := { wd with rainfall60min := (← deref tmp).valuedouble }
  return wd

/-- A new process: `wd` and the static arrays are zeroed and the file is read.
Without a file `fopen` returns null and `fread` reads through it. -/
def restart (t : LocalTime) (s : RainState K) : Except Fault (RainState K) := do
  let json ← deref s.rainfallJson
  let wd ← readRainfall t (some json) .zero
  return { wd, rain60Min := fun _ => 0, rain24Hr := fun _ => 0, rainfallJson := s.rainfallJson }

end

-- ---------------------------------------------------------------------------
-- What a saved file restores
-- ---------------------------------------------------------------------------

section
variable {K : Type} [Field K] [LinearOrder K] [FloorRing K] [IsStrictOrderedRing K]

theorem valueint_number {n : Int} (h : intMin ≤ n ∧ n ≤ intMax) :
    (CJson.number (n : K)).valueint = n :=
  CJson.toInt_intCast h

section
variable (t : LocalTime)

theorem valueint_year :
    (CJson.number (((localtime t).tmYear : K) + 1900)).valueint = (localtime t).tmYear + 1900 := by
  have hy : (localtime t).tmYear + 1900 = t.year := by
    rw [tmYear_eq, sub_add_cancel]
  have h := valueint_number (K := K) t.yearFits
  change (CJson.number (t.year : K)).valueint = t.year at h
  rw [← hy] at h
  simpa using h

theorem valueint_mon : (CJson.number (((localtime t).tmMon : ℕ) + 1 : K)).valueint =
    (localtime t).tmMon + 1 := by
  have h := valueint_number (K := K) (n := (localtime t).tmMon + 1) (by unfold intMin intMax; omega)
  simpa using h

theorem valueint_mday :
    (CJson.number ((localtime t).tmMday : K)).valueint = (localtime t).tmMday := by
  have hb : 1 ≤ (localtime t).tmMday ∧ (localtime t).tmMday ≤ 31 :=
    Calendar.dateOf_day_bounds t.day
  exact valueint_number (by unfold intMin intMax; omega)

theorem valueint_hour : (CJson.number (((localtime t).tmHour : ℕ) : K)).valueint =
    (localtime t).tmHour := by
  have h := valueint_number (K := K) (n := (localtime t).tmHour) (by unfold intMin intMax; omega)
  simpa using h

end

theorem readRainfall_saveRainfall_tm (saved t : LocalTime) (totals wd : RainTotals K) :
    readRainfall t (some (saveRainfall saved totals)) wd =
      if (localtime saved).tmYear = (localtime t).tmYear then
        if (localtime saved).tmMon = (localtime t).tmMon then
          if (localtime saved).tmMday = (localtime t).tmMday then
            if (localtime saved).tmHour = (localtime t).tmHour then .ok totals
            else .ok { totals with
              rainfall1hr := wd.rainfall1hr, rainfall60min := wd.rainfall60min }
          else .ok { wd with
            rainfallYear := totals.rainfallYear, rainfallMonth := totals.rainfallMonth }
        else .ok { wd with rainfallYear := totals.rainfallYear }
      else .ok wd := by
  simp [readRainfall, saveRainfall, createObject, addNumberToObject, addItemToObject,
    getObjectItemCaseSensitive, CJson.child, findChild, valueint_year, valueint_mon,
    valueint_mday, valueint_hour, CJson.valuedouble, Fin.val_inj]

/-- Each total comes back as long as its period has not ended; the others keep
their value. `rainfall_60min` goes with the hour, `rainfall_24hr` with the day. -/
theorem readRainfall_saveRainfall (saved t : LocalTime) (totals wd : RainTotals K) :
    readRainfall t (some (saveRainfall saved totals)) wd = .ok (
      if saved.year ≠ t.year then wd
      else if saved.month ≠ t.month then { wd with rainfallYear := totals.rainfallYear }
      else if saved.day ≠ t.day then
        { wd with rainfallYear := totals.rainfallYear, rainfallMonth := totals.rainfallMonth }
      else if saved.hour ≠ t.hour then
        { totals with rainfall1hr := wd.rainfall1hr, rainfall60min := wd.rainfall60min }
      else totals) := by
  have hyear : saved.year = t.year ↔ (localtime saved).tmYear = (localtime t).tmYear := by
    rw [tmYear_eq, tmYear_eq, sub_left_inj]
  rw [readRainfall_saveRainfall_tm]
  by_cases hy : (localtime saved).tmYear = (localtime t).tmYear
  · by_cases hm : (localtime saved).tmMon = (localtime t).tmMon
    · by_cases hd : (localtime saved).tmMday = (localtime t).tmMday
      · by_cases hh : (localtime saved).tmHour = (localtime t).tmHour <;>
          simp [hyear, month_eq_iff, day_eq_iff, hour_eq_iff, hy, hm, hd, hh]
      · simp [hyear, month_eq_iff, day_eq_iff, hy, hm, hd]
    · simp [hyear, month_eq_iff, hy, hm]
  · simp [hyear, hy]

end

end WfPublisher
