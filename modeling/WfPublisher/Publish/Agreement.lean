import Mathlib
import WfPublisher.Lib.Printf
import WfPublisher.Publish.Averages
import WfPublisher.Publish.Conservation
import WfPublisher.Publish.Requests

/-!
# What three uploaders have in common

Weather Underground, WeatherBug and PWS Weather are told nine quantities under the
same names. The latter two agree on any batch; Weather Underground is given other
fields of the record for two of them, and its gust may be negative. The means are
taken to be exact.
-/

namespace WfPublisher

open BatchPublisher

/-- The parameters of all three requests, as values or as texts. -/
structure SharedParams (T : Type) where
  baromin : T
  dailyrainin : T
  rainin : T
  winddir : T
  windgustmph : T
  windspeedmph : T
  humidity : T
  dewptf : T
  tempf : T

namespace SharedParams

variable {S T : Type}

def map (f : S → T) (params : SharedParams S) : SharedParams T where
  baromin := f params.baromin
  dailyrainin := f params.dailyrainin
  rainin := f params.rainin
  winddir := f params.winddir
  windgustmph := f params.windgustmph
  windspeedmph := f params.windspeedmph
  humidity := f params.humidity
  dewptf := f params.dewptf
  tempf := f params.tempf

def Agree (wunderground weatherbug pws : SharedParams T) : Prop :=
  wunderground = weatherbug ∧ wunderground = pws ∧ weatherbug = pws

end SharedParams

section
variable {K : Type}

def WundergroundRequest.shared (request : WundergroundRequest K) : SharedParams K where
  baromin := request.baromin
  dailyrainin := request.dailyrainin
  rainin := request.rainin
  winddir := request.winddir
  windgustmph := request.windgustmph
  windspeedmph := request.windspeedmph
  humidity := request.humidity
  dewptf := request.dewptf
  tempf := request.tempf

def WeatherbugRequest.shared (request : WeatherbugRequest K) : SharedParams K where
  baromin := request.baromin
  dailyrainin := request.dailyrainin
  rainin := request.rainin
  winddir := request.winddir
  windgustmph := request.windgustmph
  windspeedmph := request.windspeedmph
  humidity := request.humidity
  dewptf := request.dewptf
  tempf := request.tempf

def PwsRequest.shared (request : PwsRequest K) : SharedParams K where
  baromin := request.baromin
  dailyrainin := request.dailyrainin
  rainin := request.rainin
  winddir := request.winddir
  windgustmph := request.windgustmph
  windspeedmph := request.windspeedmph
  humidity := request.humidity
  dewptf := request.dewptf
  tempf := request.tempf

def Call.withRecord (metric : Int) (wd : WeatherData K) (call : Call K) : Call K :=
  { call with cfg := { call.cfg with metric }, wd }

def BatchPublisher.single [Field K] {Request : Type} (p : BatchPublisher K Request)
    (call closing : Call K) : Request := p.request closing (p.accumulate call .empty)

/-- The record as an uploader sees it. -/
def converted [Field K] [LinearOrder K] (metric : Int) (wd : WeatherData K) : WeatherData K :=
  if metric = 0 then unitConvert convertAll wd else wd

def batchedParams [Field K] [LinearOrder K] (wd : WeatherData K) : SharedParams K where
  baromin := wd.pressure
  dailyrainin := wd.rainfallDay
  rainin := wd.rainfall1hr
  winddir := wd.winddirection
  windgustmph := max 0 wd.gustspeed
  windspeedmph := wd.windspeed
  humidity := wd.humidity
  dewptf := wd.dewpoint
  tempf := wd.temperature

def directParams (wd : WeatherData K) : SharedParams K where
  baromin := wd.pressureSealevel
  dailyrainin := wd.rainfallDay
  rainin := wd.rain
  winddir := wd.winddirection
  windgustmph := wd.gustspeed
  windspeedmph := wd.windspeed
  humidity := wd.humidity
  dewptf := wd.dewpoint
  tempf := wd.temperature

section
variable [Field K] [LinearOrder K]

theorem wunderground_shared (debug : Bool) (metric : Int) (wd : WeatherData K) (call : Call K) :
    (sendToWunderground debug (call.withRecord metric wd)).shared =
      directParams (converted metric wd) := rfl

theorem pws_shared (debug : Bool) (call : Call K) (b : Batch K) :
    ((pws debug).request call b).shared = ((weatherbug debug).request call b).shared := rfl

theorem weatherbug_shared (debug : Bool) (metric : Int) (wd : WeatherData K)
    (call closing : Call K) :
    ((weatherbug debug).single (call.withRecord metric wd) closing).shared =
      batchedParams (converted metric wd) := by
  have h : WeatherbugAverages [converted metric wd]
      ((weatherbug debug).single (call.withRecord metric wd) closing) :=
    weatherbug_averages debug closing [call.withRecord metric wd]
  obtain ⟨hday, hhour, -, -⟩ := h.rain _ rfl
  simp [WeatherbugRequest.shared, batchedParams, h.baromin, h.winddir, h.windspeedmph, h.humidity,
    h.dewptf, h.tempf, h.windgustmph, hday, hhour, mean_eq_sum, largestGust_eq_max]

-- ---------------------------------------------------------------------------
-- When they agree
-- ---------------------------------------------------------------------------

theorem map_agree_iff {T : Type} (f : K → T) (wd : WeatherData K) :
    (directParams wd).map f = (batchedParams wd).map f ↔
      f wd.pressureSealevel = f wd.pressure ∧ f wd.rain = f wd.rainfall1hr ∧
        f wd.gustspeed = f (max 0 wd.gustspeed) := by
  simp [SharedParams.map, directParams, batchedParams]

variable [IsStrictOrderedRing K] {metric : Int} {wd : WeatherData K}

theorem mb2in_injective : Function.Injective (mb2in (K := K)) := by
  intro x y h
  exact mul_right_cancel₀ (by norm_num) h

theorem mm2inch_injective : Function.Injective (mm2inch (K := K)) := by
  intro x y h
  rw [mm2inch_eq, mm2inch_eq] at h
  exact mul_right_cancel₀ (by norm_num) h

theorem ms2mph_nonneg {x : K} : 0 ≤ ms2mph x ↔ 0 ≤ x := by
  rw [ms2mph, le_div_iff₀ (by norm_num), zero_mul]

theorem converted_gust : 0 ≤ (converted metric wd).gustspeed ↔ 0 ≤ wd.gustspeed := by
  unfold converted
  split
  · exact ms2mph_nonneg
  · rfl

theorem converted_agree_iff : directParams (converted metric wd) =
      batchedParams (converted metric wd) ↔
    wd.pressureSealevel = wd.pressure ∧ wd.rain = wd.rainfall1hr ∧ 0 ≤ wd.gustspeed := by
  have h := map_agree_iff id (converted metric wd)
  have hgust : (converted metric wd).gustspeed = max 0 (converted metric wd).gustspeed ↔
      0 ≤ wd.gustspeed := by
    exact (eq_comm.trans max_eq_right_iff).trans converted_gust
  refine h.trans ?_
  simp only [id, hgust]
  unfold converted
  split
  · exact and_congr mb2in_injective.eq_iff (and_congr mm2inch_injective.eq_iff Iff.rfl)
  · rfl

omit [IsStrictOrderedRing K] in
theorem printF_max_zero [FloorRing K] {x : K} :
    Printf.printF 6 x = Printf.printF 6 (max 0 x) ↔ 0 ≤ x := by
  constructor
  · intro h
    have hsign := ((Printf.printF_eq_iff (by decide)).mp h).1
    by_contra hneg
    exact (hsign.mp (not_le.mp hneg)).not_ge (le_max_left 0 x)
  · intro hpos
    rw [max_eq_right hpos]

theorem printed_agree_iff [FloorRing K] :
    (directParams (converted metric wd)).map (Printf.printF 6) =
      (batchedParams (converted metric wd)).map (Printf.printF 6) ↔
    Printf.Alike 6 (converted metric wd).pressureSealevel (converted metric wd).pressure ∧
      Printf.Alike 6 (converted metric wd).rain (converted metric wd).rainfall1hr ∧
      0 ≤ wd.gustspeed := by
  have hprint {x y : K} : Printf.printF 6 x = Printf.printF 6 y ↔ Printf.Alike 6 x y :=
    Printf.printF_eq_iff (by decide)
  rw [map_agree_iff, hprint, hprint, printF_max_zero, converted_gust]

/-- As values and as texts. -/
theorem uploaders_agree_iff [FloorRing K] (debug : Bool) (metric : Int) (wd : WeatherData K)
    (wu wbug wbugClosing pwsCall pwsClosing : Call K) :
    let wunderground := (sendToWunderground debug (wu.withRecord metric wd)).shared
    let weatherbug :=
      ((weatherbug debug).single (wbug.withRecord metric wd) wbugClosing).shared
    let pws := ((pws debug).single (pwsCall.withRecord metric wd) pwsClosing).shared
    (SharedParams.Agree wunderground weatherbug pws ↔
      wd.pressureSealevel = wd.pressure ∧ wd.rain = wd.rainfall1hr ∧ 0 ≤ wd.gustspeed) ∧
    (SharedParams.Agree (wunderground.map (Printf.printF 6)) (weatherbug.map (Printf.printF 6))
        (pws.map (Printf.printF 6)) ↔
      Printf.Alike 6 (converted metric wd).pressureSealevel (converted metric wd).pressure ∧
        Printf.Alike 6 (converted metric wd).rain (converted metric wd).rainfall1hr ∧
        0 ≤ wd.gustspeed) := by
  intro wunderground weatherbug pws
  have hwbug : weatherbug = batchedParams (converted metric wd) :=
    weatherbug_shared debug metric wd wbug wbugClosing
  have hpws : pws = batchedParams (converted metric wd) :=
    (pws_shared debug pwsClosing _).trans (weatherbug_shared debug metric wd pwsCall pwsClosing)
  have hwu : wunderground = directParams (converted metric wd) :=
    wunderground_shared debug metric wd wu
  rw [← converted_agree_iff, ← printed_agree_iff, hwu, hwbug, hpws]
  constructor
  · exact ⟨fun h => h.1, fun h => ⟨h, h, rfl⟩⟩
  · exact ⟨fun h => h.1, fun h => ⟨h, h, rfl⟩⟩

end

end

-- ---------------------------------------------------------------------------
-- On a hill
-- ---------------------------------------------------------------------------

def recordAt (pressure sealevel : ℚ) : WeatherData ℚ :=
  { WeatherData.zero with
    pressure := pressure, pressureSealevel := sealevel, rain := 2, rainfall1hr := 2 }

theorem hill_disagrees : ¬ SharedParams.Agree
    ((sendToWunderground false ((gustAt 1 0).withRecord 1 (recordAt 990 1013))).shared.map
      (Printf.printF 6))
    (((weatherbug false).single ((gustAt 1 0).withRecord 1 (recordAt 990 1013))
      (gustAt 2 0)).shared.map (Printf.printF 6))
    (((pws false).single ((gustAt 1 0).withRecord 1 (recordAt 990 1013))
      (gustAt 2 0)).shared.map (Printf.printF 6)) := by
  intro h
  have hbaromin := congrArg SharedParams.baromin h.1
  revert hbaromin
  decide +kernel

theorem shore_agrees : SharedParams.Agree
    (sendToWunderground false ((gustAt 1 0).withRecord 0 (recordAt 1013 1013))).shared
    ((weatherbug false).single ((gustAt 1 0).withRecord 0 (recordAt 1013 1013))
      (gustAt 2 0)).shared
    ((pws false).single ((gustAt 1 0).withRecord 0 (recordAt 1013 1013)) (gustAt 2 0)).shared :=
  (uploaders_agree_iff false 0 (recordAt 1013 1013) (gustAt 1 0) (gustAt 1 0) (gustAt 2 0)
    (gustAt 1 0) (gustAt 2 0)).1.mpr ⟨rfl, rfl, le_refl 0⟩

end WfPublisher
