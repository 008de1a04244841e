import Mathlib
import WfPublisher.Lib.Extremes
import WfPublisher.Lib.Folded
import WfPublisher.Publish.Ledger

/-!
# What a batched report says

The values of a CWOP or WeatherBug report are those of the calls off the mark
minutes since the report before it: means, the largest gust, and the totals of
the last one.
-/

namespace WfPublisher

open Extremes

section
variable {K : Type} [Zero K] [Neg K] [OfScientific K] [Add K] [Mul K] [Div K] [NatCast K] [BEq K]
  [LT K] [DecidableLT K]

-- ---------------------------------------------------------------------------
-- Averages
-- ---------------------------------------------------------------------------

def mean (value : WeatherData K → K) (records : List (WeatherData K)) : K :=
  (records.map value).foldl (· + ·) 0 / (records.length : K)

def largerGust (most gust : K) : K := if gust > most then gust else most

/-- The larger of 0 and the gusts of the records. -/
def largestGust (records : List (WeatherData K)) : K :=
  (records.map WeatherData.gustspeed).foldl largerGust 0

structure CwopAverages [CDouble K] (records : List (WeatherData K)) (request : CwopRequest) :
    Prop where
  pressure : request.pressure = roundInt (mean (fun wd => wd.pressure * 10.0) records)
  windspeed : request.windspeed = roundInt (mean WeatherData.windspeed records)
  winddirection : request.winddirection = roundInt (mean WeatherData.winddirection records)
  temperature : request.temperature = roundInt (mean WeatherData.temperature records)
  humidity : request.humidity =
    if roundInt (mean WeatherData.humidity records) = 100 then 0
    else roundInt (mean WeatherData.humidity records)
  solar : request.solar = roundInt (mean WeatherData.solar records)
  gustspeed : request.gustspeed = roundInt (largestGust records)
  rain : ∀ last ∈ records.getLast?,
    request.rainfall1hr = roundInt (last.rainfall1hr * 100.0) ∧
      request.rainfallDay = roundInt (last.rainfallDay * 100.0)

structure WeatherbugAverages (records : List (WeatherData K)) (request : WeatherbugRequest K) :
    Prop where
  baromin : request.baromin = mean WeatherData.pressure records
  windspeedmph : request.windspeedmph = mean WeatherData.windspeed records
  winddir : request.winddir = mean WeatherData.winddirection records
  tempf : request.tempf = mean WeatherData.temperature records
  humidity : request.humidity = mean WeatherData.humidity records
  dewptf : request.dewptf = mean WeatherData.dewpoint records
  windgustmph : request.windgustmph = largestGust records
  rain : ∀ last ∈ records.getLast?,
    request.dailyrainin = last.rainfallDay ∧ request.rainin = last.rainfall1hr ∧
      request.monthlyrainin = last.rainfallMonth ∧ request.yearlyrainin = last.rainfallYear

-- ---------------------------------------------------------------------------
-- What the statics come to
-- ---------------------------------------------------------------------------

namespace BatchPublisher

section
variable {Request : Type} {p : BatchPublisher K Request} {f g : WeatherData K → K}

omit [Mul K] [BEq K] [LT K] [DecidableLT K] in
theorem mean_batchOf (hzero : f WeatherData.zero = 0)
    (hadd : ∀ ws wd, f (p.add ws wd) = f ws + g wd) (calls : List (Call K)) :
    f (p.batchOf calls).ws / ((p.batchOf calls).count : K) = mean g (p.records calls) := by
  have hsum : f (p.batchOf calls).ws = ((p.records calls).map g).foldl (· + ·) 0 := by
    rw [batchOf, Folded.foldl_combine hadd, hzero]
  rw [hsum, mean, count_batchOf, records, List.length_map]

omit [Add K] [Mul K] [Div K] [NatCast K] [BEq K] in
theorem gust_batchOf
    (hadd : ∀ ws wd, (p.add ws wd).gustspeed =
      if wd.gustspeed > ws.gustspeed then wd.gustspeed else ws.gustspeed)
    (calls : List (Call K)) : (p.batchOf calls).ws.gustspeed = largestGust (p.records calls) := by
  have hlarger (ws wd : WeatherData K) :
      (p.add ws wd).gustspeed = largerGust ws.gustspeed wd.gustspeed := hadd ws wd
  exact Folded.foldl_combine hlarger (p.records calls) WeatherData.zero

omit [Add K] [Mul K] [Div K] [NatCast K] [BEq K] [LT K] [DecidableLT K] in
theorem last_batchOf (hadd : ∀ ws wd, f (p.add ws wd) = f wd) {calls : List (Call K)}
    {last : WeatherData K} (hlast : last ∈ (p.records calls).getLast?) :
    f (p.batchOf calls).ws = f last := Folded.foldl_last hadd hlast WeatherData.zero

end

theorem cwop_averages [CDouble K] (call : Call K) (calls : List (Call K)) :
    CwopAverages (cwop.records calls) (cwop.request call (cwop.batchOf calls)) := by
  have hmean {f g : WeatherData K → K} (hzero : f WeatherData.zero = 0)
      (hadd : ∀ ws wd, f (cwop.add ws wd) = f ws + g wd) :=
    congrArg roundInt (mean_batchOf hzero hadd calls)
  constructor
  · exact hmean rfl fun _ _ => rfl
  · exact hmean rfl fun _ _ => rfl
  · exact hmean rfl fun _ _ => rfl
  · exact hmean rfl fun _ _ => rfl
  · exact congrArg (fun n : Int => if n = 100 then 0 else n) (hmean rfl fun _ _ => rfl)
  · exact hmean rfl fun _ _ => rfl
  · exact congrArg roundInt (gust_batchOf (p := cwop) (fun _ _ => rfl) calls)
  · intro last hlast
    have hkept {f : WeatherData K → K} (hadd : ∀ ws wd, f (cwop.add ws wd) = f wd) :=
      congrArg (fun x => roundInt (x * 100.0)) (last_batchOf hadd hlast)
    exact ⟨hkept (f := fun wd => wd.rainfall1hr) fun _ _ => rfl,
      hkept (f := fun wd => wd.rainfallDay) fun _ _ => rfl⟩

theorem weatherbug_averages (debug : Bool) (call : Call K) (calls : List (Call K)) :
    WeatherbugAverages ((weatherbug debug).records calls)
      ((weatherbug debug).request call ((weatherbug debug).batchOf calls)) := by
  have hmean {f : WeatherData K → K} := mean_batchOf (p := weatherbug debug) (f := f) (g := f)
  constructor
  · exact hmean rfl (fun _ _ => rfl) calls
  · exact hmean rfl (fun _ _ => rfl) calls
  · exact hmean rfl (fun _ _ => rfl) calls
  · exact hmean rfl (fun _ _ => rfl) calls
  · exact hmean rfl (fun _ _ => rfl) calls
  · exact hmean rfl (fun _ _ => rfl) calls
  · exact gust_batchOf (p := weatherbug debug) (fun _ _ => rfl) calls
  · intro last hlast
    have hkept {f : WeatherData K → K} := last_batchOf (p := weatherbug debug) (f := f)
    exact ⟨hkept (f := fun wd => wd.rainfallDay) (fun _ _ => rfl) hlast,
      hkept (f := fun wd => wd.rainfall1hr) (fun _ _ => rfl) hlast,
      hkept (f := fun wd => wd.rainfallMonth) (fun _ _ => rfl) hlast,
      hkept (f := fun wd => wd.rainfallYear) (fun _ _ => rfl) hlast⟩

end BatchPublisher

-- ---------------------------------------------------------------------------
-- Over a run
-- ---------------------------------------------------------------------------

/-- When the call behind `past` sends a request, and what it says. -/
structure BatchedRight {Request : Type} (p : BatchPublisher K Request)
    (Averages : List (WeatherData K) → Request → Prop) (past : List (Call K)) (call : Call K) :
    Prop where
  sends_iff : (p.update call (p.ledger past).batch).2.isSome ↔
    p.AtMark call.time ∧ p.offMark (p.ledger past).since ≠ []
  averages : ∀ request, (p.update call (p.ledger past).batch).2 = some request →
    Averages (p.records (p.offMark (p.ledger past).since)) request
  /-- Where a mean is computed, its divisor is not zero. -/
  divisor : (p.update call (p.ledger past).batch).2.isSome → (p.ledger past).batch.count ≠ 0
  minutes : InClockOrder (past ++ [call]) →
    (p.ledger (past ++ [call])).reports.Pairwise fun r r' => r.call.minute ≠ r'.call.minute

omit [Add K] [Mul K] [Div K] [NatCast K] [BEq K] [LT K] [DecidableLT K] in
theorem batchedRight_of {Request : Type} {p : BatchPublisher K Request}
    {Averages : List (WeatherData K) → Request → Prop}
    (h : ∀ call calls, Averages (p.records calls) (p.request call (p.batchOf calls)))
    (past : List (Call K)) (call : Call K) : BatchedRight p Averages past call := by
  have hright := ledger_right p past
  constructor
  · exact hright.sends_iff call
  · intro request hsent
    rw [(hright.request hsent).2]
    exact h call _
  · intro hsent
    exact (BatchPublisher.update_isSome.mp hsent).2
  · intro hclock
    exact (reports_pairwise p hclock).imp fun hlt => hlt.ne

theorem batchedReports_right [CDouble K] (debug : Bool) (past : List (Call K)) (call : Call K) :
    BatchedRight cwop CwopAverages past call ∧
      BatchedRight (weatherbug debug) WeatherbugAverages past call :=
  ⟨batchedRight_of BatchPublisher.cwop_averages past call,
    batchedRight_of (BatchPublisher.weatherbug_averages debug) past call⟩

end

-- ---------------------------------------------------------------------------
-- Where arithmetic is exact
-- ---------------------------------------------------------------------------

section
variable {K : Type} [Field K]

theorem mean_eq_sum (value : WeatherData K → K) (records : List (WeatherData K)) :
    mean value records = (records.map value).sum / records.length := by
  rw [mean, List.sum_eq_foldl]

variable [LinearOrder K]

theorem largestGust_eq_max (records : List (WeatherData K)) :
    largestGust records = (records.map WeatherData.gustspeed).foldl max 0 := by
  have hop : (largerGust : K → K → K) = max := by
    funext most gust
    exact if_gt_eq_max gust most
  rw [largestGust, hop]

theorem roundInt_eq [FloorRing K] {x : K}
    (h : intMin ≤ roundHalfAway x ∧ roundHalfAway x ≤ intMax) : roundInt x = roundHalfAway x :=
  castInt_some h

end

-- ---------------------------------------------------------------------------
-- Where it is not
-- ---------------------------------------------------------------------------

def airAt (minute : Int) (temperature pressure : Float) : Call Float where
  cfg := ⟨none, none, none, none, 0⟩
  station := ⟨none, none, none, none, 0⟩
  time := ⟨utc (60 * minute), localtime (utc (60 * minute))⟩
  wd := { WeatherData.zero with temperature, pressure }

def exactMean (value : Call Float → ℚ) (calls : List (Call Float)) : Int :=
  roundHalfAway ((calls.map value).sum / calls.length)

/-- Two temperatures whose mean is half a degree Fahrenheit, and a pressure that
no `int` can hold the tenths of. -/
theorem exactMeans_notSent :
    (¬ ∀ past call request, (sendToCwop call (cwop.ledger past).batch).2 = some request →
      request.temperature = exactMean (fun call => tempF ((floatValue call.wd.temperature).getD 0))
        (cwop.offMark (cwop.ledger past).since)) ∧
    ¬ ∀ past call request, (sendToCwop call (cwop.ledger past).batch).2 = some request →
      request.pressure = exactMean (fun call => (floatValue call.wd.pressure).getD 0 * 10)
        (cwop.offMark (cwop.ledger past).since) := by
  constructor
  · intro h
    have hsent := h [airAt 1 (-19.7) 0.0, airAt 2 (-15.3) 0.0] (airAt 10 0.0 0.0) _ rfl
    revert hsent
    decide +kernel
  · intro h
    have hsent := h [airAt 1 0.0 300000000.0] (airAt 10 0.0 0.0) _ rfl
    revert hsent
    decide +kernel

end WfPublisher
