import Mathlib
import WfPublisher.CJson.Tree

/-!
# Conversions and derived values

`log` and `pow` are those of the C library. The results about the derived values
take arithmetic to be exact.
-/

namespace WfPublisher

structure Libm (K : Type) where
  log : K → K
  pow : K → K → K

section
variable {K : Type}

-- ---------------------------------------------------------------------------
-- Conversions
-- ---------------------------------------------------------------------------

section
variable [Add K] [Sub K] [Mul K] [Div K] [OfScientific K]

def tempF (tempc : K) : K := tempc * 1.8 + 32.0

def tempC (tempf : K) : K := (tempf - 32.0) / 1.8

def ms2mph (ms : K) : K := ms / 0.44704

end

variable [Field K]

-- ---------------------------------------------------------------------------
-- Derived values
-- ---------------------------------------------------------------------------

def station2Sealevel (station alt : K) : K := station + alt / 8.3

def calcDewpoint (libm : Libm K) (t humidity : K) : K :=
  let b := 17.625 * t / (243.04 + t)
  let h := libm.log (humidity / 100.0)
  243.04 * (h + b) / (17.625 - h - b)

variable [LinearOrder K]

def calcWindchill (libm : Libm K) (temp speed : K) : K :=
  let t := tempF temp
  let v := ms2mph speed
  if t < 50.0 ∧ v > 5.0 then
    tempC (35.74 + 0.6215 * t - 35.75 * libm.pow v 0.16 + 0.4275 * t * libm.pow v 0.16)
  else temp

def calcHeatindex (tc h : K) : K :=
  let c1 : K := -42.379
  let c2 : K := 2.04901523
  let c3 : K := 10.14333127
  let c4 : K := -0.22475541
  let c5 : K := -6.83783 * 10.0 ^ (-3 : ℤ)
  let c6 : K := -5.481717 * 10.0 ^ (-2 : ℤ)
  let c7 : K := 1.22874 * 10.0 ^ (-3 : ℤ)
  let c8 : K := 8.5282 * 10.0 ^ (-4 : ℤ)
  let c9 : K := -1.99 * 10.0 ^ (-6 : ℤ)
  let t := tempF tc
  if t < 80.0 ∨ h < 40.0 then tc
  else
    tempC (c1 + c2 * t + c3 * h + c4 * t * h + c5 * t * t + c6 * h * h + c7 * t * t * h +
      c8 * t * h * h + c9 * t * t * h * h)

def calcFeelslike (libm : Libm K) (temp speed humidity : K) : K :=
  if tempF temp ≥ 80.0 then calcHeatindex temp humidity
  else if tempF temp < 50.0 then calcWindchill libm temp speed
  else temp

/-- No `deg` passes the first test, which asks for both sides of north at once. -/
def degreesToCardinal (deg : K) : CString :=
  if deg > 348.75 ∧ deg < 11.25 then "N".toList
  else if deg ≥ 11.25 ∧ deg < 33.75 then "NNE".toList
  else if deg ≥ 33.75 ∧ deg < 56.25 then "NE".toList
  else if deg ≥ 56.25 ∧ deg < 78.75 then "ENE".toList
  else if deg ≥ 78.75 ∧ deg < 101.25 then "E".toList
  else if deg ≥ 101.25 ∧ deg < 123.75 then "ESE".toList
  else if deg ≥ 123.75 ∧ deg < 146.25 then "SE".toList
  else if deg ≥ 146.25 ∧ deg < 168.75 then "SSE".toList
  else if deg ≥ 168.75 ∧ deg < 191.25 then "S".toList
  else if deg ≥ 191.25 ∧ deg < 213.75 then "SSW".toList
  else if deg ≥ 213.75 ∧ deg < 236.25 then "SW".toList
  else if deg ≥ 236.25 ∧ deg < 258.75 then "WSW".toList
  else if deg ≥ 258.75 ∧ deg < 281.25 then "W".toList
  else if deg ≥ 281.25 ∧ deg < 303.75 then "WNW".toList
  else if deg ≥ 303.75 ∧ deg < 326.25 then "NW".toList
  else if deg ≥ 326.25 ∧ deg < 348.75 then "NNW".toList
  else []

-- ---------------------------------------------------------------------------
-- The pressure trend
-- ---------------------------------------------------------------------------

structure TrendData (K : Type) where
  t : Int
  p : K

/-- `trend` lists the records from the newest on; its last one is `trend_tail`.
`now` is the clock when the record is made, `check` the clock when the tail's
age is looked at. A tail without a predecessor cannot be dequeued. -/
def calcPressureTrend (now check : Int) (pressure : K) (trend : List (TrendData K)) :
    Except Fault (Int × List (TrendData K)) :=
  let td : TrendData K := ⟨now, pressure⟩
  let tail := trend.getLast?.getD td
  let pTrend := if tail.p < pressure then 1 else if tail.p > pressure then -1 else 0
  if check - tail.t ≥ 60 * 60 * 3 then
    if trend = [] then .error .nullDeref else .ok (pTrend, td :: trend.dropLast)
  else .ok (pTrend, td :: trend)

def pressureTrend (now : Int) (pressure : K) (trend : List (TrendData K)) :
    Int × List (TrendData K) :=
  let td : TrendData K := ⟨now, pressure⟩
  let tail := trend.getLast?.getD td
  (if tail.p < pressure then 1 else if tail.p > pressure then -1 else 0,
    td :: if now - tail.t ≥ 60 * 60 * 3 then trend.dropLast else trend)

omit [Field K] in
theorem calcPressureTrend_eq (now : Int) (pressure : K) (trend : List (TrendData K)) :
    calcPressureTrend now now pressure trend = .ok (pressureTrend now pressure trend) := by
  unfold calcPressureTrend pressureTrend
  cases trend with
  | nil => simp
  | cons td rest =>
    simp only [reduceCtorEq, if_false]
    split <;> rfl

end

end WfPublisher
