import Mathlib
import WfPublisher.Weather

/-!
# Unit conversion

`unit_convert` rewrites a record in place, from metric to English units. Here it
is a function of the record; what it does to the store is said where the copies
are. Where a result is about converted values, arithmetic is taken to be exact.
-/

namespace WfPublisher

def convertAll : Nat := 0x00
def noPressure : Nat := 0x01

section
variable {K : Type} [Add K] [Mul K] [Div K] [OfScientific K]

def mb2in (mb : K) : K := mb * 0.02952998751

def km2miles (km : K) : K := km / 1.609344

def SensorData.convert (sensor : SensorData K) : SensorData K :=
  { sensor with
    temperature := tempF sensor.temperature
    temperatureHigh := tempF sensor.temperatureHigh
    temperatureLow := tempF sensor.temperatureLow }

variable [Zero K] [BEq K]

def mm2inch (mm : K) : K := if mm == 0 then 0 else mm * 0.03937

def WeatherData.convert (skip : Nat) (wd : WeatherData K) : WeatherData K :=
  { wd with
    temperature := tempF wd.temperature
    temperatureHigh := tempF wd.temperatureHigh
    temperatureLow := tempF wd.temperatureLow
    dewpoint := tempF wd.dewpoint
    heatindex := tempF wd.heatindex
    windchill := tempF wd.windchill
    feelslike := tempF wd.feelslike
    windspeed := ms2mph wd.windspeed
    gustspeed := ms2mph wd.gustspeed
    pressure := if skip &&& noPressure = 0 then mb2in wd.pressure else wd.pressure
    pressureSealevel :=
      if skip &&& noPressure = 0 then mb2in wd.pressureSealevel else wd.pressureSealevel
    distance := km2miles wd.distance
    rain := mm2inch wd.rain
    dailyRain := mm2inch wd.dailyRain
    rainfall1hr := mm2inch wd.rainfall1hr
    rainfallDay := mm2inch wd.rainfallDay
    rainfallMonth := mm2inch wd.rainfallMonth
    rainfallYear := mm2inch wd.rainfallYear
    rainfall60min := mm2inch wd.rainfall60min
    rainfall24hr := mm2inch wd.rainfall24hr }

def unitConvert (skip : Nat) (wd : WeatherData K) : WeatherData K :=
  { wd.convert skip with towerList := wd.towerList.map SensorData.convert }

-- ---------------------------------------------------------------------------
-- What is converted how
-- ---------------------------------------------------------------------------

namespace WeatherData

variable (wd : WeatherData K)

omit [Add K] [Mul K] [Div K] [OfScientific K] [Zero K] [BEq K]

def temperatures : List K :=
  [wd.temperature, wd.temperatureHigh, wd.temperatureLow, wd.dewpoint, wd.heatindex, wd.windchill,
    wd.feelslike]

def speeds : List K := [wd.windspeed, wd.gustspeed]

def pressures : List K := [wd.pressure, wd.pressureSealevel]

def rains : List K :=
  [wd.rain, wd.dailyRain, wd.rainfall1hr, wd.rainfallDay, wd.rainfallMonth, wd.rainfallYear,
    wd.rainfall60min, wd.rainfall24hr]

def unitless : List K :=
  [wd.humidity, wd.winddirection, wd.gustdirection, wd.illumination, wd.solar, wd.uv, wd.trend]

end WeatherData

omit [Add K] [Mul K] [Div K] [OfScientific K] [Zero K] [BEq K] in
def SensorData.temperatures (sensor : SensorData K) : List K :=
  [sensor.temperature, sensor.temperatureHigh, sensor.temperatureLow]

/-- Every value that has another unit is converted once, no other, and the
pressures only without `NO_PRESSURE`. -/
structure ConvertedOnce (skip : Nat) (before after : WeatherData K) : Prop where
  temperatures : after.temperatures = before.temperatures.map tempF
  speeds : after.speeds = before.speeds.map ms2mph
  pressures : after.pressures =
    if skip &&& noPressure = 0 then before.pressures.map mb2in else before.pressures
  distance : after.distance = km2miles before.distance
  rains : after.rains = before.rains.map mm2inch
  unitless : after.unitless = before.unitless
  strikes : after.strikes = before.strikes
  texts : after.windDir = before.windDir ∧ after.timestamp = before.timestamp
  sensors : List.Forall₂ (fun b a : SensorData K => a.temperatures = b.temperatures.map tempF ∧
    a.humidity = b.humidity ∧ a.sensorId = b.sensorId ∧ a.timestamp = b.timestamp ∧
    a.location = b.location) before.towerList after.towerList

theorem unitConvert_convertedOnce (skip : Nat) (wd : WeatherData K) :
    ConvertedOnce skip wd (unitConvert skip wd) where
  temperatures := rfl
  speeds := rfl
  pressures := by
    simp only [WeatherData.pressures, unitConvert, WeatherData.convert]
    split <;> rfl
  distance := rfl
  rains := rfl
  unitless := rfl
  strikes := rfl
  texts := ⟨rfl, rfl⟩
  sensors := by
    simp only [unitConvert, List.forall₂_map_right_iff]
    exact List.forall₂_same.mpr fun sensor _ => ⟨rfl, rfl, rfl, rfl, rfl⟩

end

theorem mm2inch_eq {K : Type} [Field K] [LinearOrder K] (mm : K) : mm2inch mm = mm * 0.03937 := by
  unfold mm2inch
  split
  · rename_i h
    rw [beq_iff_eq.mp h, zero_mul]
  · rfl

end WfPublisher
