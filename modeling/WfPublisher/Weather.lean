import Mathlib
import WfPublisher.Rainfall
import WfPublisher.Util

/-!
# The weather record and the program's state

Everything the receive path writes. The tower list is a list of its entries in
the order of the `next` pointers.
-/

namespace WfPublisher

structure SensorData (K : Type) where
  sensorId : CString
  timestamp : Option CString
  temperature : K
  humidity : K
  temperatureHigh : K
  temperatureLow : K
  location : CString

structure WeatherData (K : Type) extends RainTotals K where
  timestamp : Option CString
  pressure : K
  pressureSealevel : K
  temperature : K
  humidity : K
  windspeed : K
  winddirection : K
  gustspeed : K
  gustdirection : K
  illumination : K
  distance : K
  solar : K
  uv : K
  strikes : Int
  rain : K
  dailyRain : K
  temperatureHigh : K
  temperatureLow : K
  dewpoint : K
  heatindex : K
  windchill : K
  trend : K
  feelslike : K
  windDir : CString
  towerList : List (SensorData K)

structure Globals (K : Type) where
  wd : WeatherData K
  interval : Int
  trend : List (TrendData K)
  rain60Min : Fin 60 → K
  rain24Hr : Fin 24 → K
  rainfallJson : Option (CJson K)

structure Config (K : Type) where
  debug : Bool
  elevation : Int
  sensorMapping : Option (CJson K)

/-- The C library, the machine's time zone, and when `rainfall.json` can be opened
to be written. -/
structure Host (K : Type) extends Libm K where
  zone : Int → LocalTime
  opens : Int → Bool

/-- As much of the C library as mild and saturated air asks for: `log 1 = 0`. -/
def calmHost : Host ℚ := ⟨⟨fun _ => 0, fun x _ => x⟩, utc, fun _ => true⟩

def quietConfig : Config ℚ := ⟨false, 0, none⟩

-- ---------------------------------------------------------------------------
-- Time stamps
-- ---------------------------------------------------------------------------

def padded (width : Nat) (fill : Char) (n : Int) : CString :=
  (toString n).toList.leftpad width fill

def timestampText (lt : Tm) : CString :=
  padded 4 ' ' (lt.tmYear + 1900) ++ ['-'] ++ padded 2 '0' (lt.tmMon + 1) ++ ['-'] ++
    padded 2 '0' lt.tmMday ++ [' '] ++ padded 2 '0' lt.tmHour ++ [':'] ++
    padded 2 '0' lt.tmMin ++ [':'] ++ padded 2 '0' lt.tmSec

-- ---------------------------------------------------------------------------
-- The rain part of the state
-- ---------------------------------------------------------------------------

section
variable {K : Type}

def Globals.rainState (g : Globals K) : RainState K :=
  ⟨g.wd.toRainTotals, g.rain60Min, g.rain24Hr, g.rainfallJson⟩

def Globals.withRain (g : Globals K) (s : RainState K) : Globals K :=
  { g with
    wd := { g.wd with toRainTotals := s.wd }
    rain60Min := s.rain60Min, rain24Hr := s.rain24Hr, rainfallJson := s.rainfallJson }

end

-- ---------------------------------------------------------------------------
-- Start
-- ---------------------------------------------------------------------------

section
variable {K : Type} [Zero K] [Neg K] [OfScientific K]

/-- The record of `main` before the first datagram: zeroed, the extremes out of
range, the rain totals as `read_rainfall` left them. -/
def WeatherData.initial (totals : RainTotals K) : WeatherData K where
  toRainTotals := totals
  timestamp := none
  pressure := 0
  pressureSealevel := 0
  temperature := 0
  humidity := 0
  windspeed := 0
  winddirection := 0
  gustspeed := 0
  gustdirection := 0
  illumination := 0
  distance := 0
  solar := 0
  uv := 0
  strikes := 0
  rain := 0
  dailyRain := 0
  temperatureHigh := -100.0
  temperatureLow := 150.0
  dewpoint := 0
  heatindex := 0
  windchill := 0
  trend := 0
  feelslike := 0
  windDir := []
  towerList := []

def Globals.initial (totals : RainTotals K) (rainfallJson : Option (CJson K)) : Globals K where
  wd := .initial totals
  interval := 0
  trend := []
  rain60Min := fun _ => 0
  rain24Hr := fun _ => 0
  rainfallJson := rainfallJson

end

end WfPublisher
