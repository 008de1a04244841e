import Mathlib
import WfPublisher.Services

/-!
# Batching publishers

Three publishers keep a record of sums and a counter in their file's statics.
A call in a mark minute sends what they hold and clears it; a call in any other
minute adds its record. What differs is how often a mark minute comes, what is
summed, and the request.
-/

namespace WfPublisher

section
variable {K : Type} [Zero K] [Neg K] [OfScientific K]

-- ---------------------------------------------------------------------------
-- The statics
-- ---------------------------------------------------------------------------

def WeatherData.zero : WeatherData K :=
  { WeatherData.initial .zero with temperatureHigh := 0, temperatureLow := 0 }

/-- `ws` and `count`; the counter stays far below the range of an `int`. -/
structure Batch (K : Type) where
  ws : WeatherData K
  count : Nat

def Batch.empty : Batch K := ⟨.zero, 0⟩

-- ---------------------------------------------------------------------------
-- A call
-- ---------------------------------------------------------------------------

structure BatchPublisher (K Request : Type) where
  /-- A mark minute is one that this divides. -/
  every : Nat
  convert : CfgInfo → WeatherData K → WeatherData K
  add : WeatherData K → WeatherData K → WeatherData K
  request : Call K → Batch K → Request

/-- The three ways through an update function. -/
inductive Path
  | accumulate
  | skip
  | send
  deriving DecidableEq

namespace BatchPublisher

variable {Request : Type} (p : BatchPublisher K Request)

omit [Zero K] [Neg K] [OfScientific K] in
def AtMark (t : CallTime) : Prop := (t.lt.tmMin : Nat) % p.every = 0

instance (t : CallTime) : Decidable (p.AtMark t) := inferInstanceAs (Decidable (_ = _))

def path (t : CallTime) (b : Batch K) : Path :=
  if ¬ p.AtMark t then .accumulate else if b.count = 0 then .skip else .send

def accumulate (call : Call K) (b : Batch K) : Batch K :=
  ⟨p.add b.ws (p.convert call.cfg call.wd), b.count + 1⟩

def update (call : Call K) (b : Batch K) : Batch K × Option Request :=
  match p.path call.time b with
  | .accumulate => (p.accumulate call b, none)
  | .skip => (b, none)
  | .send => (.empty, some (p.request call b))

end BatchPublisher

-- ---------------------------------------------------------------------------
-- CWOP
-- ---------------------------------------------------------------------------

section
variable [Add K] [Mul K] [Div K] [NatCast K] [BEq K] [LT K] [DecidableLT K] [CDouble K]

def roundInt (x : K) : Int := castInt (CDouble.round x)

structure CwopRequest where
  host : Option CString
  name : Option CString
  gm : Tm
  latitude : Option CString
  longitude : Option CString
  winddirection : Int
  windspeed : Int
  gustspeed : Int
  temperature : Int
  rainfall1hr : Int
  rainfallDay : Int
  humidity : Int
  pressure : Int
  solar : Int
  deriving DecidableEq

def cwop : BatchPublisher K CwopRequest where
  every := 10
  convert _ wd := unitConvert noPressure wd
  add ws wd :=
    { ws with
      pressure := ws.pressure + wd.pressure * 10.0
      windspeed := ws.windspeed + wd.windspeed
      winddirection := ws.winddirection + wd.winddirection
      temperature := ws.temperature + wd.temperature
      humidity := ws.humidity + wd.humidity
      solar := ws.solar + wd.solar
      gustspeed := if wd.gustspeed > ws.gustspeed then wd.gustspeed else ws.gustspeed
      rainfall1hr := wd.rainfall1hr
      rainfallDay := wd.rainfallDay }
  request call b :=
    let humidity := roundInt (b.ws.humidity / b.count)
    { host := call.cfg.host
      name := call.cfg.name
      gm := call.time.gm
      latitude := call.station.latitude
      longitude := call.station.longitude
      winddirection := roundInt (b.ws.winddirection / b.count)
      windspeed := roundInt (b.ws.windspeed / b.count)
      gustspeed := roundInt b.ws.gustspeed
      temperature := roundInt (b.ws.temperature / b.count)
      rainfall1hr := roundInt (b.ws.rainfall1hr * 100.0)
      rainfallDay := roundInt (b.ws.rainfallDay * 100.0)
      humidity := if humidity = 100 then 0 else humidity
      pressure := roundInt (b.ws.pressure / b.count)
      solar := roundInt (b.ws.solar / b.count) }

def sendToCwop (call : Call K) (b : Batch K) : Batch K × Option CwopRequest := cwop.update call b

end

-- ---------------------------------------------------------------------------
-- WeatherBug and PWS Weather
-- ---------------------------------------------------------------------------

section
variable [Add K] [Mul K] [Div K] [NatCast K] [BEq K] [LT K] [DecidableLT K]

/-- With `debug` set the request goes to another host. -/
def requestHost (debug : Bool) (cfg : CfgInfo) : Option CString :=
  if debug then some "www.bobshome.net".toList else cfg.host

def convertUnlessMetric (cfg : CfgInfo) (wd : WeatherData K) : WeatherData K :=
  if cfg.metric = 0 then unitConvert convertAll wd else wd

def addToAverage (ws wd : WeatherData K) : WeatherData K :=
  { ws with
    pressure := ws.pressure + wd.pressure
    windspeed := ws.windspeed + wd.windspeed
    winddirection := ws.winddirection + wd.winddirection
    gustspeed := if wd.gustspeed > ws.gustspeed then wd.gustspeed else ws.gustspeed
    gustdirection := wd.gustdirection
    humidity := ws.humidity + wd.humidity
    dewpoint := ws.dewpoint + wd.dewpoint
    temperature := ws.temperature + wd.temperature
    rainfallDay := wd.rainfallDay
    rainfall1hr := wd.rainfall1hr
    rainfallMonth := wd.rainfallMonth
    rainfallYear := wd.rainfallYear }

/-- The host is the one the request goes to, the header the one it names. -/
structure WeatherbugRequest (K : Type) where
  host : Option CString
  header : Option CString
  id : Option CString
  key : Option CString
  num : Option CString
  dateutc : Tm
  baromin : K
  dailyrainin : K
  rainin : K
  windgustdir : K
  winddir : K
  windgustmph : K
  windspeedmph : K
  humidity : K
  dewptf : K
  tempf : K
  monthlyrainin : K
  yearlyrainin : K

def weatherbug (debug : Bool) : BatchPublisher K (WeatherbugRequest K) where
  every := 2
  convert := convertUnlessMetric
  add := addToAverage
  request call b :=
    { host := requestHost debug call.cfg
      header := call.cfg.host
      id := call.cfg.name
      key := call.cfg.pass
      num := call.cfg.extra
      dateutc := call.time.gm
      baromin := b.ws.pressure / b.count
      dailyrainin := b.ws.rainfallDay
      rainin := b.ws.rainfall1hr
      windgustdir := b.ws.gustdirection
      winddir := b.ws.winddirection / b.count
      windgustmph := b.ws.gustspeed
      windspeedmph := b.ws.windspeed / b.count
      humidity := b.ws.humidity / b.count
      dewptf := b.ws.dewpoint / b.count
      tempf := b.ws.temperature / b.count
      monthlyrainin := b.ws.rainfallMonth
      yearlyrainin := b.ws.rainfallYear }

def sendToWeatherbug (debug : Bool) (call : Call K) (b : Batch K) :
    Batch K × Option (WeatherbugRequest K) := (weatherbug debug).update call b

structure PwsRequest (K : Type) where
  host : Option CString
  header : Option CString
  id : Option CString
  password : Option CString
  dateutc : Tm
  baromin : K
  dailyrainin : K
  rainin : K
  winddir : K
  windgustmph : K
  windspeedmph : K
  humidity : K
  dewptf : K
  tempf : K
  monthrainin : K
  yearrainin : K
  solarradiation : K
  uv : K

/-- The last two are of fields that nothing is ever added to. -/
def pws (debug : Bool) : BatchPublisher K (PwsRequest K) where
  every := 2
  convert := convertUnlessMetric
  add := addToAverage
  request call b :=
    { host := requestHost debug call.cfg
      header := call.cfg.host
      id := call.cfg.name
      password := call.cfg.pass
      dateutc := call.time.gm
      baromin := b.ws.pressure / b.count
      dailyrainin := b.ws.rainfallDay
      rainin := b.ws.rainfall1hr
      winddir := b.ws.winddirection / b.count
      windgustmph := b.ws.gustspeed
      windspeedmph := b.ws.windspeed / b.count
      humidity := b.ws.humidity / b.count
      dewptf := b.ws.dewpoint / b.count
      tempf := b.ws.temperature / b.count
      monthrainin := b.ws.rainfallMonth
      yearrainin := b.ws.rainfallYear
      solarradiation := b.ws.solar
      uv := b.ws.uv }

def sendToPws (debug : Bool) (call : Call K) (b : Batch K) : Batch K × Option (PwsRequest K) :=
  (pws debug).update call b

end

end

end WfPublisher
