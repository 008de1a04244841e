import WfPublisher.Publish.Ledger

/-!
# What the services send

The publishers without statics of their own, and one call of any kind of service
on the statics of all files.
-/

namespace WfPublisher

section
variable {K : Type} [Zero K] [OfScientific K] [Add K] [Mul K] [Div K] [BEq K]

-- ---------------------------------------------------------------------------
-- Weather Underground
-- ---------------------------------------------------------------------------

structure WundergroundRequest (K : Type) where
  host : Option CString
  header : Option CString
  id : Option CString
  password : Option CString
  dateutc : Tm
  baromin : K
  dailyrainin : K
  rainin : K
  windgustdir : K
  winddir : K
  windgustmph : K
  windspeedmph : K
  humidity : K
  dewptf : K
  tempf : K

def sendToWunderground (debug : Bool) (call : Call K) : WundergroundRequest K :=
  let wd := convertUnlessMetric call.cfg call.wd
  { host := requestHost debug call.cfg
    header := call.cfg.host
    id := call.cfg.name
    password := call.cfg.pass
    dateutc := call.time.gm
    baromin := wd.pressureSealevel
    dailyrainin := wd.rainfallDay
    rainin := wd.rain
    windgustdir := wd.gustdirection
    winddir := wd.winddirection
    windgustmph := wd.gustspeed
    windspeedmph := wd.windspeed
    humidity := wd.humidity
    dewptf := wd.dewpoint
    tempf := wd.temperature }

-- ---------------------------------------------------------------------------
-- The log file
-- ---------------------------------------------------------------------------

structure LogLine (K : Type) where
  file : Option CString
  time : Tm
  pressure : K
  pStr : CString
  rainfallYear : K
  rainfallMonth : K
  rainfallDay : K
  rainfall1hr : K
  rain : K
  winddirection : K
  gustspeed : K
  mStr : CString
  windspeed : K
  humidity : K
  dewpoint : K
  temperature : K

def sendToLog (call : Call K) : LogLine K :=
  let wd := convertUnlessMetric call.cfg call.wd
  { file := call.cfg.host
    time := call.time.lt
    pressure := wd.pressure
    pStr := if call.cfg.metric = 0 then "HgIn".toList else "mb".toList
    rainfallYear := wd.rainfallYear
    rainfallMonth := wd.rainfallMonth
    rainfallDay := wd.rainfallDay
    rainfall1hr := wd.rainfall1hr
    rain := wd.rain
    winddirection := wd.winddirection
    gustspeed := wd.gustspeed
    mStr := if call.cfg.metric = 0 then "mph".toList else "m/s".toList
    windspeed := wd.windspeed
    humidity := wd.humidity
    dewpoint := wd.dewpoint
    temperature := wd.temperature }

-- ---------------------------------------------------------------------------
-- The database
-- ---------------------------------------------------------------------------

structure WeatherLog (K : Type) where
  pressure : K
  temperature : K
  humidity : K
  windspeed : K
  winddirection : K
  gustspeed : K
  gustdirection : K
  rainfall1min : K
  rainfall1hr : K
  rainfallDay : K
  rainfallMonth : K
  rainfallYear : K
  dewpoint : K
  heatindex : K

structure DbInsert (K : Type) where
  host : Option CString
  database : Option CString
  user : Option CString
  password : Option CString
  row : WeatherLog K

/-- From `gustdirection` on, six columns are given the value meant for the next. -/
def sendToDb (call : Call K) : DbInsert K :=
  let wd := convertUnlessMetric call.cfg call.wd
  { host := call.cfg.host
    database := call.cfg.extra
    user := call.cfg.name
    password := call.cfg.pass
    row :=
      { pressure := wd.pressure
        temperature := wd.temperature
        humidity := wd.humidity
        windspeed := wd.windspeed
        winddirection := wd.winddirection
        gustspeed := wd.gustspeed
        gustdirection := wd.rain
        rainfall1min := wd.rainfall1hr
        rainfall1hr := wd.rainfallDay
        rainfallDay := wd.rainfallMonth
        rainfallMonth := wd.rainfallYear
        rainfallYear := wd.winddirection
        dewpoint := wd.dewpoint
        heatindex := wd.heatindex } }

-- ---------------------------------------------------------------------------
-- MQTT
-- ---------------------------------------------------------------------------

inductive Printed (K : Type)
  | number (x : K)
  | integer (n : Int)
  | text (s : Option CString)

structure MqttMessage (K : Type) where
  topic : CString
  payload : Printed K

def climate (name : String) (payload : Printed K) : MqttMessage K :=
  ⟨"home/climate/".toList ++ name.toList, payload⟩

def sensorTopics (sensor : SensorData K) : List (MqttMessage K) :=
  let topic (name : String) := "home/".toList ++ sensor.location ++ name.toList
  [⟨topic "/temperature", .number sensor.temperature⟩,
    ⟨topic "/high_temperature", .number sensor.temperatureHigh⟩,
    ⟨topic "/low_temperature", .number sensor.temperatureLow⟩,
    ⟨topic "/humidity", .number sensor.humidity⟩]

def mqttPublish (call : Call K) : List (MqttMessage K) :=
  let wd := convertUnlessMetric call.cfg call.wd
  [climate "last_update" (.text wd.timestamp),
    climate "temperature" (.number wd.temperature),
    climate "high_temperature" (.number wd.temperatureHigh),
    climate "low_temperature" (.number wd.temperatureLow),
    climate "humidity" (.number wd.humidity),
    climate "pressure" (.number wd.pressure),
    climate "sealevel" (.number wd.pressureSealevel),
    climate "pressure_trend" (.number wd.trend),
    climate "wind_speed" (.number wd.windspeed),
    climate "gust_speed" (.number wd.gustspeed),
    climate "wind_direction" (.number wd.winddirection),
    climate "gust_direction" (.number wd.gustdirection),
    climate "dewpoint" (.number wd.dewpoint),
    climate "heat_index" (.number wd.heatindex),
    climate "windchill" (.number wd.windchill),
    climate "feels_like" (.number wd.feelslike),
    climate "illumination" (.number wd.illumination),
    climate "solar_radiation" (.number wd.solar),
    climate "UV_index" (.number wd.uv),
    climate "lightning_strikes" (.integer wd.strikes),
    climate "lightning_distance" (.number wd.distance),
    climate "rain" (.number wd.rain),
    climate "daily_rain" (.number wd.dailyRain),
    climate "hour_rain" (.number wd.rainfall1hr),
    climate "day_rain" (.number wd.rainfallDay),
    climate "month_rain" (.number wd.rainfallMonth),
    climate "year_rain" (.number wd.rainfallYear),
    climate "rain_60min" (.number wd.rainfall60min),
    climate "rain_24hr" (.number wd.rainfall24hr),
    climate "wind_dir_text" (.text (some wd.windDir)),
    climate "station" (.text call.station.name),
    climate "location" (.text call.station.location),
    climate "latitude" (.text call.station.latitude),
    climate "longitude" (.text call.station.longitude),
    climate "elevation" (.integer call.station.elevation)] ++
  wd.towerList.flatMap sensorTopics

-- ---------------------------------------------------------------------------
-- The display
-- ---------------------------------------------------------------------------

structure Shown (K : Type) where
  label : CString
  value : Printed K
  unit : CString

variable [LT K] [DecidableLT K]

def trendText (trend : K) : CString :=
  if trend > 0 then "raising".toList else if trend < 0 then "falling".toList else "steady".toList

def displayWd (call : Call K) : List (Shown K) :=
  let wd := convertUnlessMetric call.cfg call.wd
  let english := call.cfg.metric = 0
  let tStr := if english then "°F".toList else "°C".toList
  let sStr := if english then " mph".toList else " m/s".toList
  let rStr := if english then " in".toList else " mm".toList
  let pStr := if english then " in/hg".toList else " mb".toList
  let dStr := if english then " miles".toList else " km".toList
  let shown (label : String) (value : Printed K) (unit : CString) : Shown K :=
    ⟨label.toList, value, unit⟩
  [shown "" (.text call.station.name) [],
    shown "Last Update" (.text wd.timestamp) [],
    shown "Temperature" (.number wd.temperature) tStr,
    shown "High" (.number wd.temperatureHigh) tStr,
    shown "Low" (.number wd.temperatureLow) tStr,
    shown "Dew point" (.number wd.dewpoint) tStr,
    shown "Windchill" (.number wd.windchill) tStr,
    shown "Heat index" (.number wd.heatindex) tStr,
    shown "Pressure" (.number wd.pressure) pStr,
    shown "Humidity" (.number wd.humidity) "%".toList,
    shown "Feels like" (.number wd.feelslike) tStr,
    shown "Wind speed" (.number wd.windspeed) sStr,
    shown "Wind dir" (.number wd.winddirection) "°".toList,
    shown "" (.text (some wd.windDir)) [],
    shown "Gust speed" (.number wd.gustspeed) sStr,
    shown "Gust dir" (.number wd.gustdirection) "°".toList,
    shown "Illumination" (.number wd.illumination) " Lux".toList,
    shown "Solar Rad" (.number wd.solar) " W/m^2".toList,
    shown "UV index" (.number wd.uv) [],
    shown "Rain" (.number wd.rain) rStr,
    shown "Rain 1hr" (.number wd.rainfall60min) rStr,
    shown "Rain 24hrs" (.number wd.rainfall24hr) rStr,
    shown "Daily rain" (.number wd.rainfallDay) rStr,
    shown "Monthly" (.number wd.rainfallMonth) rStr,
    shown "Yearly" (.number wd.rainfallYear) rStr,
    shown "Pressure trend" (.text (some (trendText wd.trend))) [],
    shown "Lighting" (.integer wd.strikes) [],
    shown "Distance" (.number wd.distance) dStr] ++
  wd.towerList.flatMap fun sensor =>
    [shown "Sensor" (.text (some (sensor.location.take 9))) [],
      shown "Humidity" (.number sensor.humidity) "%".toList,
      shown "Temperature" (.number sensor.temperature) tStr,
      shown "High" (.number sensor.temperatureHigh) tStr,
      shown "Low" (.number sensor.temperatureLow) tStr]

end

-- ---------------------------------------------------------------------------
-- Any kind
-- ---------------------------------------------------------------------------

/-- Where `mqtt_init` connects to; the port is read from `extra`. -/
structure Broker where
  host : Option CString
  extra : Option CString
  deriving DecidableEq

inductive Request (K : Type)
  | logfile (line : LogLine K)
  | wunderground (request : WundergroundRequest K)
  | weatherbug (request : WeatherbugRequest K)
  | pws (request : PwsRequest K)
  | cwop (request : CwopRequest)
  | mqtt (broker : Option Broker) (messages : List (MqttMessage K))
  | mysql (insert : DbInsert K)
  | display (page : List (Shown K))

/-- The statics of the publishers' files: `ws` and `count` of three of them, and
where `mosq` is connected to. -/
structure Statics (K : Type) where
  weatherbug : Batch K
  pws : Batch K
  cwop : Batch K
  mosq : Option Broker

/-- `mqtt_init` is called for every entry of the kind, enabled or not. -/
def brokerOf (services : List ServiceInfo) : Option Broker :=
  (services.filter fun service => service.kind = .mqtt).getLast?.map fun service =>
    ⟨service.cfg.host, service.cfg.extra⟩

section
variable {K : Type} [Zero K] [Neg K] [OfScientific K]

def initializePublishers (services : List ServiceInfo) : Statics K where
  weatherbug := .empty
  pws := .empty
  cwop := .empty
  mosq := brokerOf services

variable [Add K] [Mul K] [Div K] [NatCast K] [BEq K] [LT K] [DecidableLT K] [CDouble K]

def formRequest (debug : Bool) (service : ServiceInfo) (time : CallTime) (wd : WeatherData K)
    (s : Statics K) : Statics K × Option (Request K) :=
  let call : Call K := ⟨service.cfg, service.station, time, wd⟩
  match service.kind with
  | .logfile => (s, some (.logfile (sendToLog call)))
  | .weatherUnderground => (s, some (.wunderground (sendToWunderground debug call)))
  | .weatherBug =>
    let (batch, request) := sendToWeatherbug debug call s.weatherbug
    ({ s with weatherbug := batch }, request.map .weatherbug)
  | .personalWeatherStation =>
    let (batch, request) := sendToPws debug call s.pws
    ({ s with pws := batch }, request.map .pws)
  | .cwop =>
    let (batch, request) := sendToCwop call s.cwop
    ({ s with cwop := batch }, request.map .cwop)
  | .mqtt => (s, some (.mqtt s.mosq (mqttPublish call)))
  | .mysql => (s, some (.mysql (sendToDb call)))
  | .display => (s, some (.display (displayWd call)))

end

-- ---------------------------------------------------------------------------
-- The statics of a kind
-- ---------------------------------------------------------------------------

section
variable {K : Type}

/-- The batch a kind of service keeps between its calls, if it keeps one. -/
def Statics.batchOf (s : Statics K) : Kind → Option (Batch K)
  | .weatherBug => some s.weatherbug
  | .personalWeatherStation => some s.pws
  | .cwop => some s.cwop
  | .logfile | .weatherUnderground | .mqtt | .mysql | .display => none

def Kind.Batching (kind : Kind) : Prop :=
  kind = .weatherBug ∨ kind = .personalWeatherStation ∨ kind = .cwop

instance (kind : Kind) : Decidable kind.Batching := inferInstanceAs (Decidable (_ ∨ _))

def Statics.held (s : Statics K) (kind : Kind) : Nat := ((s.batchOf kind).map Batch.count).getD 0

theorem batchOf_eq_none {kind : Kind} (h : ¬ kind.Batching) (s : Statics K) :
    s.batchOf kind = none := by
  cases kind with
  | weatherBug | personalWeatherStation | cwop => exact absurd (by decide) h
  | logfile | weatherUnderground | mqtt | mysql | display => rfl

variable [Zero K] [Neg K] [OfScientific K] [Add K] [Mul K] [Div K] [NatCast K] [BEq K] [LT K]
  [DecidableLT K] [CDouble K] {debug : Bool} {service : ServiceInfo} {time : CallTime}
  {wd : WeatherData K} {s t : Statics K} {kind : Kind}

omit [Neg K] [NatCast K] [LT K] [DecidableLT K] [CDouble K] in
theorem convertUnlessMetric_eq (h : kind ≠ .cwop) (cfg : CfgInfo) (wd : WeatherData K) :
    convertUnlessMetric cfg wd = kind.converted cfg wd := by
  have hconversion : kind.conversion cfg = if cfg.metric = 0 then some convertAll else none := by
    cases kind <;> first | rfl | exact absurd rfl h
  rw [convertUnlessMetric, Kind.converted, hconversion]
  by_cases hmetric : cfg.metric = 0
  · rw [if_pos hmetric, if_pos hmetric]
  · rw [if_neg hmetric, if_neg hmetric]

omit [Neg K] in
theorem cwop_convert_eq (cfg : CfgInfo) (wd : WeatherData K) :
    cwop.convert cfg wd = Kind.cwop.converted cfg wd := rfl

/-- An update function reads its record only after the conversion of its kind. -/
theorem formRequest_converted {wd' : WeatherData K}
    (h : service.kind.converted service.cfg wd = service.kind.converted service.cfg wd') :
    formRequest debug service time wd s = formRequest debug service time wd' s := by
  obtain ⟨own, enabled, station, cfg⟩ := service
  by_cases hcwop : own = .cwop
  · subst hcwop
    rw [← cwop_convert_eq, ← cwop_convert_eq] at h
    simp only [formRequest, sendToCwop, BatchPublisher.update, BatchPublisher.accumulate, h]
    rfl
  · rw [← convertUnlessMetric_eq hcwop, ← convertUnlessMetric_eq hcwop] at h
    cases own with
    | cwop => exact absurd rfl hcwop
    | logfile => simp only [formRequest, sendToLog, h]
    | weatherUnderground => simp only [formRequest, sendToWunderground, h]
    | mqtt => simp only [formRequest, mqttPublish, h]
    | mysql => simp only [formRequest, sendToDb, h]
    | display => simp only [formRequest, displayWd, h]
    | weatherBug =>
      have hconvert : (weatherbug debug).convert cfg wd = (weatherbug debug).convert cfg wd' := h
      simp only [formRequest, sendToWeatherbug, BatchPublisher.update, BatchPublisher.accumulate,
        hconvert]
      rfl
    | personalWeatherStation =>
      have hconvert : (pws debug).convert cfg wd = (pws debug).convert cfg wd' := h
      simp only [formRequest, sendToPws, BatchPublisher.update, BatchPublisher.accumulate,
        hconvert]
      rfl

theorem batchOf_formRequest (h : service.kind ≠ kind) :
    (formRequest debug service time wd s).1.batchOf kind = s.batchOf kind := by
  obtain ⟨own, enabled, station, cfg⟩ := service
  cases own <;> cases kind <;> first | rfl | exact absurd rfl h

theorem mosq_formRequest : (formRequest debug service time wd s).1.mosq = s.mosq := by
  obtain ⟨own, enabled, station, cfg⟩ := service
  cases own <;> rfl

theorem formRequest_congr (debug : Bool) (time : CallTime) (wd : WeatherData K)
    (hbatch : s.batchOf service.kind = t.batchOf service.kind)
    (hmosq : service.kind = .mqtt → s.mosq = t.mosq) :
    (formRequest debug service time wd s).2 = (formRequest debug service time wd t).2 ∧
      (formRequest debug service time wd s).1.batchOf service.kind =
        (formRequest debug service time wd t).1.batchOf service.kind := by
  obtain ⟨own, enabled, station, cfg⟩ := service
  cases own with
  | logfile | weatherUnderground | mysql | display => exact ⟨rfl, rfl⟩
  | mqtt => exact ⟨by simp only [formRequest, hmosq rfl], rfl⟩
  | weatherBug | personalWeatherStation | cwop =>
    have hbatch := Option.some.inj hbatch
    simp only [formRequest, hbatch, Statics.batchOf, and_self]

-- ---------------------------------------------------------------------------
-- A batching kind's calls
-- ---------------------------------------------------------------------------

theorem held_update_mark (hkind : service.kind.Batching) (hmin : (time.lt.tmMin : Nat) = 10) :
    (formRequest debug service time wd s).1.held service.kind = 0 ∧
      ((formRequest debug service time wd s).2 = none ↔ s.held service.kind = 0) := by
  obtain ⟨own, enabled, station, cfg⟩ := service
  obtain rfl | rfl | rfl := hkind
  · have hmark : (weatherbug (K := K) debug).AtMark time := by
      simp [BatchPublisher.AtMark, weatherbug, hmin]
    simpa [formRequest, Statics.held, Statics.batchOf, sendToWeatherbug] using
      BatchPublisher.update_of_mark ⟨cfg, station, time, wd⟩ hmark s.weatherbug
  · have hmark : (pws (K := K) debug).AtMark time := by simp [BatchPublisher.AtMark, pws, hmin]
    simpa [formRequest, Statics.held, Statics.batchOf, sendToPws] using
      BatchPublisher.update_of_mark ⟨cfg, station, time, wd⟩ hmark s.pws
  · have hmark : (cwop (K := K)).AtMark time := by simp [BatchPublisher.AtMark, cwop, hmin]
    simpa [formRequest, Statics.held, Statics.batchOf, sendToCwop] using
      BatchPublisher.update_of_mark ⟨cfg, station, time, wd⟩ hmark s.cwop

theorem held_update_early (hkind : service.kind.Batching) (hmin : (time.lt.tmMin : Nat) = 1) :
    (formRequest debug service time wd s).1.held service.kind = s.held service.kind + 1 ∧
      (formRequest debug service time wd s).2 = none := by
  obtain ⟨own, enabled, station, cfg⟩ := service
  obtain rfl | rfl | rfl := hkind
  · have hmark : ¬ (weatherbug (K := K) debug).AtMark time := by
      simp [BatchPublisher.AtMark, weatherbug, hmin]
    simpa [formRequest, Statics.held, Statics.batchOf, sendToWeatherbug] using
      BatchPublisher.update_of_not_mark ⟨cfg, station, time, wd⟩ hmark s.weatherbug
  · have hmark : ¬ (pws (K := K) debug).AtMark time := by simp [BatchPublisher.AtMark, pws, hmin]
    simpa [formRequest, Statics.held, Statics.batchOf, sendToPws] using
      BatchPublisher.update_of_not_mark ⟨cfg, station, time, wd⟩ hmark s.pws
  · have hmark : ¬ (cwop (K := K)).AtMark time := by simp [BatchPublisher.AtMark, cwop, hmin]
    simpa [formRequest, Statics.held, Statics.batchOf, sendToCwop] using
      BatchPublisher.update_of_not_mark ⟨cfg, station, time, wd⟩ hmark s.cwop

end

end WfPublisher
