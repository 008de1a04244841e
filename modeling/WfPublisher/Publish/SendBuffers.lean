import Mathlib
import WfPublisher.Publish.Conservation
import WfPublisher.Publish.Independence
import WfPublisher.Publish.Texts

/-!
# The send path's buffers

How long the texts get that `sprintf` writes into a buffer of fixed size depends
on the configured strings and on how many digits the numbers have in front of
their point. The numbers are those of the machine: what is too large for them is
printed as `inf`.
-/

namespace WfPublisher

open Printf hiding printF
open CDouble (printF)

section
variable {K : Type} [CDouble K]

-- ---------------------------------------------------------------------------
-- How long the texts are
-- ---------------------------------------------------------------------------

theorem length_ident (r : CwopRequest) : r.ident.length = (printS r.name).length + 40 := by
  unfold CwopRequest.ident
  simp only [List.length_flatten, List.map_cons, List.map_nil, List.sum_cons, List.sum_nil]
  have hnames : "user ".toList.length +
      " pass -1 vers linux-acu-link 1.00\r\n".toList.length = 40 := by
    decide +kernel
  omega

def CwopRequest.params (r : CwopRequest) : List (String × CString) :=
  [("", printS r.name), (">APRS,TCPIP*:/", printD 2 r.gm.tmMday), ("", printD 2 r.gm.tmHour),
    ("", printD 2 r.gm.tmMin), ("z", printS r.latitude), ("/", printS r.longitude),
    ("_", printD 3 r.winddirection), ("/", printD 3 r.windspeed), ("g", printD 3 r.gustspeed),
    ("t", printD 3 r.temperature), ("r", printD 3 r.rainfall1hr), ("P", printD 3 r.rainfallDay),
    ("h", printD 2 r.humidity), ("b", printD 5 r.pressure), ("L", printD 3 r.solar),
    ("400\r\n", [])]

theorem packet_eq (r : CwopRequest) : r.packet = printParams r.params := by
  simp only [CwopRequest.packet, CwopRequest.position, CwopRequest.params, printParams,
    List.flatMap_cons, List.flatMap_nil, List.flatten_cons, List.flatten_nil, List.append_assoc,
    List.append_nil, String.toList_empty, List.nil_append]

/-- The strings and the digits of a packet. -/
def packetWidth (strings : List (Option CString)) (gm : Tm) (numbers : List Int)
    (humidity pressure : Int) : Nat :=
  (strings.map fun s => (printS s).length).sum +
    ([(gm.tmMday : Int), gm.tmHour, gm.tmMin].map fun n => (printD 2 n).length).sum +
    (numbers.map fun n => (printD 3 n).length).sum + (printD 2 humidity).length +
    (printD 5 pressure).length

theorem length_packet (r : CwopRequest) : r.packet.length =
    packetWidth [r.name, r.latitude, r.longitude] r.gm
      [r.winddirection, r.windspeed, r.gustspeed, r.temperature, r.rainfall1hr, r.rainfallDay,
        r.solar] r.humidity r.pressure + 30 := by
  have hnames : (r.params.map fun param => param.1.length).sum = 30 := by
    unfold CwopRequest.params
    simp only [List.map_cons, List.map_nil]
    decide +kernel
  rw [packet_eq, length_printParams, hnames]
  unfold CwopRequest.params packetWidth
  simp only [List.map_cons, List.map_nil, List.sum_cons, List.sum_nil, List.length_nil]
  ring

def textWidth (strings : List (Option CString)) (time : Tm) (numbers totals : List K) : Nat :=
  (strings.map fun s => (printS s).length).sum + (timeStampUrl time).length +
    (numbers.map fun x => (printF 6 x).length).sum +
    (totals.map fun x => (printF 2 x).length).sum

theorem length_wundergroundText (r : WundergroundRequest K) : r.text.length =
    textWidth [r.id, r.password] r.dateutc
      [r.baromin, r.dailyrainin, r.rainin, r.windgustdir, r.winddir, r.windgustmph,
        r.windspeedmph, r.humidity, r.dewptf, r.tempf] [] + 209 := by
  have hnames : (r.params.map fun param => param.1.length).sum = 209 := by
    unfold WundergroundRequest.params
    simp only [List.map_cons, List.map_nil]
    decide +kernel
  rw [WundergroundRequest.text, length_printParams, hnames]
  unfold WundergroundRequest.params textWidth
  simp only [List.map_cons, List.map_nil, List.sum_cons, List.sum_nil]
  ring

theorem length_weatherbugText (r : WeatherbugRequest K) : r.text.length =
    textWidth [r.id, r.key, r.num] r.dateutc
      [r.baromin, r.dailyrainin, r.rainin, r.windgustdir, r.winddir, r.windgustmph,
        r.windspeedmph, r.humidity, r.dewptf, r.tempf] [r.monthlyrainin, r.yearlyrainin] + 212 := by
  have hnames : (r.params.map fun param => param.1.length).sum = 212 := by
    unfold WeatherbugRequest.params
    simp only [List.map_cons, List.map_nil]
    decide +kernel
  rw [WeatherbugRequest.text, length_printParams, hnames]
  unfold WeatherbugRequest.params textWidth
  simp only [List.map_cons, List.map_nil, List.sum_cons, List.sum_nil]
  ring

theorem length_pwsText (r : PwsRequest K) : r.text.length =
    textWidth [r.id, r.password] r.dateutc
      [r.baromin, r.dailyrainin, r.rainin, r.winddir, r.windgustmph, r.windspeedmph, r.humidity,
        r.dewptf, r.tempf] [r.monthrainin, r.yearrainin, r.solarradiation, r.uv] + 222 := by
  have hnames : (r.params.map fun param => param.1.length).sum = 222 := by
    unfold PwsRequest.params
    simp only [List.map_cons, List.map_nil]
    decide +kernel
  rw [PwsRequest.text, length_printParams, hnames]
  unfold PwsRequest.params textWidth
  simp only [List.map_cons, List.map_nil, List.sum_cons, List.sum_nil, List.length_nil]
  ring

theorem length_httpText (page : CString) (host : Option CString) :
    (httpText page host).length = page.length + (printS host).length + 48 := by
  have hnames : "GET /".length + " HTTP/1.0\r\nHost: ".length + "\r\nUser-Agent: ".length +
      "\r\n\r\n".length + "acu-link".toList.length = 48 := by
    decide +kernel
  rw [httpText, length_printParams]
  simp only [List.map_cons, List.map_nil, List.sum_cons, List.sum_nil, List.length_nil]
  omega

-- ---------------------------------------------------------------------------
-- What fits
-- ---------------------------------------------------------------------------

section
variable [Zero K] [Neg K] [OfScientific K] [Add K] [Mul K] [Div K] [NatCast K] [BEq K] [LT K]
  [DecidableLT K]

def wundergroundWidth (call : Call K) : Nat :=
  let wd := convertUnlessMetric call.cfg call.wd
  textWidth [call.cfg.name, call.cfg.pass] call.time.gm
    [wd.pressureSealevel, wd.rainfallDay, wd.rain, wd.gustdirection, wd.winddirection,
      wd.gustspeed, wd.windspeed, wd.humidity, wd.dewpoint, wd.temperature] []

def weatherbugWidth (call : Call K) (b : Batch K) : Nat :=
  textWidth [call.cfg.name, call.cfg.pass, call.cfg.extra] call.time.gm
    [b.ws.pressure / b.count, b.ws.rainfallDay, b.ws.rainfall1hr, b.ws.gustdirection,
      b.ws.winddirection / b.count, b.ws.gustspeed, b.ws.windspeed / b.count,
      b.ws.humidity / b.count, b.ws.dewpoint / b.count, b.ws.temperature / b.count]
    [b.ws.rainfallMonth, b.ws.rainfallYear]

def pwsWidth (call : Call K) (b : Batch K) : Nat :=
  textWidth [call.cfg.name, call.cfg.pass] call.time.gm
    [b.ws.pressure / b.count, b.ws.rainfallDay, b.ws.rainfall1hr, b.ws.winddirection / b.count,
      b.ws.gustspeed, b.ws.windspeed / b.count, b.ws.humidity / b.count, b.ws.dewpoint / b.count,
      b.ws.temperature / b.count]
    [b.ws.rainfallMonth, b.ws.rainfallYear, b.ws.solar, b.ws.uv]

def cwopWidth (call : Call K) (b : Batch K) : Nat :=
  let humidity := roundInt (b.ws.humidity / b.count)
  packetWidth [call.cfg.name, call.station.latitude, call.station.longitude] call.time.gm
    [roundInt (b.ws.winddirection / b.count), roundInt (b.ws.windspeed / b.count),
      roundInt b.ws.gustspeed, roundInt (b.ws.temperature / b.count),
      roundInt (b.ws.rainfall1hr * 100.0), roundInt (b.ws.rainfallDay * 100.0),
      roundInt (b.ws.solar / b.count)]
    (if humidity = 100 then 0 else humidity) (roundInt (b.ws.pressure / b.count))

def publishedNumbers (wd : WeatherData K) : List K :=
  [wd.temperature, wd.temperatureHigh, wd.temperatureLow, wd.humidity, wd.pressure,
    wd.pressureSealevel, wd.trend, wd.windspeed, wd.gustspeed, wd.winddirection,
    wd.gustdirection, wd.dewpoint, wd.heatindex, wd.windchill, wd.feelslike, wd.illumination,
    wd.solar, wd.uv, wd.distance, wd.rain, wd.dailyRain, wd.rainfall1hr, wd.rainfallDay,
    wd.rainfallMonth, wd.rainfallYear, wd.rainfall60min, wd.rainfall24hr] ++
  wd.towerList.flatMap fun sensor =>
    [sensor.temperature, sensor.temperatureHigh, sensor.temperatureLow, sensor.humidity]

/-- How much room there is, for each kind of service. -/
def WithinBuffers (debug : Bool) (service : ServiceInfo) (time : CallTime) (wd : WeatherData K)
    (s : Statics K) : Prop :=
  let call : Call K := ⟨service.cfg, service.station, time, wd⟩
  let host := (printS service.cfg.host).length
  match service.kind with
  | .weatherUnderground => wundergroundWidth call ≤ 814 ∧ wundergroundWidth call + host ≤ 3838
  | .weatherBug => (weatherbug (K := K) debug).path time s.weatherbug = .send →
    weatherbugWidth call s.weatherbug ≤ 811 ∧ weatherbugWidth call s.weatherbug + host ≤ 3835
  | .personalWeatherStation => (pws (K := K) debug).path time s.pws = .send →
    pwsWidth call s.pws ≤ 801 ∧ pwsWidth call s.pws + host ≤ 3825
  | .cwop => (cwop (K := K)).path time s.cwop = .send →
    cwopWidth call s.cwop ≤ 3969 ∧ (printS service.cfg.name).length ≤ 9
  | .mqtt =>
    ∀ x ∈ publishedNumbers (convertUnlessMetric service.cfg wd), (printF 6 x).length ≤ 29
  | .logfile | .mysql | .display => True

end

theorem page_fits_iff {page : CString} {host : Option CString} {extent literal : Nat}
    (hliteral : literal ≤ 1023) (h : page.length = extent + literal) :
    (∀ w ∈ [SendWrite.mk .request page, ⟨.str, httpText page host⟩], w.Fits) ↔
      extent ≤ 1023 - literal ∧ extent + (printS host).length ≤ 4047 - literal := by
  have hstr := length_httpText page host
  rw [List.forall_mem_cons, List.forall_mem_singleton]
  unfold SendWrite.Fits SendBuffer.capacity
  dsimp only
  omega

theorem packet_fits_iff (r : CwopRequest) :
    (∀ w ∈ r.writes, w.Fits) ↔ r.packet.length ≤ 3999 ∧ (printS r.name).length ≤ 9 := by
  have hident := length_ident r
  rw [CwopRequest.writes, List.forall_mem_cons, List.forall_mem_singleton]
  unfold SendWrite.Fits SendBuffer.capacity
  dsimp only
  omega

def Printed.Fits : Printed K → Prop
  | .number x => (printF 6 x).length ≤ 29
  | .integer n => (printD 0 n).length ≤ 29
  | .text _ => True

theorem payload_writes_fit_iff {payload : Printed K} :
    (∀ w ∈ payload.writes, w.Fits) ↔ payload.Fits := by
  cases payload with
  | number x =>
    rw [Printed.writes, List.forall_mem_singleton, SendWrite.Fits]
    exact Nat.add_le_add_iff_right (n := 1) (k := 29)
  | integer n =>
    rw [Printed.writes, List.forall_mem_singleton, SendWrite.Fits]
    exact Nat.add_le_add_iff_right (n := 1) (k := 29)
  | text s => simp [Printed.writes, Printed.Fits]

theorem length_printInt {n : Int} (h : intMin ≤ n ∧ n ≤ intMax) : (printD 0 n).length ≤ 11 := by
  have hdigits : (digits 0 n.natAbs).length ≤ 10 := by
    have hlt : n.natAbs < 10 ^ 10 := by
      have := h.1
      have := h.2
      unfold intMin intMax at *
      omega
    simpa [digits] using (Nat.length_toDigits_le_iff (by decide) (by decide)).mpr hlt
  unfold printD
  split
  · exact Nat.succ_le_succ hdigits
  · exact hdigits.trans (by decide)

omit [CDouble K] in
theorem topic_fits {sensor : SensorData K} (h : sensor.location.length ≤ 49) :
    ∀ message ∈ sensorTopics sensor, (SendWrite.mk .topic message.topic).Fits := by
  simp [sensorTopics, SendWrite.Fits, SendBuffer.capacity]
  omega

omit [CDouble K] in
theorem climate_payload (name : String) (payload : Printed K) :
    (climate name payload).payload = payload := rfl

theorem fits_number {x : K} : (Printed.number x).Fits ↔ (printF 6 x).length ≤ 29 := Iff.rfl

theorem fits_integer {n : Int} (h : intMin ≤ n ∧ n ≤ intMax) :
    (Printed.integer n : Printed K).Fits :=
  (length_printInt h).trans (by decide)

theorem fits_text {s : Option CString} : (Printed.text s : Printed K).Fits := trivial

theorem sensor_payloads_fit_iff (sensor : SensorData K) :
    (∀ message ∈ sensorTopics sensor, message.payload.Fits) ↔
      ∀ x ∈ [sensor.temperature, sensor.temperatureHigh, sensor.temperatureLow, sensor.humidity],
        (printF 6 x).length ≤ 29 := by
  simp only [sensorTopics, List.forall_mem_cons, List.not_mem_nil, false_implies, implies_true,
    fits_number]

section
variable [Zero K] [OfScientific K] [Add K] [Mul K] [Div K] [BEq K]

theorem payloads_fit_iff (call : Call K)
    (hstrikes : intMin ≤ call.wd.strikes ∧ call.wd.strikes ≤ intMax)
    (helevation : intMin ≤ call.station.elevation ∧ call.station.elevation ≤ intMax) :
    (∀ message ∈ mqttPublish call, message.payload.Fits) ↔
      ∀ x ∈ publishedNumbers (convertUnlessMetric call.cfg call.wd), (printF 6 x).length ≤ 29 := by
  have hkept : (convertUnlessMetric call.cfg call.wd).strikes = call.wd.strikes := by
    unfold convertUnlessMetric
    split <;> rfl
  rw [← hkept] at hstrikes
  unfold mqttPublish publishedNumbers
  generalize convertUnlessMetric call.cfg call.wd = wd at hstrikes
  dsimp only
  rw [List.forall_mem_append, List.forall_mem_append, List.forall_mem_flatMap,
    List.forall_mem_flatMap]
  refine and_congr ?_ (forall₂_congr fun sensor _ => sensor_payloads_fit_iff sensor)
  simp only [List.forall_mem_cons, climate_payload, fits_number, fits_integer hstrikes,
    fits_integer helevation, fits_text, true_and, List.not_mem_nil, false_implies, implies_true,
    and_true]

omit [CDouble K] in
theorem converted_names (cfg : CfgInfo) (wd : WeatherData K) :
    (convertUnlessMetric cfg wd).windDir = wd.windDir ∧
      (convertUnlessMetric cfg wd).towerList.map SensorData.location =
        wd.towerList.map SensorData.location := by
  unfold convertUnlessMetric
  split
  · exact ⟨rfl, by simp [unitConvert, SensorData.convert, Function.comp_def]⟩
  · exact ⟨rfl, rfl⟩

theorem mqtt_fits_iff (call : Call K) (hdir : call.wd.windDir.length ≤ 3)
    (hlocation : ∀ sensor ∈ call.wd.towerList, sensor.location.length ≤ 49)
    (hstrikes : intMin ≤ call.wd.strikes ∧ call.wd.strikes ≤ intMax)
    (helevation : intMin ≤ call.station.elevation ∧ call.station.elevation ≤ intMax) :
    (∀ w ∈ mqttWrites call, w.Fits) ↔
      ∀ x ∈ publishedNumbers (convertUnlessMetric call.cfg call.wd), (printF 6 x).length ≤ 29 := by
  obtain ⟨hwind, hnames⟩ := converted_names call.cfg call.wd
  have hbuf : (SendWrite.mk .buf (convertUnlessMetric call.cfg call.wd).windDir).Fits := by
    have hroom : 3 + 1 ≤ SendBuffer.buf.capacity := by decide
    rw [hwind]
    exact (Nat.succ_le_succ hdir).trans hroom
  have htopics : ∀ sensor ∈ (convertUnlessMetric call.cfg call.wd).towerList,
      ∀ w ∈ (sensorTopics sensor).map fun message => SendWrite.mk .topic message.topic,
        w.Fits := by
    intro sensor hsensor w hw
    obtain ⟨message, hmessage, rfl⟩ := List.mem_map.mp hw
    refine topic_fits ?_ message hmessage
    have hmem := List.mem_map_of_mem (f := SensorData.location) hsensor
    rw [hnames] at hmem
    obtain ⟨original, horiginal, heq⟩ := List.mem_map.mp hmem
    exact heq ▸ hlocation original horiginal
  rw [← payloads_fit_iff call hstrikes helevation]
  simp only [mqttWrites, List.forall_mem_append, List.forall_mem_cons, List.forall_mem_flatMap,
    payload_writes_fit_iff, hbuf, true_and]
  exact and_iff_left htopics

-- ---------------------------------------------------------------------------
-- Any call
-- ---------------------------------------------------------------------------

theorem wunderground_fits_iff (debug : Bool) (call : Call K) :
    (∀ w ∈ (sendToWunderground debug call).writes, w.Fits) ↔
      wundergroundWidth call ≤ 814 ∧
        wundergroundWidth call + (printS call.cfg.host).length ≤ 3838 :=
  page_fits_iff (by decide) (length_wundergroundText _)

variable [NatCast K] [LT K] [DecidableLT K]

theorem weatherbug_fits_iff (debug : Bool) (call : Call K) (b : Batch K) :
    (∀ w ∈ ((weatherbug debug).request call b).writes, w.Fits) ↔
      weatherbugWidth call b ≤ 811 ∧
        weatherbugWidth call b + (printS call.cfg.host).length ≤ 3835 :=
  page_fits_iff (by decide) (length_weatherbugText _)

theorem pws_fits_iff (debug : Bool) (call : Call K) (b : Batch K) :
    (∀ w ∈ ((pws debug).request call b).writes, w.Fits) ↔
      pwsWidth call b ≤ 801 ∧ pwsWidth call b + (printS call.cfg.host).length ≤ 3825 :=
  page_fits_iff (by decide) (length_pwsText _)

theorem cwop_fits_iff (call : Call K) (b : Batch K) :
    (∀ w ∈ (cwop.request call b).writes, w.Fits) ↔
      cwopWidth call b ≤ 3969 ∧ (printS call.cfg.name).length ≤ 9 := by
  rw [packet_fits_iff, length_packet]
  exact and_congr_left' (Nat.add_le_add_iff_right (n := 30) (k := 3969))

variable [Neg K]

omit [CDouble K] [Add K] [Mul K] [Div K] [BEq K] [NatCast K] [LT K] [DecidableLT K] in
theorem forall_sent_iff {Request : Type} (p : BatchPublisher K Request) (call : Call K)
    (b : Batch K) {Q : Request → Prop} : (∀ r ∈ (p.update call b).2.toList, Q r) ↔
      (p.path call.time b = .send → Q (p.request call b)) := by
  unfold BatchPublisher.update
  cases p.path call.time b <;> simp

theorem writes_fit_within (debug : Bool) (service : ServiceInfo) (time : CallTime)
    (wd : WeatherData K) (s : Statics K) (hdir : wd.windDir.length ≤ 3)
    (hlocation : ∀ sensor ∈ wd.towerList, sensor.location.length ≤ 49)
    (hstrikes : intMin ≤ wd.strikes ∧ wd.strikes ≤ intMax)
    (helevation : intMin ≤ service.station.elevation ∧ service.station.elevation ≤ intMax) :
    (∀ w ∈ sendWrites debug service time wd s, w.Fits) ↔
      WithinBuffers debug service time wd s := by
  obtain ⟨kind, enabled, station, cfg⟩ := service
  cases kind with
  | logfile | mysql | display => simp [sendWrites, WithinBuffers]
  | weatherUnderground => exact wunderground_fits_iff debug _
  | weatherBug =>
    refine List.forall_mem_flatMap.trans ((forall_sent_iff _ _ _).trans ?_)
    exact imp_congr_right fun _ => weatherbug_fits_iff debug _ s.weatherbug
  | personalWeatherStation =>
    refine List.forall_mem_flatMap.trans ((forall_sent_iff _ _ _).trans ?_)
    exact imp_congr_right fun _ => pws_fits_iff debug _ s.pws
  | cwop =>
    refine List.forall_mem_flatMap.trans ((forall_sent_iff _ _ _).trans ?_)
    exact imp_congr_right fun _ => cwop_fits_iff _ s.cwop
  | mqtt => exact mqtt_fits_iff ⟨cfg, station, time, wd⟩ hdir hlocation hstrikes helevation

end

end

-- ---------------------------------------------------------------------------
-- The machine's numbers
-- ---------------------------------------------------------------------------

/-- What a call writes fits if and only if there is room for it; and a `%f` of a finite
number has its integer digits, seven characters and perhaps a sign. -/
theorem sendWrites_fit_iff (debug : Bool) (service : ServiceInfo) (time : CallTime)
    (wd : WeatherData Float) (s : Statics Float) (hdir : wd.windDir.length ≤ 3)
    (hlocation : ∀ sensor ∈ wd.towerList, sensor.location.length ≤ 49)
    (hstrikes : intMin ≤ wd.strikes ∧ wd.strikes ≤ intMax)
    (helevation : intMin ≤ service.station.elevation ∧ service.station.elevation ≤ intMax) :
    ((∀ w ∈ sendWrites debug service time wd s, w.Fits) ↔
      WithinBuffers debug service time wd s) ∧
    ∀ (x : Float) (v : ℚ), floatValue x = some v → ∃ sign ≤ 1,
      (printF 6 x).length = sign + (digits 1 (units 6 v / 10 ^ 6)).length + 7 :=
  ⟨writes_fit_within debug service time wd s hdir hlocation hstrikes helevation,
    fun _ _ h => length_printFloat (by decide) h⟩

def namedService (kind : Kind) (name : String) : ServiceInfo :=
  ⟨kind, 1, noStation, { noStrings with name := some name.toList }⟩

def oneRecordEach : Statics Float := ⟨⟨.zero, 1⟩, ⟨.zero, 1⟩, ⟨.zero, 1⟩, none⟩

def recordZero : WeatherData Float := .zero

def coldRain : WeatherData Float := { recordZero with temperature := -12.5, rain := 1e21 }

/-- A name of ten characters, a rain of 10^23 mm, a temperature that becomes -10^21
when it is converted and rounded, and a name of 700 characters. -/
theorem longTexts_overflow :
    (∃ w ∈ sendWrites false (namedService .cwop "STATION-01") (minuteTime 10) recordZero
      oneRecordEach, ¬ w.Fits) ∧
    (∃ w ∈ sendWrites false (namedService .mqtt "home") (minuteTime 10)
      { recordZero with rain := 1e23 } oneRecordEach, ¬ w.Fits) ∧
    (∃ w ∈ sendWrites false
      { namedService .mqtt "home" with cfg := { noStrings with metric := 0 } } (minuteTime 10)
      { recordZero with temperature := -555555555555555540992.0 } oneRecordEach, ¬ w.Fits) ∧
    (∃ w ∈ sendWrites false
      { namedService .weatherBug "" with
        cfg := { noStrings with name := some (List.replicate 700 'a') } }
      (minuteTime 10) recordZero oneRecordEach, ¬ w.Fits) := by
  decide +kernel

theorem shortName_fits :
    (∀ w ∈ sendWrites false (namedService .cwop "STATION-1") (minuteTime 10) recordZero
      oneRecordEach, w.Fits) ∧
    ∀ w ∈ sendWrites false (namedService .mqtt "home") (minuteTime 10) coldRain oneRecordEach,
      w.Fits := by
  constructor
  · refine (sendWrites_fit_iff false (namedService .cwop "STATION-1") (minuteTime 10) recordZero
      oneRecordEach (by decide) (by decide) (by decide) (by decide)).1.mpr fun _ => ?_
    decide +kernel
  · refine (sendWrites_fit_iff false (namedService .mqtt "home") (minuteTime 10) coldRain
      oneRecordEach (by decide) (by decide) (by decide) (by decide)).1.mpr ?_
    change ∀ x ∈ publishedNumbers (convertUnlessMetric noStrings coldRain), (printF 6 x).length ≤ 29
    decide +kernel

end WfPublisher
