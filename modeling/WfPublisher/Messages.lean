import WfPublisher.CJson.Parse
import WfPublisher.Weather

/-!
# The message handlers

`wf_message_parse` and the four handlers behind it. The clock does not move
while a datagram is processed, so `now` is every `time(NULL)` in here.
-/

namespace WfPublisher

section
variable {K : Type} [Field K] [LinearOrder K] [FloorRing K]

def airData : Nat := 1
def skyData : Nat := 2

def gustInterval : Int := 30

def setWd (j : Option (CJson K)) (v : Nat) : Except Fault K := do
  let tmp ← deref (getArrayItem j v)
  return tmp.valuedouble

def setWi (j : Option (CJson K)) (v : Nat) : Except Fault Int := do
  let tmp ← deref (getArrayItem j v)
  return tmp.valueint

/-- `localtime((long *)&tmp->valueint)`: the `int` is the low half of the eight
bytes read, and the padding behind it is zero. -/
def stampTime (host : Host K) (tmp : CJson K) : Tm :=
  localtime (host.zone (tmp.valueint % 2 ^ 32))

-- ---------------------------------------------------------------------------
-- Air
-- ---------------------------------------------------------------------------

def airRow (host : Host K) (config : Config K) (now : Int) (ob : Option (CJson K))
    (g : Globals K) : Except Fault (Globals K) := do
  let tmp ← deref (getArrayItem ob 0)
  let lt := stampTime host tmp
  let wd := { g.wd with timestamp := some (timestampText lt) }
  let wd := { wd with pressure := ← setWd ob 1 }
  let wd := { wd with temperature := ← setWd ob 2 }
  let wd := { wd with humidity := ← setWd ob 3 }
  let wd := { wd with strikes := ← setWi ob 4 }
  let wd := { wd with distance := ← setWd ob 5 }
  let wd := { wd with
    pressureSealevel := station2Sealevel wd.pressure ((config.elevation : K) * 0.3048) }
  let wd := { wd with dewpoint := calcDewpoint host.toLibm wd.temperature wd.humidity }
  let wd := { wd with heatindex := calcHeatindex wd.temperature wd.humidity }
  let (pTrend, trend) ← calcPressureTrend now now wd.pressure g.trend
  let wd := { wd with trend := ((pTrend : Int) : K) }
  let wd := { wd with temperatureHigh :=
    if wd.temperature > wd.temperatureHigh then wd.temperature else wd.temperatureHigh }
  let wd := { wd with temperatureLow :=
    if wd.temperature < wd.temperatureLow then wd.temperature else wd.temperatureLow }
  return { g with wd, trend }

def printSerialNumber (config : Config K) (message : Option (CJson K)) : Except Fault Unit := do
  if config.debug then
    let tmp ← getObjectItemCaseSensitive message "serial_number".toList
    let _ ← deref tmp

def wfpAirParse (host : Host K) (config : Config K) (now : Int) (air : Option (CJson K))
    (g : Globals K) : Except Fault (Globals K) := do
  printSerialNumber config air
  let obs ← getObjectItemCaseSensitive air "obs".toList
  forEachItem obs (airRow host config now) g

-- ---------------------------------------------------------------------------
-- Sky
-- ---------------------------------------------------------------------------

def skyRow (host : Host K) (now : Int) (ob : Option (CJson K)) (g : Globals K) :
    Except Fault (Globals K) := do
  let wd := g.wd
  let wd := { wd with illumination := ← setWd ob 1 }
  let uv ← setWi ob 2
  let wd := { wd with uv := (uv : K) }
  let wd := { wd with rain := ← setWd ob 3 }
  let wd := { wd with windspeed := ← setWd ob 5 }
  let wd := { wd with winddirection := ← setWd ob 7 }
  let wd := { wd with solar := ← setWd ob 10 }
  -- `strncpy` of 3 into `char[4]`, whose last byte stays zero
  let wd := { wd with windDir := (degreesToCardinal wd.winddirection).take 3 }
  let wd := { wd with windchill := calcWindchill host.toLibm wd.temperature wd.windspeed }
  let wd := { wd with
    feelslike := calcFeelslike host.toLibm wd.temperature wd.windspeed wd.humidity }
  -- both branches read item 6
  let gust ← setWd ob 6
  let g :=
    if g.interval = gustInterval then
      { g with
        wd := { wd with gustspeed := gust, gustdirection := wd.winddirection }
        interval := 0 }
    else
      { g with
        wd := if gust > wd.gustspeed then
          { wd with gustspeed := gust, gustdirection := wd.winddirection } else wd
        interval := g.interval + 1 }
  let rain ← accumulateRainOn (host.opens now) (host.zone now) (host.zone now) g.wd.rain g.rainState
  return g.withRain rain

def wfpSkyParse (host : Host K) (config : Config K) (now : Int) (sky : Option (CJson K))
    (g : Globals K) : Except Fault (Globals K) := do
  printSerialNumber config sky
  let obs ← getObjectItemCaseSensitive sky "obs".toList
  forEachItem obs (skyRow host now) g

-- ---------------------------------------------------------------------------
-- Rapid wind
-- ---------------------------------------------------------------------------

def wfpWindParse (wind : Option (CJson K)) (g : Globals K) : Except Fault (Globals K) := do
  let obs ← getObjectItemCaseSensitive wind "ob".toList
  let ob ← deref (getArrayItem obs 2)
  let direction : K := (ob.valueint : K)
  let ob ← deref (getArrayItem obs 1)
  let gust := { g.wd with gustspeed := ob.valuedouble, gustdirection := direction }
  if g.interval = gustInterval then
    return { g with wd := gust, interval := 0 }
  else if ob.valuedouble > g.wd.gustspeed then
    return { g with wd := gust }
  else
    return g

-- ---------------------------------------------------------------------------
-- Tower
-- ---------------------------------------------------------------------------

/-- The location of the sensor in the mapping, or the empty string it is
initialised with. `strcmp` and `strcpy` read through every string they are given. -/
def lookupLocation (sensorId : CString) : List (CJson K) → Except Fault CString
  | [] => .ok []
  | cfg :: mapping => do
    let tmp ← getObjectItemCaseSensitive (some cfg) "serial_number".toList
    let tmp ← deref tmp
    let serialNumber ← deref tmp.valuestring
    if sensorId = serialNumber then
      let tmp ← getObjectItemCaseSensitive (some cfg) "location".toList
      let tmp ← deref tmp
      deref tmp.valuestring
    else lookupLocation sensorId mapping

def newSensor (config : Config K) (sensorId : CString) : Except Fault (SensorData K) := do
  let location ← lookupLocation sensorId (items config.sensorMapping)
  return {
    sensorId, timestamp := none, temperature := 0, humidity := 0
    temperatureHigh := -100.0, temperatureLow := 100.0
    location := if location = [] then sensorId else location }

/-- The search for the sensor, which is added at the head of the list when it is
not found: the position that `list` points to. -/
def findSensor (config : Config K) (sensorId : CString) (g : Globals K) :
    Except Fault (Nat × Globals K) := do
  let list := g.wd.towerList.findIdx fun sensor => sensor.sensorId = sensorId
  if list < g.wd.towerList.length then
    return (list, g)
  else
    let sensor ← newSensor config sensorId
    return (0, { g with wd.towerList := sensor :: g.wd.towerList })

def towerRow (host : Host K) (list : Nat) (ob : Option (CJson K)) (g : Globals K) :
    Except Fault (Globals K) := do
  let tmp ← deref (getArrayItem ob 0)
  let lt := stampTime host tmp
  let temperature ← setWd ob 2
  let humidity ← setWd ob 3
  let update (sensor : SensorData K) : SensorData K :=
    { sensor with
      timestamp := some (timestampText lt), temperature, humidity
      temperatureHigh :=
        if temperature > sensor.temperatureHigh then temperature else sensor.temperatureHigh
      temperatureLow :=
        if temperature < sensor.temperatureLow then temperature else sensor.temperatureLow }
  return { g with wd.towerList := g.wd.towerList.modify list update }

/-- A missing or non-string serial number is read by the `strcmp` of the search,
or by `strdup` when the list is empty. -/
def wfpTowerParse (host : Host K) (config : Config K) (tower : Option (CJson K))
    (g : Globals K) : Except Fault (Globals K) := do
  let tmp ← getObjectItemCaseSensitive tower "serial_number".toList
  let tmp ← deref tmp
  let sensorId ← deref tmp.valuestring
  let (list, g) ← findSensor config sensorId g
  let obs ← getObjectItemCaseSensitive tower "obs".toList
  forEachItem obs (towerRow host list) g

-- ---------------------------------------------------------------------------
-- Dispatch
-- ---------------------------------------------------------------------------

/-- `wf_message_parse` behind its call of `cJSON_Parse`. A text that is no JSON leaves a
null item, which every lookup takes: the check there is of `msg`, never null, and not of
the item. -/
def handleMessage (host : Host K) (config : Config K) (now : Int) (msgJson : Option (CJson K))
    (g : Globals K) : Except Fault (Nat × Globals K) := do
  let type ← getObjectItemCaseSensitive msgJson "type".toList
  match type with
  | some (.string type) =>
    if type = "obs_air".toList then
      let g ← wfpAirParse host config now msgJson g
      return (airData, g)
    else if type = "obs_sky".toList then
      let g ← wfpSkyParse host config now msgJson g
      return (skyData, g)
    else if type = "rapid_wind".toList then
      let g ← wfpWindParse msgJson g
      return (0, g)
    else if type = "evt_strike".toList ∨ type = "evt_precip".toList ∨
        type = "device_status".toList ∨ type = "hub_status".toList then
      return (0, g)
    else if type = "obs_tower".toList then
      let g ← wfpTowerParse host config msgJson g
      return (0, g)
    else
      return (0, g)
  | _ => return (0, g)

def wfMessageParse (host : Host K) (config : Config K) (now : Int) (msg : CString)
    (g : Globals K) : Except Fault (Nat × Globals K) :=
  handleMessage host config now (cJSONParse msg) g

end

end WfPublisher
