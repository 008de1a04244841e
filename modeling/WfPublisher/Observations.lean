import WfPublisher.Lib.Extremes
import WfPublisher.Lib.Keyed
import WfPublisher.Messages

/-!
# Observations

What a datagram means: its message is a list of observations, and the state is
what they store one after the other. The handlers store exactly these, or stop
on a null pointer without having read them all.
-/

namespace WfPublisher

open Fallible Extremes Keyed

-- ---------------------------------------------------------------------------
-- Reading a row
-- ---------------------------------------------------------------------------

structure AirObs (K : Type) where
  stamp : Int
  pressure : K
  temperature : K
  humidity : K
  strikes : Int
  distance : K

structure SkyObs (K : Type) where
  illumination : K
  uv : Int
  rain : K
  windspeed : K
  gust : K
  winddirection : K
  solar : K

structure WindObs (K : Type) where
  speed : K
  direction : Int

structure TowerObs (K : Type) where
  stamp : Int
  temperature : K
  humidity : K

inductive Observation (K : Type)
  | air (o : AirObs K)
  | sky (o : SkyObs K)
  | wind (o : WindObs K)
  | sensor (sensorId : CString)
  | tower (sensorId : CString) (o : TowerObs K)

section
variable {K : Type} [Field K] [LinearOrder K] [FloorRing K]

def AirObs.read (ob : CJson K) : Option (AirObs K) :=
  match items (some ob) with
  | stamp :: pressure :: temperature :: humidity :: strikes :: distance :: _ =>
    some ⟨stamp.valueint % 2 ^ 32, pressure.valuedouble, temperature.valuedouble,
      humidity.valuedouble, strikes.valueint, distance.valuedouble⟩
  | _ => none

def SkyObs.read (ob : CJson K) : Option (SkyObs K) :=
  match items (some ob) with
  | _ :: illumination :: uv :: rain :: _ :: speed :: gust :: direction :: _ :: _ :: solar :: _ =>
    some ⟨illumination.valuedouble, uv.valueint, rain.valuedouble, speed.valuedouble,
      gust.valuedouble, direction.valuedouble, solar.valuedouble⟩
  | _ => none

def WindObs.read (ob : Option (CJson K)) : Option (WindObs K) :=
  match items ob with
  | _ :: speed :: direction :: _ => some ⟨speed.valuedouble, direction.valueint⟩
  | _ => none

def TowerObs.read (ob : CJson K) : Option (TowerObs K) :=
  match items (some ob) with
  | stamp :: _ :: temperature :: humidity :: _ =>
    some ⟨stamp.valueint % 2 ^ 32, temperature.valuedouble, humidity.valuedouble⟩
  | _ => none

-- ---------------------------------------------------------------------------
-- Storing an observation
-- ---------------------------------------------------------------------------

variable (host : Host K) (config : Config K) (now : Int)

def Globals.storeAir (g : Globals K) (o : AirObs K) : Globals K :=
  { g with
    wd := { g.wd with
      timestamp := some (timestampText (localtime (host.zone o.stamp)))
      pressure := o.pressure, temperature := o.temperature, humidity := o.humidity
      strikes := o.strikes, distance := o.distance
      pressureSealevel := station2Sealevel o.pressure ((config.elevation : K) * 0.3048)
      dewpoint := calcDewpoint host.toLibm o.temperature o.humidity
      heatindex := calcHeatindex o.temperature o.humidity
      trend := ((pressureTrend now o.pressure g.trend).1 : K)
      temperatureHigh := max g.wd.temperatureHigh o.temperature
      temperatureLow := min g.wd.temperatureLow o.temperature }
    trend := (pressureTrend now o.pressure g.trend).2 }

/-- The record before the gust and the rain of the row are looked at. -/
def WeatherData.storeSky (wd : WeatherData K) (o : SkyObs K) : WeatherData K :=
  { wd with
    illumination := o.illumination, uv := o.uv, rain := o.rain, windspeed := o.windspeed
    winddirection := o.winddirection, solar := o.solar
    windDir := (degreesToCardinal o.winddirection).take 3
    windchill := calcWindchill host.toLibm wd.temperature o.windspeed
    feelslike := calcFeelslike host.toLibm wd.temperature o.windspeed wd.humidity }

/-- A gust reading: it is taken when the window is over or it is the largest. -/
def Globals.storeGust (g : Globals K) (speed direction : K) : Globals K :=
  if g.interval = gustInterval then
    { g with wd := { g.wd with gustspeed := speed, gustdirection := direction }, interval := 0 }
  else if speed > g.wd.gustspeed then
    { g with wd := { g.wd with gustspeed := speed, gustdirection := direction } }
  else g

def Globals.storeSky (g : Globals K) (o : SkyObs K) : Globals K :=
  let gusted := { g with wd := g.wd.storeSky host o }.storeGust o.gust o.winddirection
  let counted := { gusted with
    interval := if g.interval = gustInterval then 0 else g.interval + 1 }
  counted.withRain
    (accumulateRain (host.zone now) (host.zone now) o.rain counted.rainState)

def locationOf (sensorId : CString) : CString :=
  match lookupLocation sensorId (items config.sensorMapping) with
  | .ok [] | .error _ => sensorId
  | .ok location => location

def Globals.storeSensor (g : Globals K) (sensorId : CString) : Globals K :=
  if sensorId ∈ g.wd.towerList.map SensorData.sensorId then g
  else { g with wd.towerList :=
    { sensorId, timestamp := none, temperature := 0, humidity := 0, temperatureHigh := -100.0,
      temperatureLow := 100.0, location := locationOf config sensorId } :: g.wd.towerList }

def SensorData.store (sensor : SensorData K) (o : TowerObs K) : SensorData K :=
  { sensor with
    timestamp := some (timestampText (localtime (host.zone o.stamp)))
    temperature := o.temperature, humidity := o.humidity
    temperatureHigh := max sensor.temperatureHigh o.temperature
    temperatureLow := min sensor.temperatureLow o.temperature }

omit [Field K] [FloorRing K] in
theorem sensorId_store (o : TowerObs K) (sensor : SensorData K) :
    (sensor.store host o).sensorId = sensor.sensorId := rfl

def Globals.store (g : Globals K) : Observation K → Globals K
  | .air o => g.storeAir host config now o
  | .sky o => g.storeSky host now o
  | .wind o => g.storeGust o.speed o.direction
  | .sensor sensorId => g.storeSensor config sensorId
  | .tower sensorId o =>
    { g with wd.towerList := update SensorData.sensorId sensorId (·.store host o) g.wd.towerList }

-- ---------------------------------------------------------------------------
-- What a store leaves alone
-- ---------------------------------------------------------------------------

structure AirPart (K : Type) where
  pressure : K
  pressureSealevel : K
  temperature : K
  humidity : K
  dewpoint : K
  heatindex : K
  temperatureHigh : K
  temperatureLow : K

structure SkyPart (K : Type) where
  windspeed : K
  windchill : K
  feelslike : K

def WeatherData.airPart (wd : WeatherData K) : AirPart K :=
  ⟨wd.pressure, wd.pressureSealevel, wd.temperature, wd.humidity, wd.dewpoint, wd.heatindex,
    wd.temperatureHigh, wd.temperatureLow⟩

def WeatherData.skyPart (wd : WeatherData K) : SkyPart K :=
  ⟨wd.windspeed, wd.windchill, wd.feelslike⟩

omit [Field K] [FloorRing K] in
theorem storeGust_wd (g : Globals K) (speed direction : K) : ∃ gustspeed gustdirection,
    (g.storeGust speed direction).wd = { g.wd with gustspeed, gustdirection } := by
  unfold Globals.storeGust
  by_cases hi : g.interval = gustInterval
  · exact ⟨speed, direction, by rw [if_pos hi]⟩
  · by_cases hs : speed > g.wd.gustspeed
    · exact ⟨speed, direction, by rw [if_neg hi, if_pos hs]⟩
    · exact ⟨g.wd.gustspeed, g.wd.gustdirection, by rw [if_neg hi, if_neg hs]⟩

omit [FloorRing K] in
theorem storeSky_wd (g : Globals K) (o : SkyObs K) : ∃ gustspeed gustdirection totals,
    (g.storeSky host now o).wd =
      { g.wd.storeSky host o with gustspeed, gustdirection, toRainTotals := totals } := by
  obtain ⟨gustspeed, gustdirection, h⟩ :=
    storeGust_wd { g with wd := g.wd.storeSky host o } o.gust o.winddirection
  refine ⟨gustspeed, gustdirection, ?_, ?_⟩
  rotate_left
  · unfold Globals.storeSky Globals.withRain
    dsimp only
    rw [h]

omit [FloorRing K] in
theorem airPart_store (g : Globals K) {o : Observation K} (ho : ∀ row, o ≠ .air row) :
    (g.store host config now o).wd.airPart = g.wd.airPart := by
  cases o with
  | air row => exact absurd rfl (ho row)
  | sky row =>
    obtain ⟨_, _, _, h⟩ := storeSky_wd host now g row
    simp only [Globals.store, h]
    rfl
  | wind row =>
    obtain ⟨_, _, h⟩ := storeGust_wd g row.speed row.direction
    simp only [Globals.store, h]
    rfl
  | sensor sensorId =>
    simp only [Globals.store, Globals.storeSensor]
    split <;> rfl
  | tower sensorId row => rfl

omit [FloorRing K] in
theorem skyPart_store (g : Globals K) {o : Observation K} (ho : ∀ row, o ≠ .sky row) :
    (g.store host config now o).wd.skyPart = g.wd.skyPart := by
  cases o with
  | air row => rfl
  | sky row => exact absurd rfl (ho row)
  | wind row =>
    obtain ⟨_, _, h⟩ := storeGust_wd g row.speed row.direction
    simp only [Globals.store, h]
    rfl
  | sensor sensorId =>
    simp only [Globals.store, Globals.storeSensor]
    split <;> rfl
  | tower sensorId row => rfl

omit [FloorRing K] in
theorem sensorIds_storeTower (sensorId : CString) (os : List (TowerObs K)) (g : Globals K) :
    (os.foldl (fun g o => g.store host config now (.tower sensorId o)) g).wd.towerList.map
      SensorData.sensorId = g.wd.towerList.map SensorData.sensorId := by
  induction os generalizing g with
  | nil => rfl
  | cons o os ih => exact (ih _).trans (map_update (sensorId_store host o) sensorId _)

-- ---------------------------------------------------------------------------
-- The rows, one handler at a time
-- ---------------------------------------------------------------------------

theorem airRow_ok {ob : CJson K} {g g' : Globals K} :
    airRow host config now (some ob) g = .ok g' ↔
      ∃ o, AirObs.read ob = some o ∧ g' = g.storeAir host config now o := by
  unfold airRow AirObs.read setWd setWi
  simp only [getArrayItem_eq]
  rcases items (some ob) with _ | ⟨stamp, _ | ⟨pressure, _ | ⟨temperature, _ | ⟨humidity, _ |
    ⟨strikes, _ | ⟨distance, rest⟩⟩⟩⟩⟩⟩
  all_goals simp [calcPressureTrend_eq, stampTime, if_gt_eq_max, if_lt_eq_min, Globals.storeAir,
    eq_comm]

theorem skyRow_ok {ob : CJson K} {g g' : Globals K} :
    skyRow host now (some ob) g = .ok g' ↔
      host.opens now = true ∧ ∃ o, SkyObs.read ob = some o ∧ g' = g.storeSky host now o := by
  unfold skyRow SkyObs.read setWd setWi
  simp only [getArrayItem_eq]
  rcases items (some ob) with _ | ⟨_, _ | ⟨illumination, _ | ⟨uv, _ | ⟨rain, _ | ⟨_, _ |
    ⟨speed, _ | ⟨gust, _ | ⟨direction, _ | ⟨_, _ | ⟨_, _ | ⟨solar, rest⟩⟩⟩⟩⟩⟩⟩⟩⟩⟩⟩
  case cons.cons.cons.cons.cons.cons.cons.cons.cons.cons.cons =>
    simp only [List.getElem?_cons_succ, List.getElem?_cons_zero, deref_some, ok_bind, pure_eq_ok,
      Except.ok.injEq, Option.some.injEq, exists_eq_left', bind_ok, accumulateRainOn_ok, and_assoc,
      exists_and_left, exists_eq_left]
    refine and_congr_right fun _ => ?_
    rw [eq_comm]
    unfold Globals.storeSky WeatherData.storeSky Globals.storeGust
    by_cases hi : g.interval = gustInterval
    · simp [hi]
    · by_cases hg : gust.valuedouble > g.wd.gustspeed <;> simp [hi, hg]
  all_goals simp

theorem airRows_ok {rows : List (CJson K)} {g g' : Globals K} :
    rows.foldlM (fun g ob => airRow host config now (some ob) g) g = .ok g' ↔
      ∃ os, rows.mapM AirObs.read = some os ∧
        g' = os.foldl (Globals.storeAir host config now) g := by
  refine foldlM_read_ok (P := fun _ => True) (fun g ob g' _ => ?_) (fun _ _ _ => trivial) trivial
  exact airRow_ok host config now

theorem skyRows_ok {rows : List (CJson K)} {g g' : Globals K} :
    rows.foldlM (fun g ob => skyRow host now (some ob) g) g = .ok g' ↔
      (rows ≠ [] → host.opens now = true) ∧
        ∃ os, rows.mapM SkyObs.read = some os ∧ g' = os.foldl (Globals.storeSky host now) g := by
  cases rows with
  | nil =>
    constructor
    · intro h
      cases h
      exact ⟨fun hne => absurd rfl hne, [], rfl, rfl⟩
    · rintro ⟨-, os, hos, rfl⟩
      cases hos
      rfl
  | cons ob rows =>
    by_cases hopens : host.opens now = true
    · have hrow (g : Globals K) (ob : CJson K) (g' : Globals K) (_ : True) :
          skyRow host now (some ob) g = .ok g' ↔
            ∃ o, SkyObs.read ob = some o ∧ g' = Globals.storeSky host now g o := by
        rw [skyRow_ok, and_iff_right hopens]
      rw [foldlM_read_ok hrow (fun _ _ _ => trivial) trivial]
      simp [hopens]
    · simp [bind_ok, skyRow_ok, hopens]

theorem wfpWindParse_ok {wind : Option (CJson K)} {obs : Option (CJson K)} {g g' : Globals K}
    (hobs : getObjectItemCaseSensitive wind "ob".toList = .ok obs) :
    wfpWindParse wind g = .ok g' ↔
      ∃ o, WindObs.read obs = some o ∧ g' = g.storeGust o.speed o.direction := by
  unfold wfpWindParse WindObs.read Globals.storeGust
  simp only [getArrayItem_eq, hobs, ok_bind]
  rcases items obs with _ | ⟨_, _ | ⟨speed, _ | ⟨direction, rest⟩⟩⟩
  case cons.cons.cons =>
    by_cases hi : g.interval = gustInterval
    · simp [hi, eq_comm]
    · by_cases hs : speed.valuedouble > g.wd.gustspeed <;> simp [hi, hs, eq_comm]
  all_goals simp

theorem towerRows_ok {sensorId : CString} {list : Nat} {rows : List (CJson K)} {g g' : Globals K}
    (hlist : g.wd.towerList.findIdx (fun sensor => sensor.sensorId = sensorId) = list) :
    rows.foldlM (fun g ob => towerRow host list (some ob) g) g = .ok g' ↔
      ∃ os, rows.mapM TowerObs.read = some os ∧
        g' = os.foldl (fun g o => g.store host config now (.tower sensorId o)) g := by
  refine foldlM_read_ok (P := fun g : Globals K =>
    g.wd.towerList.findIdx (fun sensor => sensor.sensorId = sensorId) = list)
    (fun g ob g' hg => ?_) (fun g o hg => ?_) hlist
  · unfold towerRow TowerObs.read setWd
    simp only [getArrayItem_eq]
    rcases items (some ob) with _ | ⟨stamp, _ | ⟨_, _ | ⟨temperature, _ | ⟨humidity, rest⟩⟩⟩⟩
    case cons.cons.cons.cons =>
      have hmodify (f : SensorData K → SensorData K) : g.wd.towerList.modify list f =
          update SensorData.sensorId sensorId f g.wd.towerList := by
        rw [← hg]
        exact modify_findIdx sensorId f _
      simp [Globals.store, hmodify, SensorData.store, stampTime, if_gt_eq_max, if_lt_eq_min,
        eq_comm]
    all_goals simp
  · exact (findIdx_update (sensorId_store host o) sensorId _ sensorId).trans hg

end

end WfPublisher
