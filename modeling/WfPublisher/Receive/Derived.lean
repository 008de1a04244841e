import Mathlib
import WfPublisher.Receive.Gating
import WfPublisher.Windchill

/-!
# Derived values

An air row derives the values of its own temperature and humidity. A sky row
derives windchill and feels-like from its wind and the air of the last air row
before it, and no later air row derives them again.
-/

namespace WfPublisher

section
variable {K : Type}

-- ---------------------------------------------------------------------------
-- The last rows
-- ---------------------------------------------------------------------------

def Observation.air? : Observation K → Option (AirObs K)
  | .air o => some o
  | _ => none

def Observation.sky? : Observation K → Option (SkyObs K)
  | .sky o => some o
  | _ => none

def lastAir (os : List (Observation K)) : Option (AirObs K) :=
  (os.filterMap Observation.air?).getLast?

def lastSky (os : List (Observation K)) : Option (SkyObs K) :=
  (os.filterMap Observation.sky?).getLast?

/-- The last air row before the last sky row. -/
def airAtSky (os : List (Observation K)) : Option (AirObs K) :=
  lastAir (os.rdropWhile fun o => o.sky?.isNone)

theorem lastAir_concat (os : List (Observation K)) (o : Observation K) :
    lastAir (os ++ [o]) = o.air?.or (lastAir os) := by
  unfold lastAir
  cases h : o.air? <;> simp [h]

theorem lastSky_concat (os : List (Observation K)) (o : Observation K) :
    lastSky (os ++ [o]) = o.sky?.or (lastSky os) := by
  unfold lastSky
  cases h : o.sky? <;> simp [h]

theorem airAtSky_concat_sky (os : List (Observation K)) (row : SkyObs K) :
    airAtSky (os ++ [.sky row]) = lastAir os := by
  rw [airAtSky, List.rdropWhile_concat_neg _ _ _ (by simp [Observation.sky?]), lastAir_concat]
  rfl

theorem airAtSky_concat (os : List (Observation K)) {o : Observation K} (ho : o.sky? = none) :
    airAtSky (os ++ [o]) = airAtSky os := by
  rw [airAtSky, List.rdropWhile_concat_pos _ _ _ (by simp [ho]), airAtSky]

-- ---------------------------------------------------------------------------
-- What the record holds of them
-- ---------------------------------------------------------------------------

variable [Field K]

/-- Temperature and humidity before the first air row are those of the zeroed record. -/
def temperatureOf (o : Option (AirObs K)) : K := o.elim 0 AirObs.temperature

def humidityOf (o : Option (AirObs K)) : K := o.elim 0 AirObs.humidity

variable [LinearOrder K] (host : Host K) (config : Config K) (now : Int)

structure AirDerived (o : AirObs K) (wd : WeatherData K) : Prop where
  pressure : wd.pressure = o.pressure
  pressureSealevel : wd.pressureSealevel =
    station2Sealevel o.pressure ((config.elevation : K) * 0.3048)
  dewpoint : wd.dewpoint = calcDewpoint host.toLibm o.temperature o.humidity
  heatindex : wd.heatindex = calcHeatindex o.temperature o.humidity

structure SkyDerived (air : Option (AirObs K)) (o : SkyObs K) (wd : WeatherData K) : Prop where
  windspeed : wd.windspeed = o.windspeed
  windchill : wd.windchill = calcWindchill host.toLibm (temperatureOf air) o.windspeed
  feelslike : wd.feelslike =
    calcFeelslike host.toLibm (temperatureOf air) o.windspeed (humidityOf air)

structure Holds (os : List (Observation K)) (wd : WeatherData K) : Prop where
  temperature : wd.temperature = temperatureOf (lastAir os)
  humidity : wd.humidity = humidityOf (lastAir os)
  air : ∀ o ∈ lastAir os, AirDerived host config o wd
  sky : ∀ o ∈ lastSky os, SkyDerived host (airAtSky os) o wd

variable {host config}

theorem Holds.congr {os : List (Observation K)} {wd wd' : WeatherData K}
    (h : Holds host config os wd)
    (hair : { wd'.airPart with
      temperatureHigh := wd.temperatureHigh, temperatureLow := wd.temperatureLow } = wd.airPart)
    (hsky : wd'.skyPart = wd.skyPart) : Holds host config os wd' := by
  simp only [WeatherData.airPart, WeatherData.skyPart, AirPart.mk.injEq, SkyPart.mk.injEq]
    at hair hsky
  obtain ⟨hpressure, hsealevel, htemperature, hhumidity, hdewpoint, hheatindex, -⟩ := hair
  obtain ⟨hwindspeed, hwindchill, hfeelslike⟩ := hsky
  exact ⟨htemperature.trans h.temperature, hhumidity.trans h.humidity,
    fun o ho => ⟨hpressure.trans (h.air o ho).pressure,
      hsealevel.trans (h.air o ho).pressureSealevel, hdewpoint.trans (h.air o ho).dewpoint,
      hheatindex.trans (h.air o ho).heatindex⟩,
    fun o ho => ⟨hwindspeed.trans (h.sky o ho).windspeed,
      hwindchill.trans (h.sky o ho).windchill, hfeelslike.trans (h.sky o ho).feelslike⟩⟩

theorem Holds.store_other {os : List (Observation K)} {g : Globals K}
    (h : Holds host config os g.wd) {o : Observation K} (hair : o.air? = none)
    (hsky : o.sky? = none) : Holds host config (os ++ [o]) (g.store host config now o).wd := by
  have hlastAir : lastAir (os ++ [o]) = lastAir os := by
    rw [lastAir_concat, hair]
    rfl
  have hlastSky : lastSky (os ++ [o]) = lastSky os := by
    rw [lastSky_concat, hsky]
    rfl
  have hairPart := airPart_store host config now g (o := o) (by rintro row rfl; cases hair)
  have hskyPart := skyPart_store host config now g (o := o) (by rintro row rfl; cases hsky)
  obtain ⟨htemperature, hhumidity, hair', hsky'⟩ := h.congr (by rw [hairPart]; rfl) hskyPart
  constructor
  · rwa [hlastAir]
  · rwa [hlastAir]
  · rwa [hlastAir]
  · rwa [hlastSky, airAtSky_concat os hsky]

theorem Holds.store_air {os : List (Observation K)} {g : Globals K}
    (h : Holds host config os g.wd) (row : AirObs K) :
    Holds host config (os ++ [.air row]) (g.store host config now (.air row)).wd := by
  have hlast : lastAir (os ++ [.air row]) = some row := by
    rw [lastAir_concat]
    rfl
  have hsky : lastSky (os ++ [.air row]) = lastSky os := by
    rw [lastSky_concat]
    rfl
  constructor
  · rw [hlast]
    rfl
  · rw [hlast]
    rfl
  · rw [hlast]
    rintro _ ⟨⟩
    exact ⟨rfl, rfl, rfl, rfl⟩
  · rw [hsky, airAtSky_concat os rfl]
    intro o ho
    obtain ⟨hwindspeed, hwindchill, hfeelslike⟩ := h.sky o ho
    exact ⟨hwindspeed, hwindchill, hfeelslike⟩

theorem Holds.store_sky {os : List (Observation K)} {g : Globals K}
    (h : Holds host config os g.wd) (row : SkyObs K) :
    Holds host config (os ++ [.sky row]) (g.store host config now (.sky row)).wd := by
  have hlast : lastSky (os ++ [.sky row]) = some row := by
    rw [lastSky_concat]
    rfl
  have hair : lastAir (os ++ [.sky row]) = lastAir os := by
    rw [lastAir_concat]
    rfl
  obtain ⟨_, _, _, hwd⟩ := storeSky_wd host now g row
  rw [Globals.store, hwd]
  constructor
  · rw [hair]
    exact h.temperature
  · rw [hair]
    exact h.humidity
  · rw [hair]
    intro o ho
    obtain ⟨hpressure, hsealevel, hdewpoint, hheatindex⟩ := h.air o ho
    exact ⟨hpressure, hsealevel, hdewpoint, hheatindex⟩
  · rw [hlast, airAtSky_concat_sky]
    rintro _ ⟨⟩
    refine ⟨rfl, ?_, ?_⟩
    · rw [← h.temperature]
      rfl
    · rw [← h.temperature, ← h.humidity]
      rfl

theorem Holds.store {os : List (Observation K)} {g : Globals K}
    (h : Holds host config os g.wd) (o : Observation K) :
    Holds host config (os ++ [o]) (g.store host config now o).wd := by
  cases o with
  | air row => exact h.store_air now row
  | sky row => exact h.store_sky now row
  | wind row => exact h.store_other now rfl rfl
  | sensor sensorId => exact h.store_other now rfl rfl
  | tower sensorId row => exact h.store_other now rfl rfl

theorem Holds.foldl_store {before : List (Observation K)} {g : Globals K}
    (h : Holds host config before g.wd) (os : List (Observation K)) :
    Holds host config (before ++ os) (os.foldl (Globals.store host config now) g).wd := by
  induction os generalizing before g with
  | nil => rwa [List.append_nil]
  | cons o os ih =>
    have hrest := ih (h.store now o)
    rwa [List.append_assoc] at hrest

-- ---------------------------------------------------------------------------
-- At a signal
-- ---------------------------------------------------------------------------

variable [FloorRing K] {past : List Arrival} {a : Arrival} {s s' : LoopState K} {signal : Bool}

def observationsOf (arrivals : List Arrival) : List (Observation K) :=
  arrivals.flatMap Arrival.observations

omit [FloorRing K] in
theorem checkDay_holds {os : List (Observation K)} (h : Holds host config os s.globals.wd)
    (now : Int) : Holds host config os (checkDay host now s).globals.wd := by
  unfold checkDay
  dsimp only
  split
  · exact h.congr rfl rfl
  · exact h

theorem loop_holds {t : LocalTime} {totals : RainTotals K} {rainfallJson : Option (CJson K)}
    (h : loop host config (.initial t totals rainfallJson) past = .ok s) :
    Holds host config (observationsOf past) s.globals.wd := by
  refine loop_induction (P := fun past s => Holds host config (observationsOf past) s.globals.wd)
    ?_ (fun past a m s' signal hm hround => ?_) h
  · exact ⟨rfl, rfl, nofun, nofun⟩
  · rw [hround.globals, observationsOf, List.flatMap_append, List.flatMap_singleton]
    exact (checkDay_holds hm a.time).foldl_store a.time a.observations

/-- The derived values of the record belong to its primary ones. -/
structure Coherent (host : Host K) (config : Config K) (wd : WeatherData K) : Prop where
  windchill : wd.windchill = calcWindchill host.toLibm wd.temperature wd.windspeed
  feelslike : wd.feelslike = calcFeelslike host.toLibm wd.temperature wd.windspeed wd.humidity
  heatindex : wd.heatindex = calcHeatindex wd.temperature wd.humidity
  dewpoint : wd.dewpoint = calcDewpoint host.toLibm wd.temperature wd.humidity
  pressureSealevel : wd.pressureSealevel =
    station2Sealevel wd.pressure ((config.elevation : K) * 0.3048)

/-- Two airs of one temperature, and from 80 degrees Fahrenheit on of one heat index. -/
structure SameAir (air air' : Option (AirObs K)) : Prop where
  temperature : temperatureOf air = temperatureOf air'
  heatindex : tempF (temperatureOf air') ≥ 80.0 →
    calcHeatindex (temperatureOf air') (humidityOf air) =
      calcHeatindex (temperatureOf air') (humidityOf air')

omit [FloorRing K] in
theorem sameAir_iff [IsStrictOrderedRing K] {libm : Libm K} (hpow : libm.WindPower)
    (air air' : Option (AirObs K)) (speed : K) : SameAir air air' ↔
      calcWindchill libm (temperatureOf air) speed =
        calcWindchill libm (temperatureOf air') speed ∧
      calcFeelslike libm (temperatureOf air) speed (humidityOf air) =
        calcFeelslike libm (temperatureOf air') speed (humidityOf air') := by
  constructor
  · rintro ⟨htemperature, hheatindex⟩
    rw [htemperature, calcFeelslike_eq_iff]
    exact ⟨rfl, hheatindex⟩
  · rintro ⟨hwindchill, hfeelslike⟩
    have htemperature : temperatureOf air = temperatureOf air' :=
      (calcWindchill_strictMono hpow speed).injective hwindchill
    rw [htemperature, calcFeelslike_eq_iff] at hfeelslike
    exact ⟨htemperature, hfeelslike⟩

omit [FloorRing K] in
theorem Holds.coherent_iff_sameAir [IsStrictOrderedRing K] (hpow : host.toLibm.WindPower)
    {os : List (Observation K)} {wd : WeatherData K} (h : Holds host config os wd)
    {air : AirObs K} {sky : SkyObs K} (hair : lastAir os = some air)
    (hsky : lastSky os = some sky) :
    Coherent host config wd ↔ SameAir (airAtSky os) (lastAir os) := by
  have hlast := h.air air hair
  obtain ⟨hwindspeed, hwindchill, hfeelslike⟩ := h.sky sky hsky
  have htemperature : wd.temperature = air.temperature := by
    rw [h.temperature, hair]
    rfl
  have hhumidity : wd.humidity = air.humidity := by
    rw [h.humidity, hair]
    rfl
  rw [sameAir_iff hpow _ _ sky.windspeed, ← hwindchill, ← hfeelslike, ← h.temperature,
    ← h.humidity, ← hwindspeed]
  constructor
  · intro hcoherent
    exact ⟨hcoherent.windchill, hcoherent.feelslike⟩
  · rintro ⟨hchill, hfeels⟩
    refine ⟨hchill, hfeels, ?_, ?_, ?_⟩
    · rw [hlast.heatindex, htemperature, hhumidity]
    · rw [hlast.dewpoint, htemperature, hhumidity]
    · rw [hlast.pressureSealevel, hlast.pressure]

def HasRows (K : Type) [Field K] [LinearOrder K] [FloorRing K] (a : Arrival) : Prop :=
  (a.message K).flag ≠ 0 → a.observations (K := K) ≠ []

theorem HasRows.storesAir (h : HasRows K a) (hflag : (a.message K).flag = airData) :
    StoresAir K a := by
  have hne := h (hflag.trans_ne (by decide))
  have hshape := a.shape (K := K)
  rw [hflag] at hshape
  unfold StoresAir
  generalize a.observations (K := K) = os at hne hshape ⊢
  cases hshape with
  | air rows =>
    obtain ⟨o, rows, rfl⟩ := List.exists_cons_of_ne_nil fun h => hne (congrArg (List.map _) h)
    exact ⟨o, List.mem_cons_self⟩

theorem HasRows.storesSky (h : HasRows K a) (hflag : (a.message K).flag = skyData) :
    StoresSky K a := by
  have hne := h (hflag.trans_ne (by decide))
  have hshape := a.shape (K := K)
  rw [hflag] at hshape
  unfold StoresSky
  generalize a.observations (K := K) = os at hne hshape ⊢
  cases hshape with
  | sky rows =>
    obtain ⟨o, rows, rfl⟩ := List.exists_cons_of_ne_nil fun h => hne (congrArg (List.map _) h)
    exact ⟨o, List.mem_cons_self⟩

theorem exists_last {ο : Type} {select : Observation K → Option ο} {arrivals : List Arrival}
    {b : Arrival} {o : Observation K} {row : ο} (hb : b ∈ arrivals) (ho : o ∈ b.observations)
    (hselect : select o = some row) :
    ∃ last, ((observationsOf arrivals).filterMap select).getLast? = some last := by
  rw [← Option.isSome_iff_exists, List.getLast?_isSome]
  exact List.ne_nil_of_mem (List.mem_filterMap.mpr ⟨o, List.mem_flatMap.mpr ⟨b, hb, ho⟩, hselect⟩)

theorem signal_seen {t : LocalTime} {totals : RainTotals K} {rainfallJson : Option (CJson K)}
    (hpast : loop host config (.initial t totals rainfallJson) past = .ok s)
    (ha : loopBody host config a s = .ok (s', true)) :
    Seen K airData (past ++ [a]) ∧ Seen K skyData (past ++ [a]) := by
  obtain ⟨recent, hwatch, hsub⟩ := exists_watch hpast
  have hold {flag : Nat} : Seen K flag recent → Seen K flag (past ++ [a]) :=
    fun ⟨b, hb, hflag⟩ => ⟨b, List.mem_append_left _ (hsub hb), hflag⟩
  have hnew {flag : Nat} (hflag : (a.message K).flag = flag) : Seen K flag (past ++ [a]) :=
    seen_concat.mpr (.inr hflag)
  obtain ⟨hflag, hseen⟩ | ⟨hflag, hseen⟩ := (signal_iff_seen rfl hwatch ha).mp rfl
  · exact ⟨hnew hflag, hold hseen⟩
  · exact ⟨hold hseen, hnew hflag⟩

theorem coherent_iff [IsStrictOrderedRing K] {t : LocalTime} {totals : RainTotals K}
    {rainfallJson : Option (CJson K)} (hpow : host.toLibm.WindPower)
    (hrows : ∀ b ∈ past ++ [a], HasRows K b)
    (hpast : loop host config (.initial t totals rainfallJson) past = .ok s)
    (ha : loopBody host config a s = .ok (s', true)) :
    Coherent host config s'.globals.wd ↔
      SameAir (airAtSky (observationsOf (K := K) (past ++ [a])))
        (lastAir (observationsOf (past ++ [a]))) := by
  obtain ⟨⟨b, hb, hbair⟩, ⟨c, hc, hcsky⟩⟩ := signal_seen hpast ha
  obtain ⟨_, hbrow⟩ := (hrows b hb).storesAir hbair
  obtain ⟨_, hcrow⟩ := (hrows c hc).storesSky hcsky
  obtain ⟨air, hair⟩ : ∃ air, lastAir (observationsOf (past ++ [a])) = some air :=
    exists_last hb hbrow rfl
  obtain ⟨sky, hsky⟩ : ∃ sky, lastSky (observationsOf (past ++ [a])) = some sky :=
    exists_last hc hcrow rfl
  have hholds := loop_holds (loop_concat.mpr ⟨s, true, hpast, ha⟩)
  exact hholds.coherent_iff_sameAir hpow hair hsky

end

theorem calmHost_windPower : calmHost.toLibm.WindPower := by
  intro v hv
  have hpow : calmHost.toLibm.pow v 0.16 = v := rfl
  rw [hpow]
  linarith

theorem airRows_hasRows (time : Int) : HasRows ℚ (airRows time) := fun _ => nofun

theorem skyRows_hasRows (time : Int) : HasRows ℚ (skyRows time) := fun _ => nofun

theorem skyFirst_incoherent : ∃ s s', (∀ b ∈ [skyRows 0, airRows 60], HasRows ℚ b) ∧
    loop calmHost quietConfig (.initial (utc 0) .zero none) [skyRows 0] = .ok s ∧
    loopBody calmHost quietConfig (airRows 60) s = .ok (s', true) ∧
    ¬ Coherent calmHost quietConfig s'.globals.wd := by
  have incoherent (s s')
      (hpast : loop calmHost quietConfig (.initial (utc 0) .zero none) [skyRows 0] = .ok s)
      (ha : loopBody calmHost quietConfig (airRows 60) s = .ok (s', true)) :
      ¬ Coherent calmHost quietConfig s'.globals.wd := by
    have hholds := loop_holds (loop_concat.mpr ⟨s, true, hpast, ha⟩)
    rw [hholds.coherent_iff_sameAir calmHost_windPower rfl rfl]
    intro hsame
    exact absurd hsame.temperature (by decide +kernel)
  exact ⟨_, _, by simp [airRows_hasRows, skyRows_hasRows], rfl, rfl, incoherent _ _ rfl rfl⟩

theorem airFirst_coherent : ∃ s s',
    loop calmHost quietConfig (.initial (utc 0) .zero none) [airRows 0] = .ok s ∧
    loopBody calmHost quietConfig (skyRows 60) s = .ok (s', true) ∧
    Coherent calmHost quietConfig s'.globals.wd := by
  have coherent (s s')
      (hpast : loop calmHost quietConfig (.initial (utc 0) .zero none) [airRows 0] = .ok s)
      (ha : loopBody calmHost quietConfig (skyRows 60) s = .ok (s', true)) :
      Coherent calmHost quietConfig s'.globals.wd := by
    refine (coherent_iff calmHost_windPower ?_ hpast ha).mpr ⟨?_, ?_⟩
    · simp [airRows_hasRows, skyRows_hasRows]
    · decide +kernel
    · decide +kernel
  exact ⟨_, _, rfl, rfl, coherent _ _ rfl rfl⟩

end WfPublisher
