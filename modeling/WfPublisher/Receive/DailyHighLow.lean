import WfPublisher.Lib.PeriodTotals
import WfPublisher.Receive.Extremes
import WfPublisher.Receive.Sensors

/-!
# The day's high and low

Right after a row, the extremes it went into are those of the local day exactly
when no older row they still hold lies outside the day's own. The record holds
the air rows since the day of the month last changed; a sensor's entry holds all
rows the sensor ever sent.
-/

namespace WfPublisher

open Extremes Fallible Keyed Runs

section
variable {K : Type} [Field K] [LinearOrder K] [FloorRing K] {host : Host K} {config : Config K}
  {past : List Arrival} {a : Arrival} {s : LoopState K}

-- ---------------------------------------------------------------------------
-- The day's extremes
-- ---------------------------------------------------------------------------

def ExtremesOf (temps : Set K) (low high : K) : Prop := IsLeast temps low ∧ IsGreatest temps high

theorem mem_rtakeWhile {ι : Type} {p : ι → Bool} {q : ι → Prop} {list : List ι} {x : ι}
    (hqp : ∀ y, q y → p y = true) (hlist : list.Pairwise fun y z => q y → q z) (hx : x ∈ list)
    (hq : q x) : x ∈ list.rtakeWhile p := by
  induction list using List.reverseRecOn with
  | nil => cases hx
  | append_singleton list z ih =>
    obtain ⟨hinit, -, hlast⟩ := List.pairwise_append.mp hlist
    have hz : p z = true := by
      rcases List.mem_append.mp hx with hx | hx
      · exact hqp z (hlast x hx z (by simp) hq)
      · rw [← List.mem_singleton.mp hx]
        exact hqp x hq
    rw [List.rtakeWhile_concat_pos _ _ _ hz]
    rcases List.mem_append.mp hx with hx | hx
    · exact List.mem_append_left _ (ih hinit hx)
    · exact List.mem_append_right _ hx

def Within (stale today : Set K) : Prop :=
  (∀ x ∈ stale, ∃ y ∈ today, y ≤ x) ∧ ∀ x ∈ stale, ∃ y ∈ today, x ≤ y

/-- The temperatures `new` of the rows of `a` so far, and those of the datagrams
before it on its date. -/
def today (host : Host K) (temps : Arrival → List K) (past : List Arrival) (a : Arrival)
    (new : List K) : Set K :=
  {t | t ∈ new ∨ ∃ b ∈ past, (host.zone b.time).day = (host.zone a.time).day ∧ t ∈ temps b}

/-- Those of the datagrams that are still tracked though not of its date. -/
def stale (host : Host K) (temps : Arrival → List K) (tracked : List Arrival) (a : Arrival) :
    Set K :=
  {t | ∃ b ∈ tracked, (host.zone b.time).day ≠ (host.zone a.time).day ∧ t ∈ temps b}

omit [Field K] [FloorRing K] in
theorem extremesOf_iff {temps new : List K} {older day : Set K} {init init' : K}
    (hunion : {t | t ∈ temps ++ new} = older ∪ day) (hne : new ≠ [])
    (hlow : ∀ t ∈ new, t ≤ init) (hhigh : ∀ t ∈ new, init' ≤ t) :
    ExtremesOf day ((temps ++ new).foldl min init) ((temps ++ new).foldl max init') ↔
      Within older day := by
  obtain ⟨t, ht⟩ := List.exists_mem_of_ne_nil new hne
  have hleast := isLeast_foldl_min (List.mem_append_right temps ht) (hlow t ht)
  have hgreatest := isGreatest_foldl_max (List.mem_append_right temps ht) (hhigh t ht)
  rw [hunion] at hleast hgreatest
  exact and_congr (isLeast_right_iff hleast) (isGreatest_right_iff hgreatest)

def airRowTemps (rows : List (CJson K)) : List K :=
  (rows.filterMap AirObs.read).map AirObs.temperature

def towerRowTemps (rows : List (CJson K)) : List K :=
  (rows.filterMap TowerObs.read).map TowerObs.temperature

section
variable (host : Host K) (config : Config K) (init : LoopState K)

def AfterAirRows (past : List Arrival) (a : Arrival) (rows : List (CJson K)) (g : Globals K) :
    Prop :=
  ∃ s, loop host config init past = .ok s ∧
    rows.foldlM (fun g ob => airRow host config a.time (some ob) g) (checkDay host a.time s).globals =
      .ok g

def AfterTowerRows (past : List Arrival) (a : Arrival) (sensorId : CString)
    (rows : List (CJson K)) (g : Globals K) : Prop :=
  ∃ s list g', loop host config init past = .ok s ∧
    findSensor config sensorId (checkDay host a.time s).globals = .ok (list, g') ∧
    rows.foldlM (fun g ob => towerRow host list (some ob) g) g' = .ok g

/-- Right after each row of `a`, the record or the entry of the sensor holds the
extremes of the rows of its local date. -/
def DailyHighLow (past : List Arrival) (a : Arrival) : Prop :=
  (∀ serialNumber obs rows later, a.message K = .air serialNumber obs →
    items obs = rows ++ later → rows ≠ [] →
    ∃ g, AfterAirRows host config init past a rows g ∧
      ExtremesOf (today host (fun b => airTemps b.observations) past a (airRowTemps rows))
        g.wd.temperatureLow g.wd.temperatureHigh) ∧
  ∀ sensorId obs rows later, a.message K = .tower (some (.string sensorId)) obs →
    items obs = rows ++ later → rows ≠ [] →
    ∃ g sensor, AfterTowerRows host config init past a sensorId rows g ∧
      g.wd.towerList.find? (fun sensor => sensor.sensorId = sensorId) = some sensor ∧
      ExtremesOf
        (today host (fun b => towerTemps sensorId b.observations) past a (towerRowTemps rows))
        sensor.temperatureLow sensor.temperatureHigh

/-- What the record or the entry still holds from other dates is within the
extremes of the date. -/
def NothingStale (past : List Arrival) (a : Arrival) : Prop :=
  (∀ serialNumber obs rows later, a.message K = .air serialNumber obs →
    items obs = rows ++ later → rows ≠ [] →
    Within (stale host (fun b => airTemps b.observations) (sinceReset host (mday host a) past) a)
      (today host (fun b => airTemps b.observations) past a (airRowTemps rows))) ∧
  ∀ sensorId obs rows later, a.message K = .tower (some (.string sensorId)) obs →
    items obs = rows ++ later → rows ≠ [] →
    Within (stale host (fun b => towerTemps sensorId b.observations) past a)
      (today host (fun b => towerTemps sensorId b.observations) past a (towerRowTemps rows))

/-- A datagram that is processed to its end, with temperatures between -100 and 100. -/
structure WellFormed (a : Arrival) : Prop where
  tame : (a.message K).Tame host config a.time
  air : ∀ t ∈ airTemps (K := K) a.observations, -100.0 < t ∧ t < 100.0
  tower : ∀ sensorId, ∀ t ∈ towerTemps (K := K) sensorId a.observations, -100.0 < t ∧ t < 100.0

end

-- ---------------------------------------------------------------------------
-- Row by row
-- ---------------------------------------------------------------------------

omit [Field K] [LinearOrder K] [FloorRing K] in
theorem mem_tracked_union (host : Host K) (temps : Arrival → List K) (a : Arrival)
    {tracked : List Arrival} (hsub : tracked ⊆ past)
    (hday : ∀ b ∈ past, (host.zone b.time).day = (host.zone a.time).day → b ∈ tracked)
    (new : List K) : {t | t ∈ tracked.flatMap temps ++ new} =
      stale host temps tracked a ∪ today host temps past a new := by
  ext t
  simp only [stale, today, Set.mem_ofPred_eq, Set.mem_union, List.mem_append, List.mem_flatMap]
  constructor
  · rintro (⟨b, hb, ht⟩ | ht)
    · by_cases hd : (host.zone b.time).day = (host.zone a.time).day
      · exact .inr (.inr ⟨b, hsub hb, hd, ht⟩)
      · exact .inl ⟨b, hb, hd, ht⟩
    · exact .inr (.inl ht)
  · rintro (⟨b, hb, -, ht⟩ | ht | ⟨b, hb, hd, ht⟩)
    · exact .inl ⟨b, hb, ht⟩
    · exact .inr ht
    · exact .inl ⟨b, hday b hb hd, ht⟩

def ClockOrder (host : Host K) (arrivals : List Arrival) : Prop :=
  arrivals.Pairwise fun b c => host.zone b.time ≤ host.zone c.time

omit [Field K] [LinearOrder K] [FloorRing K] in
theorem mem_sinceReset {host : Host K} (hord : ClockOrder host (past ++ [a])) {b : Arrival}
    (hb : b ∈ past) (hday : (host.zone b.time).day = (host.zone a.time).day) :
    b ∈ sinceReset host (mday host a) past := by
  obtain ⟨hpast, -, hlast⟩ := List.pairwise_append.mp hord
  have hmday (c : Arrival) (hc : (host.zone c.time).day = (host.zone a.time).day) :
      mday host c = mday host a := ((day_eq_iff _ _).mp hc).2.2
  have hstays : past.Pairwise fun c d => (host.zone c.time).day = (host.zone a.time).day →
      (host.zone d.time).day = (host.zone a.time).day := by
    refine hpast.imp_of_mem fun {c d} _ hd hle hc => le_antisymm ?_ ?_
    · exact LocalTime.day_mono (hlast d hd a (List.mem_singleton_self a))
    · exact hc.symm.le.trans (LocalTime.day_mono hle)
  exact mem_rtakeWhile (fun c hc => decide_eq_true (hmday c hc)) hstays hb hday

omit [Field K] [LinearOrder K] [FloorRing K] in
theorem airTemps_map (os : List (AirObs K)) :
    airTemps (os.map Observation.air) = os.map AirObs.temperature := by
  rw [airTemps, List.filterMap_map]
  exact congrFun List.filterMap_eq_map os

omit [Field K] [LinearOrder K] [FloorRing K] in
theorem towerTemps_map (sensorId : CString) (os : List (TowerObs K)) :
    towerTemps sensorId (os.map (Observation.tower sensorId)) = os.map TowerObs.temperature := by
  rw [towerTemps, List.filterMap_map]
  simp

theorem air_rows_read {serialNumber obs : Option (CJson K)} {rows later : List (CJson K)}
    (htame : (a.message K).Tame host config a.time) (hm : a.message K = .air serialNumber obs)
    (hrows : items obs = rows ++ later) (hne : rows ≠ []) :
    ∃ os, rows.mapM AirObs.read = some os ∧ os ≠ [] ∧
      ∀ t ∈ os.map AirObs.temperature, t ∈ airTemps (K := K) a.observations := by
  obtain ⟨-, _, hos, -⟩ := htame.stores host config a.time (.initial .zero none)
  have hobs := hos
  rw [hm] at hobs
  obtain ⟨os, hread, rfl⟩ := Option.map_eq_some_iff.mp hobs
  rw [hrows] at hread
  obtain ⟨first, rest, hfirst, rfl⟩ := mapM_append_some hread
  refine ⟨first, hfirst, mapM_ne_nil hfirst hne, fun t ht => ?_⟩
  rw [Arrival.observations, hos, Option.getD_some, airTemps_map, List.map_append]
  exact List.mem_append_left _ ht

theorem afterAirRows_iff {init : LoopState K} {rows : List (CJson K)} {os : List (AirObs K)}
    {g : Globals K} (hpast : loop host config init past = .ok s)
    (hread : rows.mapM AirObs.read = some os) : AfterAirRows host config init past a rows g ↔
      g = os.foldl (Globals.storeAir host config a.time) (checkDay host a.time s).globals := by
  simp [AfterAirRows, hpast, airRows_ok, hread]

theorem air_point [IsStrictOrderedRing K] {t : LocalTime} {totals : RainTotals K}
    {rainfallJson serialNumber obs : Option (CJson K)} {rows later : List (CJson K)}
    (hpast : loop host config (.initial t totals rainfallJson) past = .ok s)
    (hord : ClockOrder host (past ++ [a])) (hwf : WellFormed host config a)
    (hm : a.message K = .air serialNumber obs) (hrows : items obs = rows ++ later)
    (hne : rows ≠ []) :
    (∃ g, AfterAirRows host config (.initial t totals rainfallJson) past a rows g ∧
      ExtremesOf (today host (fun b => airTemps b.observations) past a (airRowTemps rows))
        g.wd.temperatureLow g.wd.temperatureHigh) ↔
    Within (stale host (fun b => airTemps b.observations) (sinceReset host (mday host a) past) a)
      (today host (fun b => airTemps b.observations) past a (airRowTemps rows)) := by
  obtain ⟨os, hread, hos, hsub⟩ := air_rows_read hwf.tame hm hrows hne
  have hnew : airRowTemps rows = os.map AirObs.temperature := by
    rw [airRowTemps, filterMap_of_mapM hread]
  have htracked := ((tracksDay_loop hpast).checkDay a).1.foldl_store host config a.time
    (os.map .air)
  rw [airTemps_map, ← hnew, List.foldl_map] at htracked
  have hunion := mem_tracked_union (K := K) host (fun b => airTemps b.observations) a
    (List.rtakeWhile_suffix _ past).subset (fun _ hb hday => mem_sinceReset hord hb hday)
    (airRowTemps rows)
  have hbounds : ∀ t ∈ airRowTemps rows, -100.0 < t ∧ t < 100.0 := fun t ht =>
    hwf.air t (hsub t (hnew ▸ ht))
  simp only [afterAirRows_iff hpast hread, exists_eq_left]
  have hlow : (os.foldl (Globals.storeAir host config a.time)
    (checkDay host a.time s).globals).wd.temperatureLow = _ := htracked.low
  have hhigh : (os.foldl (Globals.storeAir host config a.time)
    (checkDay host a.time s).globals).wd.temperatureHigh = _ := htracked.high
  rw [hlow, hhigh]
  refine extremesOf_iff hunion ?_ (fun t ht => (hbounds t ht).2.le.trans ?_)
    fun t ht => (hbounds t ht).1.le
  · rwa [hnew, ne_eq, List.map_eq_nil_iff]
  · norm_num

theorem tower_rows_read {sensorId : CString} {obs : Option (CJson K)} {rows later : List (CJson K)}
    (htame : (a.message K).Tame host config a.time)
    (hm : a.message K = .tower (some (.string sensorId)) obs)
    (hrows : items obs = rows ++ later) (hne : rows ≠ []) :
    ∃ os, rows.mapM TowerObs.read = some os ∧ os ≠ [] ∧
      ∀ t ∈ os.map TowerObs.temperature, t ∈ towerTemps (K := K) sensorId a.observations := by
  obtain ⟨-, _, hos, -⟩ := htame.stores host config a.time (.initial .zero none)
  have hobs := hos
  rw [hm] at hobs
  simp only [Message.observations, Option.bind_eq_bind, Option.bind_eq_some_iff,
    Option.some.injEq] at hobs
  obtain ⟨id, ⟨_, rfl, hid⟩, os, hread, rfl⟩ := hobs
  cases hid
  rw [hrows] at hread
  obtain ⟨first, rest, hfirst, rfl⟩ := mapM_append_some hread
  refine ⟨first, hfirst, mapM_ne_nil hfirst hne, fun t ht => ?_⟩
  have htemps : towerTemps sensorId (.sensor sensorId :: (first ++ rest).map (.tower sensorId)) =
      (first ++ rest).map TowerObs.temperature := towerTemps_map sensorId _
  rw [Arrival.observations, hos, Option.getD_some, htemps, List.map_append]
  exact List.mem_append_left _ ht

theorem afterTowerRows_iff {init : LoopState K} {sensorId : CString} {rows : List (CJson K)}
    {os : List (TowerObs K)} {g : Globals K} (hpast : loop host config init past = .ok s)
    (hadmitted : sensorId ∈ (checkDay host a.time s).globals.wd.towerList.map SensorData.sensorId ∨
      ∃ location, lookupLocation sensorId (items config.sensorMapping) = .ok location)
    (hread : rows.mapM TowerObs.read = some os) :
    AfterTowerRows host config init past a sensorId rows g ↔
      g = os.foldl (fun g o => g.store host config a.time (.tower sensorId o))
        ((checkDay host a.time s).globals.storeSensor config sensorId) := by
  constructor
  · rintro ⟨_, _, _, hs, hfind, hg⟩
    cases hpast.symm.trans hs
    obtain ⟨-, rfl, rfl⟩ := (findSensor_ok config).mp hfind
    obtain ⟨_, hos, rfl⟩ := (towerRows_ok host config a.time rfl).mp hg
    cases hread.symm.trans hos
    rfl
  · rintro rfl
    exact ⟨s, _, _, hpast, (findSensor_ok config).mpr ⟨hadmitted, rfl, rfl⟩,
      (towerRows_ok host config a.time rfl).mpr ⟨os, hread, rfl⟩⟩

theorem tower_point [IsStrictOrderedRing K] {t : LocalTime} {totals : RainTotals K}
    {rainfallJson : Option (CJson K)} {sensorId : CString} {obs : Option (CJson K)}
    {rows later : List (CJson K)}
    (hpast : loop host config (.initial t totals rainfallJson) past = .ok s)
    (hwf : WellFormed host config a) (hm : a.message K = .tower (some (.string sensorId)) obs)
    (hrows : items obs = rows ++ later) (hne : rows ≠ []) :
    (∃ g sensor,
      AfterTowerRows host config (.initial t totals rainfallJson) past a sensorId rows g ∧
      g.wd.towerList.find? (fun sensor => sensor.sensorId = sensorId) = some sensor ∧
      ExtremesOf
        (today host (fun b => towerTemps sensorId b.observations) past a (towerRowTemps rows))
        sensor.temperatureLow sensor.temperatureHigh) ↔
    Within (stale host (fun b => towerTemps sensorId b.observations) past a)
      (today host (fun b => towerTemps sensorId b.observations) past a (towerRowTemps rows)) := by
  obtain ⟨os, hread, hos, hsub⟩ := tower_rows_read hwf.tame hm hrows hne
  have hnew : towerRowTemps rows = os.map TowerObs.temperature := by
    rw [towerRowTemps, filterMap_of_mapM hread]
  have hadmitted := (hwf.tame.stores host config a.time (checkDay host a.time s).globals).1
  rw [hm] at hadmitted
  have hloop := sensorTracked_loop sensorId hpast
  rw [← checkDay_towerList host a.time s] at hloop
  have htracked := (sensorTracked_sensor config hloop sensorId).rows host config a.time
    (mem_sensorIds_storeSensor config sensorId _) os
  rw [towerTemps_map, ← hnew, List.foldl_map] at htracked
  have hunion := mem_tracked_union (K := K) host (fun b => towerTemps sensorId b.observations) a
    (List.Subset.refl past) (fun _ hb _ => hb) (towerRowTemps rows)
  have hbounds : ∀ t ∈ towerRowTemps rows, -100.0 < t ∧ t < 100.0 := fun t ht =>
    hwf.tower sensorId t (hsub t (hnew ▸ ht))
  simp only [afterTowerRows_iff hpast (hadmitted sensorId rfl) hread, exists_and_left,
    exists_eq_left]
  have hnil : towerRowTemps rows ≠ [] := by
    rwa [hnew, ne_eq, List.map_eq_nil_iff]
  unfold SensorTracked at htracked
  generalize (os.foldl (fun g o => g.store host config a.time (.tower sensorId o))
    ((checkDay host a.time s).globals.storeSensor config sensorId)).wd.towerList.find?
      (fun sensor => sensor.sensorId = sensorId) = entry at htracked ⊢
  cases entry with
  | none => exact absurd (List.append_eq_nil_iff.mp htracked).2 hnil
  | some sensor =>
    obtain ⟨hhigh, hlow⟩ := htracked
    simp only [Option.some.injEq, exists_eq_left', hhigh, hlow]
    exact extremesOf_iff hunion hnil (fun t ht => (hbounds t ht).2.le)
      fun t ht => (hbounds t ht).1.le

theorem dailyHighLow_iff_nothingStale [IsStrictOrderedRing K] (t : LocalTime)
    (totals : RainTotals K) (rainfallJson : Option (CJson K))
    (hwf : ∀ b ∈ past ++ [a], WellFormed host config b) (hord : ClockOrder host (past ++ [a])) :
    DailyHighLow host config (.initial t totals rainfallJson) past a ↔
      NothingStale host past a := by
  obtain ⟨s, hpast⟩ := exists_loop host
    (fun b hb => (hwf b (List.mem_append_left _ hb)).tame) (.initial t totals rainfallJson)
  have ha := hwf a (by simp)
  constructor
  · rintro ⟨hair, htower⟩
    exact ⟨fun _ obs rows later hm hrows hne =>
        (air_point hpast hord ha hm hrows hne).mp (hair _ obs rows later hm hrows hne),
      fun _ obs rows later hm hrows hne =>
        (tower_point hpast ha hm hrows hne).mp (htower _ obs rows later hm hrows hne)⟩
  · rintro ⟨hair, htower⟩
    exact ⟨fun _ obs rows later hm hrows hne =>
        (air_point hpast hord ha hm hrows hne).mpr (hair _ obs rows later hm hrows hne),
      fun _ obs rows later hm hrows hne =>
        (tower_point hpast ha hm hrows hne).mpr (htower _ obs rows later hm hrows hne)⟩

theorem dailyHighLow_iff [IsStrictOrderedRing K] {t : LocalTime} {totals : RainTotals K}
    {rainfallJson : Option (CJson K)} {arrivals : List Arrival}
    (hwf : ∀ a ∈ arrivals, WellFormed host config a) (hord : ClockOrder host arrivals) :
    AfterEach (DailyHighLow host config (.initial t totals rainfallJson)) arrivals ↔
      AfterEach (NothingStale host) arrivals := by
  refine afterEach_congr fun past a hpre _ => ?_
  exact dailyHighLow_iff_nothingStale t totals rainfallJson
    (fun b hb => hwf b (hpre.subset hb)) (hord.sublist hpre.sublist)

end

-- ---------------------------------------------------------------------------
-- A warm day and a cooler one
-- ---------------------------------------------------------------------------

def SendsTower (a : Arrival) (sensorId : CString) (temps : List ℚ) : Prop :=
  ∃ rows os, a.message ℚ = .tower (some (.string sensorId)) (some (.array rows)) ∧
    CompleteRows [0, 2, 3] (some (.array rows)) ∧ rows.mapM TowerObs.read = some os ∧
      os.map TowerObs.temperature = temps

def SendsAir (a : Arrival) (temps : List ℚ) : Prop :=
  ∃ serialNumber rows os, a.message ℚ = .air serialNumber (some (.array rows)) ∧
    CompleteRows [0, 1, 2, 3, 4, 5] (some (.array rows)) ∧ rows.mapM AirObs.read = some os ∧
      os.map AirObs.temperature = temps

section
variable {a : Arrival} {past : List Arrival} {sensorId : CString} {t : ℚ} {temps : List ℚ}

theorem SendsTower.observations (h : SendsTower a sensorId temps) :
    ∃ os : List (TowerObs ℚ), a.observations = .sensor sensorId :: os.map (.tower sensorId) ∧
      os.map TowerObs.temperature = temps := by
  obtain ⟨rows, os, hm, -, hread, htemps⟩ := h
  refine ⟨os, ?_, htemps⟩
  simp [Arrival.observations, hm, Message.observations, items, CJson.child, CJson.valuestring,
    hread]

theorem SendsAir.observations (h : SendsAir a temps) :
    ∃ os : List (AirObs ℚ), a.observations = os.map .air ∧ os.map AirObs.temperature = temps := by
  obtain ⟨serialNumber, rows, os, hm, -, hread, htemps⟩ := h
  refine ⟨os, ?_, htemps⟩
  simp [Arrival.observations, hm, Message.observations, items, CJson.child, hread]

theorem SendsTower.towerTemps (h : SendsTower a sensorId temps) (id : CString) :
    towerTemps (K := ℚ) id a.observations = if sensorId = id then temps else [] := by
  obtain ⟨os, hos, rfl⟩ := h.observations
  rw [hos]
  by_cases hid : sensorId = id
  · subst hid
    rw [if_pos rfl]
    exact towerTemps_map sensorId os
  · rw [if_neg hid]
    simp [WfPublisher.towerTemps, hid]

theorem SendsTower.airTemps (h : SendsTower a sensorId temps) :
    airTemps (K := ℚ) a.observations = [] := by
  obtain ⟨os, hos, -⟩ := h.observations
  simp [hos, WfPublisher.airTemps]

theorem SendsAir.airTemps (h : SendsAir a temps) : airTemps (K := ℚ) a.observations = temps := by
  obtain ⟨os, hos, rfl⟩ := h.observations
  rw [hos, airTemps_map]

theorem SendsAir.towerTemps (h : SendsAir a temps) (id : CString) :
    towerTemps (K := ℚ) id a.observations = [] := by
  obtain ⟨os, hos, -⟩ := h.observations
  simp [hos, WfPublisher.towerTemps]

theorem SendsTower.wellFormed (h : SendsTower a sensorId temps)
    (ht : ∀ t ∈ temps, -100.0 < t ∧ t < 100.0) : WellFormed calmHost quietConfig a := by
  refine ⟨?_, by simp [h.airTemps], fun id t hid => ?_⟩
  · obtain ⟨rows, os, hm, hrows, -, -⟩ := h
    rw [hm]
    exact ⟨hrows, sensorId, rfl, trivial⟩
  · rw [h.towerTemps] at hid
    split at hid
    · exact ht t hid
    · cases hid

theorem SendsAir.wellFormed (h : SendsAir a temps) (ht : ∀ t ∈ temps, -100.0 < t ∧ t < 100.0) :
    WellFormed calmHost quietConfig a := by
  refine ⟨?_, by rwa [h.airTemps], by simp [h.towerTemps]⟩
  obtain ⟨serialNumber, rows, os, hm, hrows, -, -⟩ := h
  rw [hm]
  exact ⟨nofun, .inr hrows⟩

theorem SendsAir.nothingStale (h : SendsAir a temps)
    (hday : ∀ b ∈ sinceReset calmHost (mday calmHost a) past,
      (calmHost.zone b.time).day = (calmHost.zone a.time).day) :
    NothingStale (K := ℚ) calmHost past a := by
  obtain ⟨serialNumber, array, os, hm, -⟩ := h
  refine ⟨fun _ _ rows later _ _ _ => ?_, fun _ _ _ _ htower => ?_⟩
  · constructor <;> rintro x ⟨b, hb, hother, -⟩ <;> exact absurd (hday b hb) hother
  · cases hm.symm.trans htower

theorem SendsTower.nothingStale (h : SendsTower a sensorId (t :: temps))
    (hpast : ∀ b ∈ past, (calmHost.zone b.time).day ≠ (calmHost.zone a.time).day →
      ∀ x ∈ WfPublisher.towerTemps (K := ℚ) sensorId b.observations, x = t) :
    NothingStale (K := ℚ) calmHost past a := by
  obtain ⟨array, os, hm, -, hread, htemps⟩ := h
  refine ⟨fun _ _ _ _ hair => ?_, fun id obs rows later htower hrows hne => ?_⟩
  · cases hm.symm.trans hair
  · cases hm.symm.trans htower
    have harray : array = rows ++ later := by simpa [items, CJson.child] using hrows
    rw [harray] at hread
    obtain ⟨first, rest, hfirst, rfl⟩ := mapM_append_some hread
    have hmem : t ∈ towerRowTemps rows := by
      rw [towerRowTemps, filterMap_of_mapM hfirst]
      cases first with
      | nil => exact absurd rfl (mapM_ne_nil hfirst hne)
      | cons o first =>
        rw [List.cons_append, List.map_cons, List.cons.injEq] at htemps
        exact htemps.1 ▸ List.mem_cons_self
    constructor
    · rintro x ⟨b, hb, hother, hx⟩
      exact ⟨t, .inl hmem, (hpast b hb hother x hx).ge⟩
    · rintro x ⟨b, hb, hother, hx⟩
      exact ⟨t, .inl hmem, (hpast b hb hother x hx).le⟩

end

def warmDay : Arrival :=
  ⟨0, "\x7b\"type\":\"obs_tower\",\"serial_number\":\"T\",\"obs\":[[0,0,20,50]]\x7d".toList, by
    simp⟩

def coolerDay : Arrival :=
  ⟨86400, "\x7b\"type\":\"obs_tower\",\"serial_number\":\"T\",\"obs\":[[0,0,10,50]]\x7d".toList, by
    simp⟩

theorem warmDay_sends : SendsTower warmDay ['T'] [20] :=
  ⟨_, _, rfl, ⟨_, rfl, by simp, by simp [CompleteRow]⟩, rfl, by decide +kernel⟩

theorem coolerDay_sends : SendsTower coolerDay ['T'] [10] :=
  ⟨_, _, rfl, ⟨_, rfl, by simp, by simp [CompleteRow]⟩, rfl, by decide +kernel⟩

theorem coolerDay_high : (∀ a ∈ [warmDay, coolerDay], WellFormed calmHost quietConfig a) ∧
    ClockOrder calmHost [warmDay, coolerDay] ∧
    ¬ AfterEach (DailyHighLow calmHost quietConfig (.initial (utc 0) .zero none))
      [warmDay, coolerDay] := by
  have hwf : ∀ a ∈ [warmDay, coolerDay], WellFormed calmHost quietConfig a :=
    List.forall_mem_cons.mpr ⟨warmDay_sends.wellFormed (by norm_num),
      List.forall_mem_singleton.mpr (coolerDay_sends.wellFormed (by norm_num))⟩
  have hord : ClockOrder calmHost [warmDay, coolerDay] :=
    List.pairwise_pair.mpr (LocalTime.le_def.mpr (by decide +kernel))
  refine ⟨hwf, hord, fun h => ?_⟩
  have hiff : DailyHighLow calmHost quietConfig (.initial (utc 0) .zero none) [warmDay] coolerDay ↔
      NothingStale calmHost [warmDay] coolerDay :=
    dailyHighLow_iff_nothingStale (utc 0) .zero none hwf hord
  have hlast := hiff.mp (h _ _ List.prefix_rfl)
  obtain ⟨rows, os, hm, ⟨_, harray, hne, -⟩, hread, htemps⟩ := coolerDay_sends
  cases harray
  have hitems : items (some (.array rows)) = rows := by simp [items, CJson.child]
  obtain ⟨-, hhigh⟩ := hlast.2 _ _ rows [] hm (by rw [hitems, List.append_nil]) hne
  obtain ⟨y, hy, hle⟩ :=
    hhigh 20 ⟨warmDay, by simp, by decide +kernel, by simp [warmDay_sends.towerTemps]⟩
  rcases hy with hy | ⟨b, hb, hday, -⟩
  · rw [towerRowTemps, filterMap_of_mapM hread, htemps] at hy
    obtain rfl := List.mem_singleton.mp hy
    norm_num at hle
  · rw [List.mem_singleton.mp hb] at hday
    exact absurd hday (by decide +kernel)

-- ---------------------------------------------------------------------------
-- Two days of two sensors and the station
-- ---------------------------------------------------------------------------

def evening : Arrival :=
  ⟨60, ("\x7b\"type\":\"obs_tower\",\"serial_number\":\"T\",\"obs\":" ++
    "[[0,0,15,50],[60,0,15,52]]\x7d").toList, by simp⟩

def eveningAir : Arrival :=
  ⟨120, ("\x7b\"type\":\"obs_air\",\"obs\":" ++
    "[[60,1000,18,40,0,0],[120,1001,22,41,0,0]]\x7d").toList, by simp⟩

def morningAir : Arrival :=
  ⟨86460, ("\x7b\"type\":\"obs_air\",\"obs\":" ++
    "[[86400,999,30,40,0,0],[86460,999,5,41,0,0]]\x7d").toList, by simp⟩

def morning : Arrival :=
  ⟨86500, ("\x7b\"type\":\"obs_tower\",\"serial_number\":\"T\",\"obs\":" ++
    "[[86400,0,15,50],[86460,0,21,50]]\x7d").toList, by simp⟩

def morningShed : Arrival :=
  ⟨86560, ("\x7b\"type\":\"obs_tower\",\"serial_number\":\"S\",\"obs\":" ++
    "[[86500,0,9,60],[86560,0,-3,61]]\x7d").toList, by simp⟩

theorem evening_sends : SendsTower evening ['T'] [15, 15] :=
  ⟨_, _, rfl, ⟨_, rfl, by simp, by simp [CompleteRow]⟩, rfl, by decide +kernel⟩

theorem eveningAir_sends : SendsAir eveningAir [18, 22] :=
  ⟨_, _, _, rfl, ⟨_, rfl, by simp, by simp [CompleteRow]⟩, rfl, by decide +kernel⟩

theorem morningAir_sends : SendsAir morningAir [30, 5] :=
  ⟨_, _, _, rfl, ⟨_, rfl, by simp, by simp [CompleteRow]⟩, rfl, by decide +kernel⟩

theorem morning_sends : SendsTower morning ['T'] [15, 21] :=
  ⟨_, _, rfl, ⟨_, rfl, by simp, by simp [CompleteRow]⟩, rfl, by decide +kernel⟩

theorem morningShed_sends : SendsTower morningShed ['S'] [9, -3] :=
  ⟨_, _, rfl, ⟨_, rfl, by simp, by simp [CompleteRow]⟩, rfl, by decide +kernel⟩

theorem twoDays_highLow : AfterEach
    (DailyHighLow calmHost quietConfig (.initial (utc 0) .zero none))
      [evening, eveningAir, morningAir, morning, morningShed] := by
  have hwf : ∀ a ∈ [evening, eveningAir, morningAir, morning, morningShed],
      WellFormed calmHost quietConfig a := by
    simp only [List.forall_mem_cons, List.not_mem_nil, false_implies, implies_true, and_true]
    exact ⟨evening_sends.wellFormed (by norm_num), eveningAir_sends.wellFormed (by norm_num),
      morningAir_sends.wellFormed (by norm_num), morning_sends.wellFormed (by norm_num),
      morningShed_sends.wellFormed (by norm_num)⟩
  have hord : ClockOrder calmHost [evening, eveningAir, morningAir, morning, morningShed] := by
    unfold ClockOrder
    simp only [LocalTime.le_def]
    decide +kernel
  refine (dailyHighLow_iff hwf hord).mpr ?_
  rw [show [evening, eveningAir, morningAir, morning, morningShed] =
    [evening] ++ [eveningAir] ++ [morningAir] ++ [morning] ++ [morningShed] from rfl]
  simp only [afterEach_concat, afterEach_singleton]
  refine ⟨⟨⟨⟨?_, ?_⟩, ?_⟩, ?_⟩, ?_⟩
  · exact evening_sends.nothingStale (by simp)
  · refine eveningAir_sends.nothingStale ?_
    decide +kernel
  · refine morningAir_sends.nothingStale ?_
    decide +kernel
  · refine morning_sends.nothingStale ?_
    simp [evening_sends.towerTemps, eveningAir_sends.towerTemps, morningAir_sends.towerTemps]
  · refine morningShed_sends.nothingStale ?_
    simp [evening_sends.towerTemps, eveningAir_sends.towerTemps, morningAir_sends.towerTemps,
      morning_sends.towerTemps]

end WfPublisher
