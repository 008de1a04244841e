import WfPublisher.Receive.Buffers

/-!
# The list of sensors

Every sensor that sent a tower message has one entry, the one that was heard of
last in front. An entry is made of the mapping and of the sensor's own rows. The
search of the mapping does not come back from an item without the string it wants.
-/

namespace WfPublisher

open Fallible Keyed

section
variable {K : Type}

-- ---------------------------------------------------------------------------
-- The mapping
-- ---------------------------------------------------------------------------

theorem locationOf_eq {config : Config K} {sensorId location : CString}
    (h : lookupLocation sensorId (items config.sensorMapping) = .ok location) :
    locationOf config sensorId = sensorName config sensorId := by
  rw [sensorName_eq h, locationOf, h]
  cases location <;> rfl

-- ---------------------------------------------------------------------------
-- The sensors and their rows
-- ---------------------------------------------------------------------------

def introduced (os : List (Observation K)) : List CString :=
  os.filterMap fun
    | .sensor id => some id
    | _ => none

def rowsOf (sensorId : CString) (os : List (Observation K)) : List (TowerObs K) :=
  os.filterMap fun
    | .tower id o => if id = sensorId then some o else none
    | _ => none

section
variable {sensorId : CString} {os os' : List (Observation K)}

theorem introduced_append : introduced (os ++ os') = introduced os ++ introduced os' :=
  List.filterMap_append

theorem rowsOf_append : rowsOf sensorId (os ++ os') = rowsOf sensorId os ++ rowsOf sensorId os' :=
  List.filterMap_append

theorem rowsOf_tower (rows : List (TowerObs K)) : rowsOf sensorId (rows.map (.tower sensorId)) =
    rows := by
  simp [rowsOf]

theorem rowsOf_tower_of_ne {id : CString} (hid : id ≠ sensorId) (rows : List (TowerObs K)) :
    rowsOf sensorId (rows.map (.tower id)) = [] := by
  simp [rowsOf, hid]

theorem introduced_tower (id : CString) (rows : List (TowerObs K)) :
    introduced (rows.map (.tower id)) = [] := by
  simp [introduced]

end

variable [Field K] [LinearOrder K] (host : Host K) (config : Config K) (now : Int)

/-- An entry as its sensor's rows leave it. -/
def sensorEntry (os : List (Observation K)) (sensorId : CString) : SensorData K :=
  (rowsOf sensorId os).foldl (SensorData.store host)
    ⟨sensorId, none, 0, 0, -100.0, 100.0, locationOf config sensorId⟩

/-- The entries that observations leave, for the rows of named sensors. -/
def registry (os : List (Observation K)) : List (SensorData K) :=
  (introduced os).reverse.dedup.map (sensorEntry host config os)

section
variable {os past : List (Observation K)} {g : Globals K} {id : CString}

omit [Field K] in
theorem sensorId_foldl_store (rows : List (TowerObs K)) (sensor : SensorData K) :
    (rows.foldl (SensorData.store host) sensor).sensorId = sensor.sensorId := by
  induction rows generalizing sensor with
  | nil => rfl
  | cons o rows ih => exact ih _

theorem sensorEntry_sensorId (os : List (Observation K)) (sensorId : CString) :
    (sensorEntry host config os sensorId).sensorId = sensorId :=
  sensorId_foldl_store host _ _

theorem sensorEntry_congr {os' : List (Observation K)} (h : rowsOf id os' = rowsOf id os) :
    sensorEntry host config os' id = sensorEntry host config os id := by
  rw [sensorEntry, h]
  rfl

theorem registry_sensorIds (os : List (Observation K)) :
    (registry host config os).map SensorData.sensorId = (introduced os).reverse.dedup := by
  rw [registry, List.map_map]
  exact (List.map_congr_left fun id _ => sensorEntry_sensorId host config os id).trans
    (List.map_id _)

theorem mem_registry_sensorIds (h : g.wd.towerList = registry host config past) :
    id ∈ g.wd.towerList.map SensorData.sensorId ↔ id ∈ introduced past := by
  rw [h, registry_sensorIds, List.mem_dedup, List.mem_reverse]

def Named (os : List (Observation K)) : Prop := ∀ id, id ∉ introduced os → rowsOf id os = []

theorem registry_sensor (h : g.wd.towerList = registry host config past) (hnamed : Named past)
    (id : CString) : (g.storeSensor config id).wd.towerList =
      registry host config (past ++ [.sensor id]) := by
  have hrows (id' : CString) : sensorEntry host config (past ++ [.sensor id]) id' =
      sensorEntry host config past id' := by
    refine sensorEntry_congr host config ?_
    rw [rowsOf_append]
    exact List.append_nil _
  have hids : (introduced (past ++ [.sensor id])).reverse = id :: (introduced past).reverse := by
    rw [introduced_append, List.reverse_append]
    rfl
  have hentries : registry host config (past ++ [.sensor id]) =
      (id :: (introduced past).reverse).dedup.map (sensorEntry host config past) := by
    rw [registry, hids]
    exact List.map_congr_left fun id' _ => hrows id'
  rw [hentries]
  unfold Globals.storeSensor
  by_cases hid : id ∈ introduced past
  · rw [if_pos ((mem_registry_sensorIds host config h).mpr hid),
      List.dedup_cons_of_mem (List.mem_reverse.mpr hid)]
    exact h
  · rw [if_neg ((mem_registry_sensorIds host config h).not.mpr hid),
      List.dedup_cons_of_notMem (List.mem_reverse.not.mpr hid), List.map_cons]
    refine congrArg₂ List.cons ?_ h
    rw [sensorEntry, hnamed id hid]
    rfl

theorem registry_tower (h : g.wd.towerList = registry host config past) (o : TowerObs K) :
    (g.store host config now (.tower id o)).wd.towerList =
      registry host config (past ++ [.tower id o]) := by
  have hids : introduced (past ++ [.tower id o]) = introduced past := by
    rw [introduced_append]
    exact List.append_nil _
  rw [Globals.store, h, registry, registry, hids,
    update_map_of_nodup (sensorEntry_sensorId host config past) (List.nodup_dedup _)]
  refine List.map_congr_left fun id' _ => ?_
  by_cases heq : id' = id
  · subst heq
    have hrows : rowsOf id' (past ++ [.tower id' o]) = rowsOf id' past ++ [o] := by
      rw [rowsOf_append]
      exact congrArg _ (rowsOf_tower [o])
    rw [if_pos rfl, sensorEntry, sensorEntry, hrows, List.foldl_append]
    rfl
  · rw [if_neg heq]
    refine (sensorEntry_congr host config ?_).symm
    rw [rowsOf_append]
    exact congrArg _ (rowsOf_tower_of_ne (Ne.symm heq) [o]) |>.trans (List.append_nil _)

theorem registry_rows (h : g.wd.towerList = registry host config past) (id : CString)
    (rows : List (TowerObs K)) :
    ((rows.map (.tower id)).foldl (Globals.store host config now) g).wd.towerList =
      registry host config (past ++ rows.map (.tower id)) := by
  induction rows generalizing g past with
  | nil => simpa using h
  | cons o rows ih =>
    have hrow : (g.store host config now (.tower id o)).wd.towerList =
        registry host config (past ++ [.tower id o]) := registry_tower host config now h o
    have hrest := ih hrow
    rwa [List.append_assoc] at hrest

theorem registry_others (h : g.wd.towerList = registry host config past)
    (hsensor : ∀ id, .sensor id ∉ os) (htower : ∀ id o, .tower id o ∉ os) :
    (os.foldl (Globals.store host config now) g).wd.towerList =
      registry host config (past ++ os) := by
  induction os generalizing g past with
  | nil => simpa using h
  | cons o os ih =>
    have hs : ∀ id, o ≠ .sensor id := fun id ho => hsensor id (ho ▸ List.mem_cons_self)
    have ht : ∀ id row, o ≠ .tower id row := fun id row ho =>
      htower id row (ho ▸ List.mem_cons_self)
    have hsame : registry host config (past ++ [o]) = registry host config past := by
      unfold registry
      have hids : introduced (past ++ [o]) = introduced past := by
        rw [introduced_append]
        cases o with
        | sensor id => exact absurd rfl (hs id)
        | _ => exact List.append_nil _
      rw [hids]
      refine List.map_congr_left fun id _ => sensorEntry_congr host config ?_
      rw [rowsOf_append]
      cases o with
      | tower id' row => exact absurd rfl (ht id' row)
      | _ => exact List.append_nil _
    have hstore := towerList_store host config now g hs ht
    rw [h, ← hsame] at hstore
    have hrest := ih hstore (fun id hmem => hsensor id (List.mem_cons_of_mem _ hmem))
      fun id row hmem => htower id row (List.mem_cons_of_mem _ hmem)
    rwa [List.append_assoc] at hrest

theorem registry_shape (h : g.wd.towerList = registry host config past) (hnamed : Named past)
    {flag : Nat} (hshape : Shape flag os) :
    (os.foldl (Globals.store host config now) g).wd.towerList =
      registry host config (past ++ os) := by
  cases hshape with
  | tower id rows =>
    have hsensor := registry_sensor host config h hnamed id
    have hrows := registry_rows host config now hsensor id rows
    rwa [List.append_assoc] at hrows
  | _ => exact registry_others host config now h (by simp) (by simp)

omit [Field K] [LinearOrder K] in
theorem Named.shape (hnamed : Named past) {flag : Nat} (hshape : Shape flag os) :
    Named (past ++ os) := by
  intro id hid
  rw [introduced_append, List.mem_append, not_or] at hid
  rw [rowsOf_append, hnamed id hid.1, List.nil_append]
  cases hshape with
  | tower id' rows =>
    have hne : id' ≠ id := by
      rintro rfl
      exact hid.2 List.mem_cons_self
    exact rowsOf_tower_of_ne hne rows
  | _ => simp [rowsOf]

end

-- ---------------------------------------------------------------------------
-- After a run
-- ---------------------------------------------------------------------------

variable [FloorRing K]

variable (K) in
def received (arrivals : List Arrival) : List (Observation K) :=
  arrivals.flatMap Arrival.observations

/-- A tower message with its serial number and complete rows, and any other that does
no harm. -/
def Message.WellFormed (host : Host K) (config : Config K) (now : Int) : Message K → Prop
  | .tower serialNumber obs =>
    (∃ sensorId, serialNumber = some (.string sensorId)) ∧ CompleteRows [0, 2, 3] obs
  | m => m.Tame host config now

/-- The list has what the mapping and the datagrams say of each sensor, once. -/
structure Registered (config : Config K) (arrivals : List Arrival)
    (list : List (SensorData K)) : Prop where
  sensors : list.map SensorData.sensorId = (introduced (received K arrivals)).reverse.dedup
  location : ∀ sensor ∈ list, sensor.location = sensorName config sensor.sensorId
  temperature : ∀ sensor ∈ list, sensor.temperature =
    ((rowsOf sensor.sensorId (received K arrivals)).getLast?.map TowerObs.temperature).getD 0
  humidity : ∀ sensor ∈ list, sensor.humidity =
    ((rowsOf sensor.sensorId (received K arrivals)).getLast?.map TowerObs.humidity).getD 0

variable {host config} {t : LocalTime} {totals : RainTotals K} {rainfallJson : Option (CJson K)}
  {past arrivals : List Arrival} {a : Arrival} {s m : LoopState K}

theorem received_concat (past : List Arrival) (a : Arrival) :
    received K (past ++ [a]) = received K past ++ a.observations := by
  simp [received]

theorem registry_loop (h : loop host config (.initial t totals rainfallJson) arrivals = .ok s) :
    s.globals.wd.towerList = registry host config (received K arrivals) ∧
      Named (received K arrivals) := by
  refine loop_induction (P := fun arrivals s =>
    s.globals.wd.towerList = registry host config (received K arrivals) ∧
      Named (received K arrivals)) ⟨rfl, fun id _ => rfl⟩ ?_ h
  rintro past a m s' signal ⟨hlist, hnamed⟩ hround
  rw [← checkDay_towerList host a.time m] at hlist
  rw [hround.globals, received_concat]
  exact ⟨registry_shape host config a.time hlist hnamed a.shape, hnamed.shape a.shape⟩

theorem Message.Admitted.introduced {g : Globals K} {message : Message K}
    (hadmitted : message.Admitted host config now g) {id : CString}
    (hid : id ∈ introduced (message.observations.getD [])) :
    id ∈ g.wd.towerList.map SensorData.sensorId ∨
      ∃ location, lookupLocation id (items config.sensorMapping) = .ok location := by
  cases message with
  | tower serialNumber obs =>
    cases hserial : serialNumber.bind CJson.valuestring with
    | none => simp [Message.observations, hserial, WfPublisher.introduced] at hid
    | some sensorId =>
      cases hrows : (items obs).mapM TowerObs.read with
      | none => simp [Message.observations, hserial, hrows, WfPublisher.introduced] at hid
      | some rows =>
        have hid : id = sensorId := by
          simpa [Message.observations, hserial, hrows, WfPublisher.introduced] using hid
        exact hid ▸ hadmitted sensorId hserial
  | air serialNumber obs =>
    cases hrows : (items obs).mapM AirObs.read <;>
      simp [Message.observations, hrows, WfPublisher.introduced] at hid
  | sky serialNumber obs =>
    cases hrows : (items obs).mapM SkyObs.read <;>
      simp [Message.observations, hrows, WfPublisher.introduced] at hid
  | wind ob =>
    cases hrow : WindObs.read ob <;>
      simp [Message.observations, hrow, WfPublisher.introduced] at hid
  | _ => cases hid

theorem lookups_loop (h : loop host config (.initial t totals rainfallJson) arrivals = .ok s)
    {id : CString} (hid : id ∈ introduced (received K arrivals)) :
    ∃ location, lookupLocation id (items config.sensorMapping) = .ok location := by
  induction arrivals using List.reverseRecOn generalizing s with
  | nil => cases hid
  | append_singleton past a ih =>
    obtain ⟨m, signal, hm, hbody⟩ := loop_concat.mp h
    rw [received_concat, introduced_append] at hid
    obtain hid | hid := List.mem_append.mp hid
    · exact ih hm hid
    · obtain hknown | hfound := (loopBody_admitted hbody).introduced _ hid
      · rw [checkDay_towerList,
          mem_registry_sensorIds host config (registry_loop hm).1] at hknown
        exact ih hm hknown
      · exact hfound

omit [Field K] [FloorRing K] in
theorem foldl_store_last (rows : List (TowerObs K)) (sensor : SensorData K) :
    let stored := rows.foldl (SensorData.store host) sensor
    stored.location = sensor.location ∧
    stored.temperature = (rows.getLast?.map TowerObs.temperature).getD sensor.temperature ∧
    stored.humidity = (rows.getLast?.map TowerObs.humidity).getD sensor.humidity := by
  induction rows using List.reverseRecOn with
  | nil => exact ⟨rfl, rfl, rfl⟩
  | append_singleton rows o ih =>
    rw [List.foldl_append, List.getLast?_concat]
    exact ⟨ih.1, rfl, rfl⟩

theorem registered_loop (h : loop host config (.initial t totals rainfallJson) arrivals = .ok s) :
    Registered config arrivals s.globals.wd.towerList := by
  obtain ⟨hlist, -⟩ := registry_loop h
  have hentry : ∀ sensor ∈ s.globals.wd.towerList, ∃ id ∈ introduced (received K arrivals),
      sensor = sensorEntry host config (received K arrivals) id := by
    intro sensor hsensor
    rw [hlist] at hsensor
    obtain ⟨id, hid, rfl⟩ := List.mem_map.mp hsensor
    exact ⟨id, List.mem_reverse.mp (List.mem_dedup.mp hid), rfl⟩
  refine ⟨?_, ?_, ?_, ?_⟩
  · rw [hlist, registry_sensorIds]
  all_goals
    intro sensor hsensor
    obtain ⟨id, hid, rfl⟩ := hentry sensor hsensor
    rw [sensorEntry_sensorId]
  · obtain ⟨location, hlookup⟩ := lookups_loop h hid
    rw [← locationOf_eq hlookup]
    exact (foldl_store_last _ _).1
  · exact (foldl_store_last _ _).2.1
  · exact (foldl_store_last _ _).2.2

theorem sensor_loopBody {s' : LoopState K} {signal : Bool}
    (h : loop host config (.initial t totals rainfallJson) past = .ok m)
    (hbody : loopBody host config a m = .ok (s', signal)) {sensor : SensorData K}
    (hsensor : sensor ∈ m.globals.wd.towerList)
    (hother : sensor.sensorId ∉ introduced (received K [a])) :
    sensor ∈ s'.globals.wd.towerList := by
  have hrun := loop_concat.mpr ⟨m, signal, h, hbody⟩
  rw [(registry_loop h).1] at hsensor
  rw [(registry_loop hrun).1, received_concat]
  obtain ⟨id, hid, rfl⟩ := List.mem_map.mp hsensor
  rw [sensorEntry_sensorId] at hother
  have hrows : rowsOf id (a.observations : List (Observation K)) = [] := by
    have hnone : Named ([] : List (Observation K)) := fun _ _ => rfl
    have hnamed : Named ([] ++ a.observations : List (Observation K)) := hnone.shape a.shape
    exact hnamed id (by simpa [received] using hother)
  refine List.mem_map.mpr ⟨id, ?_, sensorEntry_congr host config ?_⟩
  · rw [List.mem_dedup, List.mem_reverse] at hid ⊢
    rw [introduced_append]
    exact List.mem_append_left _ hid
  · rw [rowsOf_append, hrows, List.append_nil]

theorem introduced_observations {sensorId : CString} {obs : Option (CJson K)}
    (hmessage : a.message K = .tower (some (.string sensorId)) obs)
    (hrows : CompleteRows [0, 2, 3] obs) :
    introduced (a.observations : List (Observation K)) = [sensorId] := by
  obtain ⟨rows, hread⟩ := hrows.exists_mapM (i := 3) (by simp) fun _ => TowerObs.exists_read
  have hobservations : a.observations = .sensor sensorId :: rows.map (.tower sensorId) := by
    simp [Arrival.observations, hmessage, Message.observations, CJson.valuestring, hread]
  rw [hobservations]
  exact congrArg (sensorId :: ·) (introduced_tower sensorId rows)

theorem Message.WellFormed.tame (hwell : (a.message K).WellFormed host config a.time)
    (hsearch : ∀ id ∈ introduced (a.observations : List (Observation K)),
      CompleteUpTo id (items config.sensorMapping)) : (a.message K).Tame host config a.time := by
  cases hmessage : a.message K with
  | tower serialNumber obs =>
    rw [hmessage] at hwell
    obtain ⟨⟨sensorId, rfl⟩, hrows⟩ := hwell
    have hids := introduced_observations hmessage hrows
    exact ⟨hrows, sensorId, rfl, hsearch sensorId (by simp [hids])⟩
  | _ =>
    rw [hmessage] at hwell
    exact hwell

theorem exists_loopBody_iff (h : loop host config (.initial t totals rainfallJson) past = .ok m)
    {sensorId : CString} {obs : Option (CJson K)}
    (hmessage : a.message K = .tower (some (.string sensorId)) obs)
    (hrows : CompleteRows [0, 2, 3] obs) :
    (∃ s' signal, loopBody host config a m = .ok (s', signal)) ↔
      CompleteUpTo sensorId (items config.sensorMapping) := by
  have hids := introduced_observations hmessage hrows
  constructor
  · rintro ⟨s', signal, hbody⟩
    refine exists_lookupLocation_iff.mp (lookups_loop (loop_concat.mpr ⟨m, signal, h, hbody⟩) ?_)
    rw [received_concat, introduced_append, hids]
    exact List.mem_append_right _ (List.mem_singleton_self sensorId)
  · intro hsearch
    have hwell : (a.message K).WellFormed host config a.time := by
      rw [hmessage]
      exact ⟨⟨sensorId, rfl⟩, hrows⟩
    refine exists_loopBody host (hwell.tame fun id hid => ?_) m
    rw [hids, List.mem_singleton] at hid
    exact hid ▸ hsearch

theorem exists_loop_iff (hwell : ∀ a ∈ arrivals, (a.message K).WellFormed host config a.time) :
    (∃ s, loop host config (.initial t totals rainfallJson) arrivals = .ok s) ↔
      ∀ id ∈ introduced (received K arrivals), CompleteUpTo id (items config.sensorMapping) := by
  constructor
  · rintro ⟨s, h⟩ id hid
    exact exists_lookupLocation_iff.mp (lookups_loop h hid)
  · intro hsearch
    refine exists_loop host (fun a ha => (hwell a ha).tame fun id hid => hsearch id ?_) _
    obtain ⟨o, ho, hid⟩ := List.mem_filterMap.mp hid
    exact List.mem_filterMap.mpr ⟨o, List.mem_flatMap.mpr ⟨a, ha, ho⟩, hid⟩

variable (host config t totals rainfallJson) in
/-- For any mapping and any datagrams the list is right wherever the program gets to,
and a message leaves the entries of other sensors alone; but it gets through well-formed
messages only where the mapping is complete up to their sensors. -/
theorem tower_registry (arrivals : List Arrival) :
    (∀ s, loop host config (.initial t totals rainfallJson) arrivals = .ok s →
      Registered config arrivals s.globals.wd.towerList ∧
      (∀ a s' signal, loopBody host config a s = .ok (s', signal) →
        ∀ sensor ∈ s.globals.wd.towerList, sensor.sensorId ∉ introduced (received K [a]) →
          sensor ∈ s'.globals.wd.towerList) ∧
      ∀ a sensorId obs, a.message K = .tower (some (.string sensorId)) obs →
        CompleteRows [0, 2, 3] obs →
          ((∃ s' signal, loopBody host config a s = .ok (s', signal) ∧
              Registered config (arrivals ++ [a]) s'.globals.wd.towerList) ↔
            CompleteUpTo sensorId (items config.sensorMapping))) ∧
    ((∀ a ∈ arrivals, (a.message K).WellFormed host config a.time) →
      ((∃ s, loop host config (.initial t totals rainfallJson) arrivals = .ok s ∧
          Registered config arrivals s.globals.wd.towerList) ↔
        ∀ id ∈ introduced (received K arrivals),
          CompleteUpTo id (items config.sensorMapping))) := by
  constructor
  · intro s h
    refine ⟨registered_loop h, ?_, ?_⟩
    · intro a s' signal hbody sensor hsensor hother
      exact sensor_loopBody h hbody hsensor hother
    · intro a sensorId obs hmessage hrows
      rw [← exists_loopBody_iff h hmessage hrows]
      refine exists_congr fun s' => exists_congr fun signal => and_iff_left_of_imp fun hbody => ?_
      exact registered_loop (loop_concat.mpr ⟨s, signal, h, hbody⟩)
  · intro hwell
    have hright : (∃ s, loop host config (.initial t totals rainfallJson) arrivals = .ok s ∧
        Registered config arrivals s.globals.wd.towerList) ↔
        ∃ s, loop host config (.initial t totals rainfallJson) arrivals = .ok s :=
      exists_congr fun s => and_iff_left_of_imp registered_loop
    exact hright.trans (exists_loop_iff hwell)

end

-- ---------------------------------------------------------------------------
-- An item without a location
-- ---------------------------------------------------------------------------

def halfMapped : Config ℚ where
  debug := false
  elevation := 0
  sensorMapping := some (.array [.object [("serial_number".toList, .string "ST".toList)]])

def halfMappedReport : Arrival where
  time := 0
  line := "\x7b\"type\":\"obs_tower\",\"serial_number\":\"ST\",\"obs\":[[0,0,20,50]]\x7d".toList
  received := by decide

theorem halfMappedReport_tower : ∃ obs,
    halfMappedReport.message ℚ = .tower (some (.string "ST".toList)) obs ∧
      CompleteRows [0, 2, 3] obs := by
  refine ⟨_, rfl, _, rfl, by simp, ?_⟩
  intro ob hob
  rw [List.mem_singleton] at hob
  subst hob
  refine ⟨_, rfl, ?_⟩
  simp

theorem halfMapped_lost :
    (∃ obs, halfMappedReport.message ℚ = .tower (some (.string "ST".toList)) obs ∧
      CompleteRows [0, 2, 3] obs) ∧
    sensorName halfMapped "ST".toList = "ST".toList ∧
    ¬ ∃ s, loop calmHost halfMapped (.initial (utc 0) .zero none) [halfMappedReport] = .ok s := by
  refine ⟨halfMappedReport_tower, by decide +kernel, ?_⟩
  rintro ⟨s, h⟩
  have herror : (loop calmHost halfMapped (.initial (utc 0) .zero none)
      [halfMappedReport]).isOk = false := by decide +kernel
  rw [h] at herror
  cases herror

-- ---------------------------------------------------------------------------
-- A complete mapping
-- ---------------------------------------------------------------------------

def gardenMapped : Config ℚ where
  debug := false
  elevation := 0
  sensorMapping := some (.array
    [.object [("serial_number".toList, .string "ST".toList),
      ("location".toList, .string "Garden".toList)]])

def gardenReport : Arrival where
  time := 60
  line := "\x7b\"type\":\"obs_tower\",\"serial_number\":\"ST\",\"obs\":[[60,0,19,55]]\x7d".toList
  received := by decide

def cellarReport : Arrival where
  time := 120
  line := ("\x7b\"type\":\"obs_tower\",\"serial_number\":\"CE\",\"obs\":" ++
    "[[120,0,12,80],[180,0,11,82]]\x7d").toList
  received := by decide

theorem gardenReports_wellFormed : ∀ a ∈ [gardenReport, cellarReport, gardenReport],
    (a.message ℚ).WellFormed calmHost gardenMapped a.time := by
  have hgarden : (gardenReport.message ℚ).WellFormed calmHost gardenMapped gardenReport.time := by
    refine ⟨⟨_, rfl⟩, _, rfl, by simp, ?_⟩
    intro ob hob
    obtain rfl := List.mem_singleton.mp hob
    refine ⟨_, rfl, ?_⟩
    simp
  have hcellar : (cellarReport.message ℚ).WellFormed calmHost gardenMapped cellarReport.time := by
    refine ⟨⟨_, rfl⟩, _, rfl, by simp, ?_⟩
    intro ob hob
    obtain rfl | hob := List.mem_cons.mp hob
    · refine ⟨_, rfl, ?_⟩
      simp
    · obtain rfl := List.mem_singleton.mp hob
      refine ⟨_, rfl, ?_⟩
      simp
  simpa using ⟨hgarden, hcellar, hgarden⟩

theorem gardenReports_registered : ∃ s, loop calmHost gardenMapped (.initial (utc 0) .zero none)
      [gardenReport, cellarReport, gardenReport] = .ok s ∧
    Registered gardenMapped [gardenReport, cellarReport, gardenReport]
      s.globals.wd.towerList := by
  obtain ⟨-, hruns⟩ := tower_registry calmHost gardenMapped (utc 0) .zero none
    [gardenReport, cellarReport, gardenReport]
  refine (hruns gardenReports_wellFormed).mpr fun id hid => ?_
  have hids : introduced (received ℚ [gardenReport, cellarReport, gardenReport]) =
      ["ST".toList, "CE".toList, "ST".toList] := by
    decide +kernel
  refine ⟨"ST".toList, by decide +kernel, ?_⟩
  by_cases h : id = "ST".toList
  · rw [if_pos h]
    decide +kernel
  · rw [if_neg h]
    exact trivial

end WfPublisher
