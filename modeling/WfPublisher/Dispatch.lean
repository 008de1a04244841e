import WfPublisher.Observations

/-!
# What a message stores

The text of a datagram is a message, the message a list of observations.
`wf_message_parse` succeeds exactly when all of them can be read and the few
lookups besides the rows go well, and then it stores them.
-/

namespace WfPublisher

open Fallible Keyed

section
variable {K : Type}

/-- What is looked up in a message of each type. -/
inductive Message (K : Type)
  | air (serialNumber obs : Option (CJson K))
  | sky (serialNumber obs : Option (CJson K))
  | wind (ob : Option (CJson K))
  | tower (serialNumber obs : Option (CJson K))
  | ignored
  /-- An array with items, whose names the lookup of the type reads. -/
  | unnamed

def field (name : CString) (members : List (CString × CJson K)) : Option (CJson K) :=
  (members.find? fun m => name = m.1).map Prod.snd

theorem getObjectItem_object (name : CString) (members : List (CString × CJson K)) :
    getObjectItemCaseSensitive (some (.object members)) name = .ok (field name members) := by
  unfold getObjectItemCaseSensitive field CJson.child
  induction members with
  | nil => rfl
  | cons m rest ih => by_cases h : name = m.1 <;> simp [findChild, h, ih]

-- ---------------------------------------------------------------------------
-- Messages and their observations
-- ---------------------------------------------------------------------------

section
variable [Field K] [LinearOrder K] [FloorRing K] (host : Host K) (config : Config K) (now : Int)

def messageOf : Option (CJson K) → Message K
  | some (.object members) =>
    match field "type".toList members with
    | some (.string type) =>
      let serialNumber := field "serial_number".toList members
      let obs := field "obs".toList members
      if type = "obs_air".toList then .air serialNumber obs
      else if type = "obs_sky".toList then .sky serialNumber obs
      else if type = "rapid_wind".toList then .wind (field "ob".toList members)
      else if type = "obs_tower".toList then .tower serialNumber obs
      else .ignored
    | _ => .ignored
  | some (.array (_ :: _)) => .unnamed
  | _ => .ignored

def message (msg : CString) : Message K := messageOf (cJSONParse msg)

namespace Message

def flag : Message K → Nat
  | .air .. => airData
  | .sky .. => skyData
  | _ => 0

def observations : Message K → Option (List (Observation K))
  | .air _ obs => ((items obs).mapM AirObs.read).map (List.map .air)
  | .sky _ obs => ((items obs).mapM SkyObs.read).map (List.map .sky)
  | .wind ob => (WindObs.read ob).map fun o => [.wind o]
  | .tower serialNumber obs => do
    let sensorId ← serialNumber.bind CJson.valuestring
    let os ← (items obs).mapM TowerObs.read
    some (.sensor sensorId :: os.map (.tower sensorId))
  | .ignored => some []
  | .unnamed => none

/-- What is done besides the rows goes well: the serial number is printed, the rain
of the rows is saved, and a new sensor's location is found. -/
def Admitted (g : Globals K) : Message K → Prop
  | .air serialNumber _ => config.debug = true → serialNumber.isSome = true
  | .sky serialNumber obs => (config.debug = true → serialNumber.isSome = true) ∧
    (items obs ≠ [] → host.opens now = true)
  | .tower serialNumber _ => ∀ sensorId, serialNumber.bind CJson.valuestring = some sensorId →
    sensorId ∈ g.wd.towerList.map SensorData.sensorId ∨
      ∃ location, lookupLocation sensorId (items config.sensorMapping) = .ok location
  | _ => True

end Message

-- ---------------------------------------------------------------------------
-- The handlers
-- ---------------------------------------------------------------------------

omit [Field K] [LinearOrder K] [FloorRing K] in
theorem printSerialNumber_ok {members : List (CString × CJson K)} {u : Unit} :
    printSerialNumber config (some (.object members)) = .ok u ↔
      (config.debug = true → (field "serial_number".toList members).isSome = true) := by
  unfold printSerialNumber
  rw [getObjectItem_object]
  cases config.debug <;> cases field "serial_number".toList members <;> simp

theorem wfpAirParse_ok {members : List (CString × CJson K)} {g g' : Globals K} :
    wfpAirParse host config now (some (.object members)) g = .ok g' ↔
      (config.debug = true → (field "serial_number".toList members).isSome = true) ∧
      ∃ os, (items (field "obs".toList members)).mapM AirObs.read = some os ∧
        g' = os.foldl (Globals.storeAir host config now) g := by
  unfold wfpAirParse
  rw [bind_ok, getObjectItem_object, ok_bind, forEachItem_eq]
  simp only [printSerialNumber_ok, exists_const, airRows_ok]

theorem wfpSkyParse_ok {members : List (CString × CJson K)} {g g' : Globals K} :
    wfpSkyParse host config now (some (.object members)) g = .ok g' ↔
      ((config.debug = true → (field "serial_number".toList members).isSome = true) ∧
        (items (field "obs".toList members) ≠ [] → host.opens now = true)) ∧
      ∃ os, (items (field "obs".toList members)).mapM SkyObs.read = some os ∧
        g' = os.foldl (Globals.storeSky host now) g := by
  unfold wfpSkyParse
  rw [bind_ok, getObjectItem_object, ok_bind, forEachItem_eq]
  simp only [printSerialNumber_ok, exists_const, skyRows_ok, and_assoc]

omit [LinearOrder K] [FloorRing K] in
theorem newSensor_ok {sensorId : CString} {sensor : SensorData K} :
    newSensor config sensorId = .ok sensor ↔
      (∃ location, lookupLocation sensorId (items config.sensorMapping) = .ok location) ∧
      sensor = ⟨sensorId, none, 0, 0, -100.0, 100.0, locationOf config sensorId⟩ := by
  unfold newSensor locationOf
  cases lookupLocation sensorId (items config.sensorMapping) with
  | error => simp
  | ok location => cases location <;> simp [eq_comm]

omit [LinearOrder K] [FloorRing K] in
theorem findSensor_ok {sensorId : CString} {list : Nat} {g g' : Globals K} :
    findSensor config sensorId g = .ok (list, g') ↔
      (sensorId ∈ g.wd.towerList.map SensorData.sensorId ∨
        ∃ location, lookupLocation sensorId (items config.sensorMapping) = .ok location) ∧
      g' = g.storeSensor config sensorId ∧
      list = g'.wd.towerList.findIdx fun sensor => sensor.sensorId = sensorId := by
  have hlt : g.wd.towerList.findIdx (fun sensor => sensor.sensorId = sensorId) <
      g.wd.towerList.length ↔ sensorId ∈ g.wd.towerList.map SensorData.sensorId := by
    simp [List.findIdx_lt_length]
  simp only [findSensor, hlt]
  by_cases hmem : sensorId ∈ g.wd.towerList.map SensorData.sensorId
  · simp only [hmem, if_true, pure_eq_ok, Except.ok.injEq, Prod.mk.injEq, true_or, true_and,
      Globals.storeSensor]
    constructor
    · rintro ⟨rfl, rfl⟩
      exact ⟨rfl, rfl⟩
    · rintro ⟨rfl, rfl⟩
      exact ⟨rfl, rfl⟩
  · simp only [hmem, if_false, bind_ok, newSensor_ok, pure_eq_ok, Except.ok.injEq, Prod.mk.injEq,
      false_or, and_assoc, exists_and_left, exists_eq_left, Globals.storeSensor]
    refine and_congr_right fun _ => ?_
    constructor
    · rintro ⟨rfl, rfl⟩
      exact ⟨rfl, by simp [List.findIdx_cons]⟩
    · rintro ⟨rfl, rfl⟩
      exact ⟨by simp [List.findIdx_cons], rfl⟩

theorem wfpTowerParse_ok {members : List (CString × CJson K)} {g g' : Globals K} :
    wfpTowerParse host config (some (.object members)) g = .ok g' ↔
      ∃ sensorId, (field "serial_number".toList members).bind CJson.valuestring = some sensorId ∧
        (sensorId ∈ g.wd.towerList.map SensorData.sensorId ∨
          ∃ location, lookupLocation sensorId (items config.sensorMapping) = .ok location) ∧
        ∃ os, (items (field "obs".toList members)).mapM TowerObs.read = some os ∧
          g' = os.foldl (fun g o => g.store host config now (.tower sensorId o))
            (g.storeSensor config sensorId) := by
  unfold wfpTowerParse
  simp only [getObjectItem_object, ok_bind, forEachItem_eq, bind_ok, deref_ok, Prod.exists,
    findSensor_ok, Option.bind_eq_some_iff]
  constructor
  · rintro ⟨tmp, htmp, sensorId, hid, _, _, ⟨hlocated, rfl, rfl⟩, hrows⟩
    exact ⟨sensorId, ⟨tmp, htmp, hid⟩, hlocated, (towerRows_ok host config now rfl).mp hrows⟩
  · rintro ⟨sensorId, ⟨tmp, htmp, hid⟩, hlocated, hrows⟩
    exact ⟨tmp, htmp, sensorId, hid, _, _, ⟨hlocated, rfl, rfl⟩,
      (towerRows_ok host config now rfl).mpr hrows⟩

omit [FloorRing K] in
/-- A handler that raises `flag`, with the observations of its rows. -/
theorem handler_ok {handler : Except Fault (Globals K)} {flag ret : Nat} {g g' : Globals K}
    {admitted : Prop} {ο : Type} {rows : Option (List ο)} {observation : ο → Observation K}
    {store : Globals K → ο → Globals K}
    (hstore : ∀ g o, g.store host config now (observation o) = store g o)
    (h : handler = .ok g' ↔ admitted ∧ ∃ os, rows = some os ∧ g' = os.foldl store g) :
    (handler >>= fun g => pure (flag, g)) = .ok (ret, g') ↔
      admitted ∧ ret = flag ∧ ∃ os, rows.map (List.map observation) = some os ∧
        g' = os.foldl (Globals.store host config now) g := by
  have hfold (os : List ο) : (os.map observation).foldl (Globals.store host config now) g =
      os.foldl store g := by
    simp only [List.foldl_map, hstore]
  simp only [bind_ok, pure_eq_ok, Except.ok.injEq, Prod.mk.injEq, Option.map_eq_some_iff]
  constructor
  · rintro ⟨_, hg, rfl, rfl⟩
    obtain ⟨hadmitted, os, hos, rfl⟩ := h.mp hg
    exact ⟨hadmitted, rfl, _, ⟨os, hos, rfl⟩, (hfold os).symm⟩
  · rintro ⟨hadmitted, rfl, _, ⟨os, hos, rfl⟩, rfl⟩
    exact ⟨_, h.mpr ⟨hadmitted, os, hos, hfold os⟩, rfl, rfl⟩

def Message.Stores (g : Globals K) (ret : Nat) (g' : Globals K) (m : Message K) : Prop :=
  m.Admitted host config now g ∧ ret = m.flag ∧
    ∃ os, m.observations = some os ∧ g' = os.foldl (Globals.store host config now) g

variable {msg : CString} {g g' : Globals K} {ret : Nat}

theorem ignored_stores :
    (Except.ok (0, g) : Except Fault (Nat × Globals K)) = .ok (ret, g') ↔
      Message.ignored.Stores host config now g ret g' := by
  simp [Message.Stores, Message.Admitted, Message.flag, Message.observations, eq_comm]

theorem wind_stores {members : List (CString × CJson K)} :
    (wfpWindParse (some (.object members)) g >>= fun g => pure (0, g)) = .ok (ret, g') ↔
      (Message.wind (field "ob".toList members)).Stores host config now g ret g' := by
  simp only [bind_ok, pure_eq_ok, wfpWindParse_ok (getObjectItem_object ..), Except.ok.injEq,
    Prod.mk.injEq, Message.Stores, Message.Admitted, Message.flag, Message.observations,
    Option.map_eq_some_iff, true_and]
  constructor
  · rintro ⟨_, ⟨o, ho, rfl⟩, rfl, rfl⟩
    exact ⟨rfl, _, ⟨o, ho, rfl⟩, rfl⟩
  · rintro ⟨rfl, _, ⟨o, ho, rfl⟩, rfl⟩
    exact ⟨_, ⟨o, ho, rfl⟩, rfl, rfl⟩

theorem tower_stores {members : List (CString × CJson K)} :
    (wfpTowerParse host config (some (.object members)) g >>= fun g => pure (0, g)) =
        .ok (ret, g') ↔
      (Message.tower (field "serial_number".toList members)
        (field "obs".toList members)).Stores host config now g ret g' := by
  have hfold (sensorId : CString) (os : List (TowerObs K)) :
      (Observation.sensor sensorId :: os.map (.tower sensorId)).foldl
        (Globals.store host config now) g =
      os.foldl (fun g o => g.store host config now (.tower sensorId o))
        (g.storeSensor config sensorId) := by
    rw [List.foldl_cons, List.foldl_map]
    rfl
  simp only [bind_ok, pure_eq_ok, wfpTowerParse_ok host config now, Except.ok.injEq, Prod.mk.injEq]
  constructor
  · rintro ⟨_, ⟨sensorId, hid, hlocated, os, hos, rfl⟩, rfl, rfl⟩
    refine ⟨fun id h => ?_, rfl, .sensor sensorId :: os.map (.tower sensorId), ?_,
      (hfold sensorId os).symm⟩
    · cases hid.symm.trans h
      exact hlocated
    · simp only [Message.observations, hid, hos, Option.bind_eq_bind, Option.bind_some]
  · rintro ⟨hlocated, rfl, os, hos, rfl⟩
    simp only [Message.observations, Option.bind_eq_bind, Option.bind_eq_some_iff,
      Option.some.injEq] at hos
    obtain ⟨sensorId, hid, rows, hrows, rfl⟩ := hos
    exact ⟨_, ⟨sensorId, Option.bind_eq_some_iff.mpr hid, hlocated sensorId
      (Option.bind_eq_some_iff.mpr hid), rows, hrows, hfold sensorId rows⟩, rfl, rfl⟩

theorem wfMessageParse_of_string {type : CString}
    (h : getObjectItemCaseSensitive (cJSONParse (K := K) msg) "type".toList =
      .ok (some (.string type))) :
    wfMessageParse host config now msg g =
      if type = "obs_air".toList then
        wfpAirParse host config now (cJSONParse msg) g >>= fun g => pure (airData, g)
      else if type = "obs_sky".toList then
        wfpSkyParse host config now (cJSONParse msg) g >>= fun g => pure (skyData, g)
      else if type = "rapid_wind".toList then
        wfpWindParse (cJSONParse msg) g >>= fun g => pure (0, g)
      else if type = "obs_tower".toList then
        wfpTowerParse host config (cJSONParse msg) g >>= fun g => pure (0, g)
      else .ok (0, g) := by
  simp only [wfMessageParse, handleMessage, h, ok_bind]
  refine if_congr Iff.rfl rfl (if_congr Iff.rfl rfl (if_congr Iff.rfl rfl ?_))
  by_cases htower : type = "obs_tower".toList
  · subst htower
    exact if_neg (by decide)
  · rw [if_neg htower, if_neg htower, ite_self]
    rfl

theorem wfMessageParse_of_other {type : Option (CJson K)}
    (h : getObjectItemCaseSensitive (cJSONParse (K := K) msg) "type".toList = .ok type)
    (htype : ∀ s, type ≠ some (.string s)) :
    wfMessageParse host config now msg g = .ok (0, g) := by
  simp only [wfMessageParse, handleMessage, h, ok_bind]
  cases type with
  | none => rfl
  | some item =>
    cases item with
    | string s => exact absurd rfl (htype s)
    | _ => rfl

omit [Field K] [LinearOrder K] [FloorRing K] in
theorem ignored_or_unnamed_or_object (json : Option (CJson K)) :
    (∀ name, getObjectItemCaseSensitive json name = .ok none) ∧ messageOf json = .ignored ∨
      (∀ name, getObjectItemCaseSensitive json name = .error .nullDeref) ∧
        messageOf json = .unnamed ∨
      ∃ members, json = some (.object members) := by
  cases json with
  | none => exact .inl ⟨fun _ => rfl, rfl⟩
  | some item =>
    cases item with
    | array list =>
      cases list with
      | nil => exact .inl ⟨fun _ => rfl, rfl⟩
      | cons first rest => exact .inr (.inl ⟨fun _ => rfl, rfl⟩)
    | object members => exact .inr (.inr ⟨members, rfl⟩)
    | _ => exact .inl ⟨fun _ => rfl, rfl⟩

theorem typed_stores {members : List (CString × CJson K)} {type : CString}
    (hjson : cJSONParse (K := K) msg = some (.object members))
    (htype : field "type".toList members = some (.string type)) :
    wfMessageParse host config now msg g = .ok (ret, g') ↔
      (messageOf (some (.object members))).Stores host config now g ret g' := by
  have hlookup : getObjectItemCaseSensitive (cJSONParse (K := K) msg) "type".toList =
      .ok (some (.string type)) := by
    rw [hjson, getObjectItem_object, htype]
  rw [wfMessageParse_of_string host config now hlookup, hjson, messageOf, htype]
  dsimp only
  by_cases hair : type = "obs_air".toList
  · rw [if_pos hair, if_pos hair]
    exact handler_ok host config now (fun _ _ => rfl) (wfpAirParse_ok host config now)
  rw [if_neg hair, if_neg hair]
  by_cases hsky : type = "obs_sky".toList
  · rw [if_pos hsky, if_pos hsky]
    exact handler_ok host config now (fun _ _ => rfl) (wfpSkyParse_ok host config now)
  rw [if_neg hsky, if_neg hsky]
  by_cases hwind : type = "rapid_wind".toList
  · rw [if_pos hwind, if_pos hwind]
    exact wind_stores host config now
  rw [if_neg hwind, if_neg hwind]
  by_cases htower : type = "obs_tower".toList
  · rw [if_pos htower, if_pos htower]
    exact tower_stores host config now
  · rw [if_neg htower, if_neg htower]
    exact ignored_stores host config now

theorem wfMessageParse_ok :
    wfMessageParse host config now msg g = .ok (ret, g') ↔
      (message msg).Stores host config now g ret g' := by
  unfold message
  obtain ⟨hlookup, hm⟩ | ⟨hlookup, hm⟩ | ⟨members, hjson⟩ :=
    ignored_or_unnamed_or_object (cJSONParse (K := K) msg)
  · rw [wfMessageParse_of_other host config now (hlookup _) nofun, hm]
    exact ignored_stores host config now
  · rw [hm]
    simp only [wfMessageParse, handleMessage, hlookup, error_bind, reduceCtorEq, false_iff]
    rintro ⟨_, _, os, hos, _⟩
    cases hos
  · have hlookup : getObjectItemCaseSensitive (cJSONParse (K := K) msg) "type".toList =
        .ok (field "type".toList members) := by
      rw [hjson, getObjectItem_object]
    rw [hjson]
    cases htype : field "type".toList members with
    | none =>
      rw [htype] at hlookup
      rw [wfMessageParse_of_other host config now hlookup nofun, messageOf, htype]
      exact ignored_stores host config now
    | some type =>
      cases type with
      | string type => exact typed_stores host config now hjson htype
      | _ =>
        rw [htype] at hlookup
        rw [wfMessageParse_of_other host config now hlookup nofun, messageOf, htype]
        exact ignored_stores host config now

end

end

end WfPublisher
