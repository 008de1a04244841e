import WfPublisher.Lib.Keyed
import WfPublisher.Receive

/-!
# The sensors' extremes

A sensor's entry is made by its first message and is never reset: its extremes
are those of all rows the sensor ever sent.
-/

namespace WfPublisher

open Keyed

section
variable {K : Type} [Field K] [LinearOrder K]

-- ---------------------------------------------------------------------------
-- A sensor's entry
-- ---------------------------------------------------------------------------

def towerTemps (sensorId : CString) (os : List (Observation K)) : List K :=
  os.filterMap fun
    | .tower id o => if id = sensorId then some o.temperature else none
    | _ => none

/-- An entry of the sensor has the extremes of `temps`, which it had to be made for. -/
def SensorTracked (sensorId : CString) (temps : List K) (list : List (SensorData K)) : Prop :=
  match list.find? fun sensor => sensor.sensorId = sensorId with
  | none => temps = []
  | some sensor => sensor.temperatureHigh = temps.foldl max (-100.0) ∧
    sensor.temperatureLow = temps.foldl min 100.0

def sensorIds (g : Globals K) : List CString := g.wd.towerList.map SensorData.sensorId

variable (host : Host K) (config : Config K) (now : Int)

theorem towerList_store (g : Globals K) {o : Observation K} (hsensor : ∀ id, o ≠ .sensor id)
    (htower : ∀ id row, o ≠ .tower id row) :
    (g.store host config now o).wd.towerList = g.wd.towerList := by
  cases o with
  | air row => rfl
  | sky row =>
    obtain ⟨_, _, _, h⟩ := storeSky_wd host now g row
    simp only [Globals.store, h]
    rfl
  | wind row =>
    obtain ⟨_, _, h⟩ := storeGust_wd g row.speed row.direction
    simp only [Globals.store, h]
  | sensor id => exact absurd rfl (hsensor id)
  | tower id row => exact absurd rfl (htower id row)

theorem sensorTracked_sensor {sensorId : CString} {temps : List K} {g : Globals K}
    (h : SensorTracked sensorId temps g.wd.towerList) (id : CString) :
    SensorTracked sensorId temps (g.storeSensor config id).wd.towerList := by
  unfold Globals.storeSensor
  by_cases hmem : id ∈ g.wd.towerList.map SensorData.sensorId
  · rwa [if_pos hmem]
  · rw [if_neg hmem]
    by_cases hid : id = sensorId
    · subst hid
      have hnone : g.wd.towerList.find? (fun sensor => sensor.sensorId = id) = none := by
        simpa [List.find?_eq_none] using hmem
      have htemps : temps = [] := by
        simpa only [SensorTracked, hnone] using h
      simp [SensorTracked, htemps]
    · simpa [SensorTracked, hid] using h

theorem sensorTracked_tower {sensorId id : CString} {temps : List K} {g : Globals K}
    (h : SensorTracked sensorId temps g.wd.towerList) (hid : id ∈ sensorIds g) (o : TowerObs K) :
    SensorTracked sensorId (temps ++ towerTemps sensorId [.tower id o])
      (g.store host config now (.tower id o)).wd.towerList := by
  by_cases heq : id = sensorId
  · subst heq
    have htemps : temps ++ towerTemps id [.tower id o] = temps ++ [o.temperature] := by
      simp [towerTemps]
    rw [htemps]
    unfold SensorTracked at h ⊢
    rw [Globals.store, find?_update_self (sensorId_store host o)]
    cases hfind : g.wd.towerList.find? fun sensor => sensor.sensorId = id with
    | none =>
      rw [List.find?_eq_none] at hfind
      obtain ⟨sensor, hmem, hsensor⟩ := List.mem_map.mp hid
      exact absurd (decide_eq_true hsensor) (hfind sensor hmem)
    | some sensor =>
      rw [hfind] at h
      obtain ⟨hhigh, hlow⟩ := h
      simp [SensorData.store, List.foldl_append, ← hhigh, ← hlow]
  · have htemps : temps ++ towerTemps sensorId [.tower id o] = temps := by
      simp [towerTemps, heq]
    rw [htemps]
    unfold SensorTracked at h ⊢
    rwa [Globals.store, find?_update_of_ne (sensorId_store host o) heq]

theorem SensorTracked.store {sensorId : CString} {temps : List K} {g : Globals K}
    (h : SensorTracked sensorId temps g.wd.towerList) {o : Observation K}
    (hknown : ∀ id row, o = .tower id row → id ∈ sensorIds g) :
    SensorTracked sensorId (temps ++ towerTemps sensorId [o])
      (g.store host config now o).wd.towerList := by
  cases o with
  | tower id row => exact sensorTracked_tower host config now h (hknown id row rfl) row
  | sensor id =>
    have htemps : temps ++ towerTemps sensorId [.sensor id] = temps := List.append_nil temps
    rw [htemps]
    exact sensorTracked_sensor config h id
  | _ =>
    rw [towerList_store host config now g (by simp) (by simp)]
    simpa [towerTemps] using h

theorem sensorIds_store {id : CString} {g : Globals K} (hid : id ∈ sensorIds g)
    (o : Observation K) : id ∈ sensorIds (g.store host config now o) := by
  unfold sensorIds at hid ⊢
  cases o with
  | sensor sensorId =>
    simp only [Globals.store, Globals.storeSensor]
    split
    · exact hid
    · exact List.mem_cons_of_mem _ hid
  | tower sensorId row =>
    rwa [Globals.store, map_update (sensorId_store host row)]
  | _ => rwa [towerList_store host config now g (by simp) (by simp)]

omit [LinearOrder K] in
theorem mem_sensorIds_storeSensor (id : CString) (g : Globals K) :
    id ∈ sensorIds (g.storeSensor config id) := by
  unfold Globals.storeSensor
  split
  · assumption
  · exact List.mem_cons_self

theorem SensorTracked.foldl_store {sensorId : CString} {temps : List K} {g : Globals K}
    (h : SensorTracked sensorId temps g.wd.towerList) {os : List (Observation K)}
    (hknown : ∀ id row, .tower id row ∈ os → id ∈ sensorIds g) :
    SensorTracked sensorId (temps ++ towerTemps sensorId os)
      (os.foldl (Globals.store host config now) g).wd.towerList := by
  induction os generalizing temps g with
  | nil => simpa [towerTemps] using h
  | cons o os ih =>
    have hstep := h.store host config now fun id row ho => hknown id row (ho ▸ List.mem_cons_self)
    have hrest := ih hstep fun id row hmem =>
      sensorIds_store host config now (hknown id row (List.mem_cons_of_mem _ hmem)) o
    rwa [List.append_assoc, towerTemps, towerTemps, ← List.filterMap_append] at hrest

theorem SensorTracked.rows {sensorId id : CString} {temps : List K} {g : Globals K}
    (h : SensorTracked sensorId temps g.wd.towerList) (hid : id ∈ sensorIds g)
    (rows : List (TowerObs K)) :
    SensorTracked sensorId (temps ++ towerTemps sensorId (rows.map (.tower id)))
      ((rows.map (.tower id)).foldl (Globals.store host config now) g).wd.towerList := by
  refine h.foldl_store host config now fun id' row hmem => ?_
  obtain ⟨_, -, heq⟩ := List.mem_map.mp hmem
  cases heq
  exact hid

theorem SensorTracked.shape {sensorId : CString} {temps : List K} {g : Globals K}
    (h : SensorTracked sensorId temps g.wd.towerList) {flag : Nat} {os : List (Observation K)}
    (hshape : Shape flag os) : SensorTracked sensorId (temps ++ towerTemps sensorId os)
      (os.foldl (Globals.store host config now) g).wd.towerList := by
  cases hshape with
  | tower id rows =>
    have hsensor := h.store host config now (o := .sensor id) nofun
    have hrows := hsensor.rows host config now (mem_sensorIds_storeSensor config id g) rows
    rwa [List.append_assoc, towerTemps, towerTemps, ← List.filterMap_append] at hrows
  | nothing => exact h.foldl_store host config now nofun
  | _ => exact h.foldl_store host config now (by simp)

-- ---------------------------------------------------------------------------
-- What is tracked after a run
-- ---------------------------------------------------------------------------

variable [FloorRing K]

def sensorTemperatures (sensorId : CString) (arrivals : List Arrival) : List K :=
  arrivals.flatMap fun b => towerTemps sensorId b.observations

variable {host config} {past : List Arrival} {a : Arrival} {s s' : LoopState K} {signal : Bool}

omit [LinearOrder K] [FloorRing K] in
theorem checkDay_towerList (host : Host K) (now : Int) (s : LoopState K) :
    (checkDay host now s).globals.wd.towerList = s.globals.wd.towerList := by
  unfold checkDay
  dsimp only
  split <;> rfl

theorem sensorTracked_loop {t : LocalTime} {totals : RainTotals K}
    {rainfallJson : Option (CJson K)} (sensorId : CString)
    (h : loop host config (.initial t totals rainfallJson) past = .ok s) :
    SensorTracked sensorId (sensorTemperatures sensorId past) s.globals.wd.towerList := by
  refine loop_induction (P := fun past s =>
    SensorTracked sensorId (sensorTemperatures sensorId past) s.globals.wd.towerList)
    ?_ (fun past a m s' signal hm hround => ?_) h
  · rfl
  · have htracked := hm
    rw [← checkDay_towerList host a.time m] at htracked
    rw [hround.globals, sensorTemperatures, List.flatMap_append, List.flatMap_singleton]
    exact htracked.shape host config a.time a.shape

end

end WfPublisher
