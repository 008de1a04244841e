import Mathlib
import WfPublisher.Receive.Sensors

/-!
# The receive path's buffers

Every text the receive path copies, with the buffer it goes to, in the order of
the copies. What a message writes depends on no length but those of the datagram
and of a new sensor's name.
-/

namespace WfPublisher

open Fallible Keyed

-- ---------------------------------------------------------------------------
-- Buffers
-- ---------------------------------------------------------------------------

/-- `line[1024]`, `location[50]`, `wind_dir[4]` and the `malloc(25)` of a time stamp. -/
inductive Buffer
  | line
  | location
  | windDir
  | timestamp
  deriving DecidableEq

def Buffer.capacity : Buffer → Nat
  | .line => 1024
  | .location => 50
  | .windDir => 4
  | .timestamp => 25

structure Write where
  buffer : Buffer
  text : CString

def Write.Fits (w : Write) : Prop := w.text.length + 1 ≤ w.buffer.capacity

instance (w : Write) : Decidable w.Fits := inferInstanceAs (Decidable (_ ≤ _))

section
variable {K : Type} [Field K] [LinearOrder K] [FloorRing K]

-- ---------------------------------------------------------------------------
-- What is written
-- ---------------------------------------------------------------------------

section
variable (host : Host K) (config : Config K) (now : Int)

/-- The writes of the rows up to the first one that stops the program, which has
made its own before it does. -/
def rowWrites (row : CJson K → Globals K → Except Fault (Globals K))
    (writes : CJson K → List Write) : List (CJson K) → Globals K → List Write
  | [], _ => []
  | ob :: rows, g =>
    writes ob ++
      match row ob g with
      | .ok g => rowWrites row writes rows g
      | .error _ => []

def stampWrites (ob : CJson K) : List Write :=
  match getArrayItem (some ob) 0 with
  | some tmp => [⟨.timestamp, timestampText (stampTime host tmp)⟩]
  | none => []

def compassWrites (ob : CJson K) : List Write :=
  match getArrayItem (some ob) 7, getArrayItem (some ob) 10 with
  | some direction, some _ => [⟨.windDir, (degreesToCardinal direction.valuedouble).take 3⟩]
  | _, _ => []

def locationWrites (sensorId : CString) : List Write :=
  match lookupLocation sensorId (items config.sensorMapping) with
  | .ok location =>
    ⟨.location, location⟩ :: if location = [] then [⟨.location, sensorId⟩] else []
  | .error _ => []

def sensorWrites (sensorId : CString) (g : Globals K) : List Write :=
  if sensorId ∈ g.wd.towerList.map SensorData.sensorId then [] else locationWrites config sensorId

def Message.writes (g : Globals K) : Message K → List Write
  | .air serialNumber obs =>
    if config.debug = true ∧ serialNumber = none then []
    else rowWrites (fun ob => airRow host config now (some ob)) (stampWrites host) (items obs) g
  | .sky serialNumber obs =>
    if config.debug = true ∧ serialNumber = none then []
    else rowWrites (fun ob => skyRow host now (some ob)) compassWrites (items obs) g
  | .tower serialNumber obs =>
    match serialNumber.bind CJson.valuestring with
    | none => []
    | some sensorId =>
      sensorWrites config sensorId g ++
        match findSensor config sensorId g with
        | .ok (list, g) =>
          rowWrites (fun ob => towerRow host list (some ob)) (stampWrites host) (items obs) g
        | .error _ => []
  | _ => []

def writes (a : Arrival) (s : LoopState K) : List Write :=
  ⟨.line, a.line⟩ :: (a.message K).writes host config a.time (checkDay host a.time s).globals

end

-- ---------------------------------------------------------------------------
-- Time stamps
-- ---------------------------------------------------------------------------

/-- The zone's offset is below two days, for the times `localtime` is asked about. -/
def Host.NearUtc (host : Host K) : Prop :=
  ∀ t, 0 ≤ t → t < 2 ^ 32 → |(host.zone t).sec - t| ≤ 172800

theorem length_padded {width : Nat} {fill : Char} {n : Int} (hw : 0 < width) (h0 : 0 ≤ n)
    (h : n < 10 ^ width) : (padded width fill n).length = width := by
  lift n to Nat using h0
  have hdigits : (toString (n : Int)).toList.length ≤ width := by
    have hrepr : toString (n : Int) = Nat.repr n := rfl
    rw [hrepr, String.length_toList]
    exact Nat.repr_length n width hw (by exact_mod_cast h)
  rw [padded, List.length_leftpad]
  exact max_eq_left hdigits

theorem length_timestampText {t : LocalTime} (h0 : 0 ≤ t.year) (h : t.year < 10000) :
    (timestampText (localtime t)).length = 19 := by
  obtain ⟨hday0, hday⟩ := Calendar.dateOf_day_bounds t.day
  have hyear : (localtime t).tmYear + 1900 = t.year := by
    rw [tmYear_eq, Int.sub_add_cancel]
  have hmday : (localtime t).tmMday = (Calendar.dateOf t.day).day := rfl
  simp only [timestampText, List.length_append, List.length_singleton, hyear, hmday]
  have hfield {n : Int} (hn0 : 0 ≤ n) (hn : n < 10 ^ 2) : (padded 2 '0' n).length = 2 :=
    length_padded (by decide) hn0 hn
  rw [length_padded (by decide) h0 h, hfield (by omega) (by omega), hfield (by omega) (by omega),
    hfield (by omega) (by omega), hfield (by omega) (by omega), hfield (by omega) (by omega)]

omit [Field K] [LinearOrder K] [FloorRing K] in
theorem Host.NearUtc.year_bounds {host : Host K} (hzone : host.NearUtc) {t : Int} (h0 : 0 ≤ t)
    (h : t < 2 ^ 32) : 0 ≤ (host.zone t).year ∧ (host.zone t).year < 10000 := by
  obtain ⟨hlow, hhigh⟩ := abs_le.mp (hzone t h0 h)
  have h1970 : Calendar.yearStart 1970 = 719528 := by decide
  have h10000 : Calendar.yearStart 10000 = 3652425 := by decide
  have hstart : Calendar.yearStart 0 = 0 := by decide
  constructor
  · rw [LocalTime.year, Calendar.le_yearOf_iff, LocalTime.day, dayNumber]
    omega
  · rw [LocalTime.year, ← not_le, Calendar.le_yearOf_iff, LocalTime.day, dayNumber]
    omega

-- ---------------------------------------------------------------------------
-- Names
-- ---------------------------------------------------------------------------

/-- What the configuration calls a sensor: the location in its first entry of
the mapping, or the serial number where it has none or an empty one. -/
def sensorName (config : Config K) (sensorId : CString) : CString :=
  let entry := (items config.sensorMapping).find? fun cfg =>
    textField "serial_number".toList cfg = some sensorId
  match entry.bind (textField "location".toList) with
  | none | some [] => sensorId
  | some location => location

def Searchable (config : Config K) (sensorId : CString) : Prop :=
  CompleteUpTo sensorId (items config.sensorMapping)

/-- The message comes from a sensor that is not in the list yet. -/
def Message.Introduces (config : Config K) (g : Globals K) (sensorId : CString) : Message K → Prop
  | .tower serialNumber _ =>
    serialNumber.bind CJson.valuestring = some sensorId ∧
      sensorId ∉ g.wd.towerList.map SensorData.sensorId ∧ Searchable config sensorId
  | _ => False

variable {host : Host K} {config : Config K}

omit [Field K] [LinearOrder K] [FloorRing K] in
theorem textField_eq {name : CString} {item tmp : CJson K} {text : CString}
    (hitem : getObjectItemCaseSensitive (some item) name = .ok (some tmp))
    (htext : tmp.valuestring = some text) : textField name item = some text := by
  cases tmp with
  | string s =>
    cases htext
    rw [textField, hitem]
  | _ => cases htext

omit [Field K] [LinearOrder K] [FloorRing K] in
theorem lookupLocation_eq {sensorId location : CString} {mapping : List (CJson K)}
    (h : lookupLocation sensorId mapping = .ok location) :
    ((mapping.find? fun cfg => textField "serial_number".toList cfg = some sensorId).bind
      (textField "location".toList)).getD [] = location := by
  induction mapping with
  | nil =>
    cases h
    rfl
  | cons cfg mapping ih =>
    simp only [lookupLocation, bind_ok, deref_ok] at h
    obtain ⟨_, hserial, tmp, rfl, serialNumber, hnumber, h⟩ := h
    have hfield := textField_eq hserial hnumber
    split at h
    · rename_i heq
      simp only [bind_ok, deref_ok] at h
      obtain ⟨_, hlocation, tmp, rfl, htext⟩ := h
      rw [List.find?_cons, decide_eq_true (heq ▸ hfield)]
      exact congrArg (Option.getD · []) (textField_eq hlocation htext)
    · rename_i hne
      have hother : textField "serial_number".toList cfg ≠ some sensorId := by
        rw [hfield]
        exact fun heq => hne (Option.some.inj heq).symm
      rw [List.find?_cons, decide_eq_false hother]
      exact ih h

omit [Field K] [LinearOrder K] [FloorRing K] in
theorem sensorName_eq {sensorId location : CString}
    (h : lookupLocation sensorId (items config.sensorMapping) = .ok location) :
    sensorName config sensorId = if location = [] then sensorId else location := by
  rw [← lookupLocation_eq h, sensorName]
  cases ((items config.sensorMapping).find? fun cfg =>
      textField "serial_number".toList cfg = some sensorId).bind (textField "location".toList) with
  | none => rfl
  | some text => cases text <;> rfl

-- ---------------------------------------------------------------------------
-- What fits
-- ---------------------------------------------------------------------------

theorem stampWrites_fit (hzone : host.NearUtc) {ob : CJson K} {w : Write}
    (hw : w ∈ stampWrites host ob) : w.Fits := by
  unfold stampWrites at hw
  split at hw
  · rename_i tmp _
    cases List.mem_singleton.mp hw
    obtain ⟨hlow, hhigh⟩ := hzone.year_bounds (Int.emod_nonneg tmp.valueint (by decide))
      (Int.emod_lt_of_pos tmp.valueint (by decide))
    have hlength : (timestampText (stampTime host tmp)).length = 19 :=
      length_timestampText hlow hhigh
    rw [Write.Fits, hlength]
    exact Nat.le_of_ble_eq_true rfl
  · cases hw

omit [FloorRing K] in
theorem compassWrites_fit {ob : CJson K} {w : Write} (hw : w ∈ compassWrites ob) : w.Fits := by
  unfold compassWrites at hw
  split at hw
  · rename_i direction _ _ _
    cases List.mem_singleton.mp hw
    have hlength := List.length_take_le 3 (degreesToCardinal direction.valuedouble)
    exact Nat.succ_le_succ hlength
  · cases hw

theorem fits_location {text : CString} :
    (⟨.location, text⟩ : Write).Fits ↔ text.length < 50 := Iff.rfl

omit [Field K] [LinearOrder K] [FloorRing K] in
theorem rowWrites_fit {row : CJson K → Globals K → Except Fault (Globals K)}
    {writes : CJson K → List Write} (hfit : ∀ ob, ∀ w ∈ writes ob, w.Fits)
    (rows : List (CJson K)) (g : Globals K) : ∀ w ∈ rowWrites row writes rows g, w.Fits := by
  induction rows generalizing g with
  | nil => nofun
  | cons ob rows ih =>
    intro w hw
    obtain hw | hw := List.mem_append.mp hw
    · exact hfit ob w hw
    · split at hw
      · exact ih _ w hw
      · cases hw

omit [Field K] [LinearOrder K] [FloorRing K] in
theorem locationWrites_fit_iff {sensorId : CString} :
    (∀ w ∈ locationWrites config sensorId, w.Fits) ↔
      (Searchable config sensorId → (sensorName config sensorId).length < 50) := by
  unfold locationWrites Searchable
  rw [← exists_lookupLocation_iff]
  cases h : lookupLocation sensorId (items config.sensorMapping) with
  | error fault => simp
  | ok location =>
    rw [sensorName_eq h]
    have hsearch : ∃ found, Except.ok location = (Except.ok found : Except Fault CString) :=
      ⟨location, rfl⟩
    rw [forall_prop_of_true hsearch, List.forall_mem_cons, fits_location]
    cases location with
    | nil => simp [fits_location]
    | cons c rest => simp

theorem Message.fits_iff_names_fit (hzone : host.NearUtc) (now : Int) (g : Globals K)
    (m : Message K) :
    (∀ w ∈ m.writes host config now g, w.Fits) ↔
      ∀ sensorId, m.Introduces config g sensorId → (sensorName config sensorId).length < 50 := by
  have hstamps : ∀ ob, ∀ w ∈ stampWrites host ob, w.Fits := fun _ _ => stampWrites_fit hzone
  cases m with
  | air serialNumber obs =>
    refine iff_of_true ?_ nofun
    simp only [Message.writes]
    split
    · exact List.forall_mem_nil _
    · exact rowWrites_fit hstamps _ _
  | sky serialNumber obs =>
    refine iff_of_true ?_ nofun
    simp only [Message.writes]
    split
    · exact List.forall_mem_nil _
    · exact rowWrites_fit (fun _ _ => compassWrites_fit) _ _
  | tower serialNumber obs =>
    simp only [Message.writes, Message.Introduces]
    cases hserial : serialNumber.bind CJson.valuestring with
    | none => simp
    | some sensorId =>
      simp only [List.forall_mem_append, sensorWrites, Option.some.injEq, forall_eq', and_imp]
      refine (and_iff_left ?_).trans ?_
      · split
        · exact rowWrites_fit hstamps _ _
        · exact List.forall_mem_nil _
      · by_cases hknown : sensorId ∈ g.wd.towerList.map SensorData.sensorId
        · rw [if_pos hknown]
          exact iff_of_true (List.forall_mem_nil _) fun hnew => absurd hknown hnew
        · rw [if_neg hknown, forall_prop_of_true hknown]
          exact locationWrites_fit_iff
  | _ => exact iff_of_true (List.forall_mem_nil _) nofun

-- ---------------------------------------------------------------------------
-- A whole datagram
-- ---------------------------------------------------------------------------

theorem writes_fit_iff (hzone : host.NearUtc) (config : Config K) (a : Arrival) (s : LoopState K) :
    (∀ w ∈ writes host config a s, w.Fits) ↔
      a.line.length < 1024 ∧ ∀ sensorId, (a.message K).Introduces config s.globals sensorId →
        (sensorName config sensorId).length < 50 := by
  have hline : (⟨.line, a.line⟩ : Write).Fits ↔ a.line.length < 1024 := Iff.rfl
  have hintroduces (sensorId : CString) : (a.message K).Introduces config
      (checkDay host a.time s).globals sensorId ↔
        (a.message K).Introduces config s.globals sensorId := by
    unfold Message.Introduces
    rw [checkDay_towerList]
  rw [writes, List.forall_mem_cons, hline, Message.fits_iff_names_fit hzone]
  simp only [hintroduces]

-- ---------------------------------------------------------------------------
-- What the record holds
-- ---------------------------------------------------------------------------

def WeatherData.buffers (wd : WeatherData K) : List Write :=
  wd.timestamp.toList.map (⟨.timestamp, ·⟩) ++ ⟨.windDir, wd.windDir⟩ ::
    wd.towerList.flatMap fun sensor =>
      ⟨.location, sensor.location⟩ :: sensor.timestamp.toList.map (⟨.timestamp, ·⟩)

omit [Field K] [LinearOrder K] [FloorRing K] in
theorem mem_buffers {wd : WeatherData K} {w : Write} : w ∈ wd.buffers ↔
    (∃ text ∈ wd.timestamp, w = ⟨.timestamp, text⟩) ∨ w = ⟨.windDir, wd.windDir⟩ ∨
      ∃ sensor ∈ wd.towerList, w = ⟨.location, sensor.location⟩ ∨
        ∃ text ∈ sensor.timestamp, w = ⟨.timestamp, text⟩ := by
  simp [WeatherData.buffers, eq_comm]

variable {now : Int}

theorem buffers_airRow {ob : CJson K} {g g' : Globals K}
    (h : airRow host config now (some ob) g = .ok g') :
    ∀ w ∈ g'.wd.buffers, w ∈ g.wd.buffers ∨ w ∈ stampWrites host ob := by
  obtain ⟨o, ho, rfl⟩ := (airRow_ok host config now).mp h
  intro w hw
  obtain ⟨text, htext, rfl⟩ | hrest := mem_buffers.mp hw
  · have hstamp : timestampText (localtime (host.zone o.stamp)) = text :=
      Option.mem_some.mp htext
    rw [← hstamp]
    right
    unfold AirObs.read at ho
    split at ho
    · rename_i hitems
      cases ho
      simp [stampWrites, getArrayItem_eq, hitems, stampTime]
    · cases ho
  · exact .inl (mem_buffers.mpr (.inr hrest))

theorem buffers_skyRow {ob : CJson K} {g g' : Globals K}
    (h : skyRow host now (some ob) g = .ok g') :
    ∀ w ∈ g'.wd.buffers, w ∈ g.wd.buffers ∨ w ∈ compassWrites ob := by
  obtain ⟨-, o, ho, rfl⟩ := (skyRow_ok host now).mp h
  obtain ⟨_, _, _, hwd⟩ := storeSky_wd host now g o
  intro w hw
  rw [hwd] at hw
  obtain hstamp | rfl | hsensor := mem_buffers.mp hw
  · exact .inl (mem_buffers.mpr (.inl hstamp))
  · right
    unfold SkyObs.read at ho
    split at ho
    · rename_i hitems
      cases ho
      simp [compassWrites, getArrayItem_eq, hitems, WeatherData.storeSky]
    · cases ho
  · exact .inl (mem_buffers.mpr (.inr (.inr hsensor)))

theorem buffers_towerRow {list : Nat} {ob : CJson K} {g g' : Globals K}
    (h : towerRow host list (some ob) g = .ok g') :
    ∀ w ∈ g'.wd.buffers, w ∈ g.wd.buffers ∨ w ∈ stampWrites host ob := by
  simp only [towerRow, bind_ok, deref_ok, pure_eq_ok, Except.ok.injEq] at h
  obtain ⟨tmp, htmp, temperature, -, humidity, -, rfl⟩ := h
  have hwrites : stampWrites host ob = [⟨.timestamp, timestampText (stampTime host tmp)⟩] := by
    rw [stampWrites, htmp]
  intro w hw
  obtain hstamp | hcompass | ⟨sensor, hsensor, hw⟩ := mem_buffers.mp hw
  · exact .inl (mem_buffers.mpr (.inl hstamp))
  · exact .inl (mem_buffers.mpr (.inr (.inl hcompass)))
  · obtain hold | ⟨old, hold, rfl⟩ := mem_modify hsensor
    · exact .inl (mem_buffers.mpr (.inr (.inr ⟨sensor, hold, hw⟩)))
    · obtain rfl | ⟨text, htext, rfl⟩ := hw
      · exact .inl (mem_buffers.mpr (.inr (.inr ⟨old, hold, .inl rfl⟩)))
      · have hstamp : timestampText (stampTime host tmp) = text := Option.mem_some.mp htext
        rw [hwrites, hstamp]
        exact .inr (List.mem_singleton_self _)

omit [Field K] [LinearOrder K] [FloorRing K] in
theorem buffers_rows {row : CJson K → Globals K → Except Fault (Globals K)}
    {writes : CJson K → List Write}
    (hrow : ∀ ob g g', row ob g = .ok g' →
      ∀ w ∈ g'.wd.buffers, w ∈ g.wd.buffers ∨ w ∈ writes ob)
    {rows : List (CJson K)} {g g' : Globals K}
    (h : rows.foldlM (fun g ob => row ob g) g = .ok g') :
    ∀ w ∈ g'.wd.buffers, w ∈ g.wd.buffers ∨ w ∈ rowWrites row writes rows g := by
  induction rows generalizing g with
  | nil =>
    cases h
    exact fun w hw => .inl hw
  | cons ob rows ih =>
    rw [List.foldlM_cons, bind_ok] at h
    obtain ⟨m, hm, h⟩ := h
    intro w hw
    rw [rowWrites, hm, List.mem_append]
    obtain hw | hw := ih h w hw
    · obtain hw | hw := hrow ob g m hm w hw
      · exact .inl hw
      · exact .inr (.inl hw)
    · exact .inr (.inr hw)

omit [LinearOrder K] [FloorRing K] in
theorem buffers_findSensor {sensorId : CString} {list : Nat} {g g' : Globals K}
    (h : findSensor config sensorId g = .ok (list, g')) :
    ∀ w ∈ g'.wd.buffers, w ∈ g.wd.buffers ∨ w ∈ sensorWrites config sensorId g := by
  obtain ⟨hlocated, rfl, -⟩ := (findSensor_ok config).mp h
  by_cases hknown : sensorId ∈ g.wd.towerList.map SensorData.sensorId
  · rw [Globals.storeSensor, if_pos hknown]
    exact fun w hw => .inl hw
  · obtain hmem | ⟨location, hlocation⟩ := hlocated
    · exact absurd hmem hknown
    rw [Globals.storeSensor, if_neg hknown, sensorWrites, if_neg hknown, locationWrites, hlocation]
    intro w hw
    obtain hstamp | hcompass | ⟨sensor, hsensor, hw⟩ := mem_buffers.mp hw
    · exact .inl (mem_buffers.mpr (.inl hstamp))
    · exact .inl (mem_buffers.mpr (.inr (.inl hcompass)))
    · obtain rfl | hold := List.mem_cons.mp hsensor
      · obtain rfl | ⟨_, hnone, -⟩ := hw
        · right
          unfold locationOf
          rw [hlocation]
          cases location <;> simp
        · cases hnone
      · exact .inl (mem_buffers.mpr (.inr (.inr ⟨sensor, hold, hw⟩)))

theorem Message.Stores.buffers {m : Message K} {ret : Nat} {g g' : Globals K}
    (h : m.Stores host config now g ret g') :
    ∀ w ∈ g'.wd.buffers, w ∈ g.wd.buffers ∨ w ∈ m.writes host config now g := by
  obtain ⟨hadmitted, -, os, hos, rfl⟩ := h
  cases m with
  | air serialNumber obs =>
    obtain ⟨rows, hrows, rfl⟩ := Option.map_eq_some_iff.mp hos
    have hprinted : ¬ (config.debug = true ∧ serialNumber = none) :=
      fun ⟨hdebug, hnone⟩ => absurd (hadmitted hdebug) (by simp [hnone])
    have hloop := (airRows_ok host config now (g := g)).mpr ⟨rows, hrows, rfl⟩
    rw [Message.writes, if_neg hprinted, List.foldl_map]
    exact buffers_rows (fun _ _ _ => buffers_airRow) hloop
  | sky serialNumber obs =>
    obtain ⟨rows, hrows, rfl⟩ := Option.map_eq_some_iff.mp hos
    have hprinted : ¬ (config.debug = true ∧ serialNumber = none) :=
      fun ⟨hdebug, hnone⟩ => absurd (hadmitted.1 hdebug) (by simp [hnone])
    have hloop := (skyRows_ok host now (g := g)).mpr ⟨hadmitted.2, rows, hrows, rfl⟩
    rw [Message.writes, if_neg hprinted, List.foldl_map]
    exact buffers_rows (fun _ _ _ => buffers_skyRow) hloop
  | wind ob =>
    obtain ⟨o, -, rfl⟩ := Option.map_eq_some_iff.mp hos
    obtain ⟨_, _, hwd⟩ := storeGust_wd g o.speed o.direction
    intro w hw
    simp only [List.foldl_cons, List.foldl_nil, Globals.store, hwd] at hw
    exact .inl hw
  | tower serialNumber obs =>
    simp only [Message.observations, Option.bind_eq_bind, Option.bind_eq_some_iff,
      Option.some.injEq] at hos
    obtain ⟨sensorId, ⟨item, hitem, hid⟩, rows, hrows, rfl⟩ := hos
    have hserial : serialNumber.bind CJson.valuestring = some sensorId :=
      Option.bind_eq_some_iff.mpr ⟨item, hitem, hid⟩
    have hfind := (findSensor_ok config (g := g)).mpr ⟨hadmitted sensorId hserial, rfl, rfl⟩
    have hlist : (g.storeSensor config sensorId).wd.towerList.findIdx
        (fun sensor => sensor.sensorId = sensorId) = _ := rfl
    have hloop := (towerRows_ok host config now hlist).mpr ⟨rows, hrows, rfl⟩
    rw [List.foldl_cons, List.foldl_map]
    intro w hw
    simp only [Message.writes, hserial, hfind, List.mem_append]
    obtain hw | hw := buffers_rows (fun _ _ _ => buffers_towerRow) hloop w hw
    · obtain hw | hw := buffers_findSensor hfind w hw
      · exact .inl hw
      · exact .inr (.inl hw)
    · exact .inr (.inr hw)
  | ignored =>
    cases hos
    exact fun w hw => .inl hw
  | unnamed => cases hos

theorem buffers_loopBody {a : Arrival} {s s' : LoopState K} {signal : Bool}
    (h : loopBody host config a s = .ok (s', signal)) :
    ∀ w ∈ s'.globals.wd.buffers, w ∈ s.globals.wd.buffers ∨ w ∈ writes host config a s := by
  simp only [loopBody, roundOn, LoopState.raise, bind_ok, Prod.exists, wfMessageParse_ok, pure_eq_ok,
    Except.ok.injEq] at h
  obtain ⟨ret, globals, hstores, h⟩ := h
  have hglobals : s'.globals = globals := by
    split at h <;> cases h <;> rfl
  have hcheck : (checkDay host a.time s).globals.wd.buffers = s.globals.wd.buffers := by
    unfold checkDay
    dsimp only
    split <;> rfl
  intro w hw
  rw [hglobals] at hw
  obtain hw | hw := hstores.buffers w hw
  · exact .inl (hcheck ▸ hw)
  · exact .inr (List.mem_cons_of_mem _ hw)

/-- As long as every datagram's writes fit, so does what the record holds. -/
theorem buffers_fit {t : LocalTime} {totals : RainTotals K} {rainfallJson : Option (CJson K)}
    {arrivals : List Arrival} {s : LoopState K}
    (h : loop host config (.initial t totals rainfallJson) arrivals = .ok s)
    (hfit : ∀ past a m, past ++ [a] <+: arrivals →
      loop host config (.initial t totals rainfallJson) past = .ok m →
      ∀ w ∈ writes host config a m, w.Fits) :
    ∀ w ∈ s.globals.wd.buffers, w.Fits := by
  induction arrivals using List.reverseRecOn generalizing s with
  | nil =>
    cases h
    intro w hw
    cases List.mem_singleton.mp hw
    exact Nat.le_of_ble_eq_true rfl
  | append_singleton past a ih =>
    obtain ⟨m, signal, hm, hbody⟩ := loop_concat.mp h
    intro w hw
    obtain hw | hw := buffers_loopBody hbody w hw
    · refine ih hm (fun past' b m' hp => ?_) w hw
      exact hfit past' b m' (hp.trans (List.prefix_append _ _))
    · exact hfit past a m List.prefix_rfl hm w hw

end

-- ---------------------------------------------------------------------------
-- At the limits
-- ---------------------------------------------------------------------------

def fullDatagram : Arrival :=
  ⟨0, List.replicate 1024 ' ', List.cons_ne_nil _ _, List.length_replicate.le⟩

def unmappedSensor (bytes : Nat) (h : bytes ≤ 100) : Arrival where
  time := 0
  line := "\x7b\"type\":\"obs_tower\",\"serial_number\":\"".toList ++
    List.replicate bytes 'T' ++ "\"\x7d".toList
  received := by
    refine ⟨nofun, ?_⟩
    simp only [List.length_append, List.length_replicate, String.length_toList]
    exact (Nat.add_le_add_right (Nat.add_le_add_left h _) _).trans (by decide)

theorem limits_overrun :
    (∃ w ∈ writes calmHost quietConfig fullDatagram (.initial (utc 0) .zero none), ¬ w.Fits) ∧
      ∃ w ∈ writes calmHost quietConfig (unmappedSensor 50 (by decide))
        (.initial (utc 0) .zero none), ¬ w.Fits := by
  constructor
  · have hlength : fullDatagram.line.length = 1024 := by
      simp only [fullDatagram, List.length_replicate]
    refine ⟨_, List.mem_cons_self, fun hfits => ?_⟩
    rw [Write.Fits, hlength] at hfits
    exact Nat.lt_irrefl 1024 hfits
  · decide +kernel

theorem nearUtc_calmHost : calmHost.NearUtc := by
  intro t h0 h
  have hmin : Calendar.yearStart intMin ≤ dayNumber t := by
    have hstart : Calendar.yearStart intMin = -784352296305 := by decide
    have h1970 : Calendar.yearStart 1970 = 719528 := by decide
    rw [hstart, dayNumber, h1970]
    omega
  have hmax : dayNumber t < Calendar.yearStart (intMax + 1) := by
    have hstart : Calendar.yearStart (intMax + 1) = 784352296305 := by decide
    have h1970 : Calendar.yearStart 1970 = 719528 := by decide
    rw [hstart, dayNumber, h1970]
    omega
  have hfits : intMin ≤ Calendar.yearOf (dayNumber t) ∧ Calendar.yearOf (dayNumber t) ≤ intMax := by
    refine ⟨(Calendar.le_yearOf_iff _ _).mpr hmin, Int.le_of_lt_add_one ?_⟩
    rw [← not_le, Calendar.le_yearOf_iff]
    exact not_le.mpr hmax
  have hsec : (calmHost.zone t).sec = t := congrArg LocalTime.sec (dif_pos hfits)
  rw [hsec, sub_self, abs_zero]
  decide

theorem longestName_fits :
    (sensorName quietConfig (List.replicate 49 'T')).length = 49 ∧
      ∀ w ∈ writes calmHost quietConfig (unmappedSensor 49 (by decide))
        (.initial (utc 0) .zero none), w.Fits := by
  refine ⟨by decide, (writes_fit_iff nearUtc_calmHost _ _ _).mpr ⟨?_, fun sensorId hnew => ?_⟩⟩
  · decide
  · have hmessage : (unmappedSensor 49 (by decide)).message ℚ =
        .tower (some (.string (List.replicate 49 'T'))) none := rfl
    rw [hmessage] at hnew
    obtain ⟨hid, -⟩ := hnew
    cases hid
    decide

end WfPublisher
