import Mathlib
import WfPublisher.Lib.Fallible
import WfPublisher.Dispatch
import WfPublisher.Services

/-!
# The configuration file

`read_config` copies what the file has of the station and of each service, and
sets up the functions of the service. A key that is not there is left out without
a word, but for the version and the names of the services.
-/

namespace WfPublisher

open Fallible

inductive StringFn
  | printf
  | strlen
  | atoi
  | fopen
  | gethostbyname
  | getaddrinfo
  | mosquittoConnect
  | mysqlRealConnect
  | mysqlSelectDb
  deriving DecidableEq

/-- What a null pointer can spoil: the call of an update function, by whose it is,
or of a function on a string. -/
inductive Use
  | update (funcs : Option Kind)
  | string (fn : StringFn) (arg : Option CString)
  deriving DecidableEq

/-- `funcs` is null if the name is not known. -/
structure ServiceEntry where
  service : Option CString
  funcs : Option Kind
  enabled : Int
  station : StationInfo
  cfg : CfgInfo
  deriving DecidableEq

/-- The globals, `sinfo` with the last entry of the file first, and what was passed
to string functions. -/
structure Configured where
  station : StationInfo
  sinfo : List ServiceEntry
  uses : List Use

-- ---------------------------------------------------------------------------
-- Services
-- ---------------------------------------------------------------------------

def kindNamed (service : CString) : Option Kind :=
  if service = "logfile".toList then some .logfile
  else if service = "WeatherUnderground".toList then some .weatherUnderground
  else if service = "WeatherBug".toList then some .weatherBug
  else if service = "PersonalWeatherStation".toList then some .personalWeatherStation
  else if service = "CWOP".toList then some .cwop
  else if service = "MQTT".toList then some .mqtt
  else if service = "mysql".toList then some .mysql
  else if service = "Display".toList then some .display
  else none

def serviceSetup (service : Option CString) : Except Fault (Option Kind) := do
  let service ← deref service
  return kindNamed service

def ServiceEntry.found (s : ServiceEntry) : List Use :=
  [.string .printf s.service, .string .printf s.cfg.host] ++
    if s.funcs = none then [.string .printf s.service] else []

-- ---------------------------------------------------------------------------
-- Reading
-- ---------------------------------------------------------------------------

section
variable {K : Type}

/-- `if ((type = cJSON_GetObjectItemCaseSensitive(object, key)))` a copy of its
string. -/
def strdupItem (object : Option (CJson K)) (key : String) :
    Except Fault (Option CString) := do
  match ← getObjectItemCaseSensitive object key.toList with
  | some type =>
    let valuestring ← deref type.valuestring
    return some valuestring
  | none => return none

variable [Field K] [LinearOrder K] [FloorRing K]

def valueintItem (object : Option (CJson K)) (key : String) : Except Fault Int := do
  match ← getObjectItemCaseSensitive object key.toList with
  | some type => return type.valueint
  | none => return 0

def readStation (cfgJson : Option (CJson K)) : Except Fault StationInfo := do
  let name ← strdupItem cfgJson "name"
  let location ← strdupItem cfgJson "location"
  let latitude ← strdupItem cfgJson "latitude"
  let longitude ← strdupItem cfgJson "longitude"
  let elevation ← valueintItem cfgJson "elevation"
  return ⟨name, location, latitude, longitude, elevation⟩

def readService (station : StationInfo) (cfg : Option (CJson K)) :
    Except Fault ServiceEntry := do
  let service ← strdupItem cfg "service"
  let host ← strdupItem cfg "host"
  let name ← strdupItem cfg "name"
  let pass ← strdupItem cfg "password"
  let extra ← strdupItem cfg "extra"
  let metric ← valueintItem cfg "metric"
  let enabled ← valueintItem cfg "enabled"
  let funcs ← serviceSetup service
  return ⟨service, funcs, enabled, station, ⟨host, name, pass, extra, metric⟩⟩

def Configured.push (s : Configured) (entry : ServiceEntry) : Configured :=
  { s with sinfo := entry :: s.sinfo, uses := s.uses ++ entry.found }

def readConfig (cfgJson : Option (CJson K)) : Except Fault Configured := do
  let version ← getObjectItemCaseSensitive cfgJson "version".toList
  let version ← deref version
  let station ← readStation cfgJson
  let services ← getObjectItemCaseSensitive cfgJson "services".toList
  forEachItem services (fun cfg s => s.push <$> readService s.station cfg)
    ⟨station, [], [.string .printf version.valuestring]⟩

end

-- ---------------------------------------------------------------------------
-- What is in the file
-- ---------------------------------------------------------------------------

section
variable {K : Type}

namespace CJson

def member (object : CJson K) (key : String) : Option (CJson K) :=
  match object with
  | .object members => field key.toList members
  | _ => none

def text (object : CJson K) (key : String) : Option CString := (object.member key).bind valuestring

structure HasTexts (object : CJson K) (keys : List String) : Prop where
  isObject : ∃ members, object = .object members
  texts : ∀ key ∈ keys, ∀ item, object.member key = some item → ∃ s, item = .string s

end CJson

def stationKeys : List String := ["version", "name", "location", "latitude", "longitude"]
def serviceKeys : List String := ["service", "host", "name", "password", "extra"]

/-- An object as `read_config` expects it, any key of which may be missing. -/
structure ConfigObject (config : CJson K) : Prop where
  station : config.HasTexts stationKeys
  services : ∀ entry ∈ items (config.member "services"), entry.HasTexts serviceKeys

variable [Field K] [LinearOrder K] [FloorRing K]

def CJson.int (object : CJson K) (key : String) : Int := (object.member key).elim 0 valueint

def stationOf (config : CJson K) : StationInfo where
  name := config.text "name"
  location := config.text "location"
  latitude := config.text "latitude"
  longitude := config.text "longitude"
  elevation := config.int "elevation"

def entryOf (station : StationInfo) (entry : CJson K) : ServiceEntry where
  service := entry.text "service"
  funcs := (entry.text "service").bind kindNamed
  enabled := entry.int "enabled"
  station := station
  cfg :=
    { host := entry.text "host"
      name := entry.text "name"
      pass := entry.text "password"
      extra := entry.text "extra"
      metric := entry.int "metric" }

def entriesOf (config : CJson K) : List ServiceEntry :=
  (items (config.member "services")).map (entryOf (stationOf config))

-- ---------------------------------------------------------------------------
-- Reading what is in the file
-- ---------------------------------------------------------------------------

variable {object config entry : CJson K} {keys : List String} {key : String}

omit [Field K] [LinearOrder K] [FloorRing K] in
theorem getObjectItem_member (h : object.HasTexts keys) (key : String) :
    getObjectItemCaseSensitive (some object) key.toList = .ok (object.member key) := by
  obtain ⟨members, rfl⟩ := h.isObject
  exact getObjectItem_object key.toList members

omit [Field K] [LinearOrder K] [FloorRing K] in
theorem hasTexts_object {members : List (CString × CJson K)}
    (h : ∀ key ∈ keys, ∀ item ∈ field key.toList members, item.valuestring.isSome) :
    (CJson.object members).HasTexts keys := by
  refine ⟨⟨members, rfl⟩, fun key hkey item hitem => ?_⟩
  obtain ⟨s, hs⟩ := Option.isSome_iff_exists.mp (h key hkey item hitem)
  cases item with
  | string valuestring => exact ⟨valuestring, rfl⟩
  | null | bool | number | array | object => cases hs

omit [Field K] [LinearOrder K] [FloorRing K] in
theorem strdupItem_ok (h : object.HasTexts keys) (hkey : key ∈ keys) :
    strdupItem (some object) key = .ok (object.text key) := by
  rw [strdupItem, getObjectItem_member h, ok_bind, CJson.text]
  cases hitem : object.member key with
  | none => rfl
  | some item =>
    obtain ⟨s, rfl⟩ := h.texts key hkey item hitem
    rfl

theorem valueintItem_ok (h : object.HasTexts keys) (key : String) :
    valueintItem (some object) key = .ok (object.int key) := by
  rw [valueintItem, getObjectItem_member h, ok_bind, CJson.int]
  cases object.member key <;> rfl

theorem readStation_ok (h : config.HasTexts stationKeys) :
    readStation (some config) = .ok (stationOf config) := by
  unfold readStation
  rw [strdupItem_ok h (by decide), strdupItem_ok h (by decide), strdupItem_ok h (by decide),
    strdupItem_ok h (by decide), valueintItem_ok h]
  rfl

theorem readService_ok (h : entry.HasTexts serviceKeys) (station : StationInfo) (s : ServiceEntry) :
    readService station (some entry) = .ok s ↔
      entry.text "service" ≠ none ∧ s = entryOf station entry := by
  simp (disch := decide) only [readService, strdupItem_ok h, valueintItem_ok h, ok_bind,
    serviceSetup, bind_ok, deref_ok, pure_eq_ok, Except.ok.injEq]
  constructor
  · rintro ⟨_, ⟨service, hservice, rfl⟩, rfl⟩
    exact ⟨hservice ▸ Option.some_ne_none service, by simp only [entryOf, hservice]; rfl⟩
  · rintro ⟨hservice, rfl⟩
    obtain ⟨service, hservice⟩ := Option.ne_none_iff_exists'.mp hservice
    exact ⟨_, ⟨service, hservice, rfl⟩, by simp only [entryOf, hservice]; rfl⟩

omit [Field K] [LinearOrder K] [FloorRing K] in
theorem foldl_push (read : CJson K → ServiceEntry) (list : List (CJson K)) (s : Configured) :
    list.foldl (fun s entry => s.push (read entry)) s =
      ⟨s.station, (list.map read).reverse ++ s.sinfo,
        s.uses ++ (list.map read).flatMap ServiceEntry.found⟩ := by
  induction list generalizing s with
  | nil => simp
  | cons entry list ih =>
    rw [List.foldl_cons, ih]
    simp [Configured.push]

theorem readServices_ok {list : List (CJson K)} (h : ∀ entry ∈ list, entry.HasTexts serviceKeys)
    {s t : Configured} :
    list.foldlM (fun s entry => s.push <$> readService s.station (some entry)) s = .ok t ↔
      (∀ entry ∈ list, entry.text "service" ≠ none) ∧
      t = ⟨s.station, (list.map (entryOf s.station)).reverse ++ s.sinfo,
        s.uses ++ (list.map (entryOf s.station)).flatMap ServiceEntry.found⟩ := by
  rw [← foldl_push]
  refine foldlM_guarded_ok (P := fun r : Configured => r.station = s.station)
    (fun r hr entry hentry t => ?_) (fun r entry hr => ?_) rfl
  · rw [map_eq_pure_bind, bind_ok, hr]
    simp only [readService_ok (h entry hentry), pure_eq_ok, Except.ok.injEq]
    constructor
    · rintro ⟨_, ⟨hservice, rfl⟩, rfl⟩
      exact ⟨hservice, rfl⟩
    · rintro ⟨hservice, rfl⟩
      exact ⟨_, ⟨hservice, rfl⟩, rfl⟩
  · exact hr

theorem readConfig_ok (h : ConfigObject config) {c : Configured} :
    readConfig (some config) = .ok c ↔
      config.text "version" ≠ none ∧
      (∀ entry ∈ items (config.member "services"), entry.text "service" ≠ none) ∧
      c = ⟨stationOf config, (entriesOf config).reverse,
        .string .printf (config.text "version") ::
          (entriesOf config).flatMap ServiceEntry.found⟩ := by
  have htext : config.text "version" = (config.member "version").bind CJson.valuestring := rfl
  have hversion : config.text "version" ≠ none ↔
      ∃ version, config.member "version" = some version := by
    rw [htext]
    cases hmember : config.member "version" with
    | none => simp
    | some version =>
      obtain ⟨_, rfl⟩ := h.station.texts "version" (by decide) version hmember
      simp [CJson.valuestring]
  simp only [readConfig, getObjectItem_member h.station, ok_bind, bind_ok, deref_ok,
    readStation_ok h.station, forEachItem_eq, readServices_ok h.services, hversion]
  constructor
  · rintro ⟨version, hmember, hservices, rfl⟩
    exact ⟨⟨version, hmember⟩, hservices, by simp [htext, hmember, entriesOf]⟩
  · rintro ⟨⟨version, hmember⟩, hservices, rfl⟩
    exact ⟨version, hmember, hservices, by simp [htext, hmember, entriesOf]⟩

end

end WfPublisher
