import WfPublisher.Dispatch

/-!
# Hostile datagrams

Any sender can reach the port. A text does no harm when, in whatever state it
arrives, the program comes back from it and, unless it is a complete message,
leaves the state alone.
-/

namespace WfPublisher

open Fallible Keyed

-- ---------------------------------------------------------------------------
-- The mapping
-- ---------------------------------------------------------------------------

section
variable {K : Type}

def textField (name : CString) (item : CJson K) : Option CString :=
  match getObjectItemCaseSensitive (some item) name with
  | .ok (some (.string text)) => some text
  | _ => none

/-- Every item up to the sensor's has its serial number, and that one its location. -/
def CompleteUpTo (sensorId : CString) : List (CJson K) → Prop
  | [] => True
  | cfg :: mapping => ∃ serialNumber, textField "serial_number".toList cfg = some serialNumber ∧
    if sensorId = serialNumber then (textField "location".toList cfg).isSome = true
    else CompleteUpTo sensorId mapping

theorem textField_ok {name text : CString} {item : CJson K} :
    (∃ tmp, getObjectItemCaseSensitive (some item) name = .ok tmp ∧
      ∃ member, tmp = some member ∧ member.valuestring = some text) ↔
      textField name item = some text := by
  unfold textField
  cases getObjectItemCaseSensitive (some item) name with
  | error => simp
  | ok tmp =>
    cases tmp with
    | none => simp
    | some member => cases member <;> simp [CJson.valuestring]

theorem textField_bind_ok {α : Type} {name : CString} {item : CJson K}
    {f : CString → Except Fault α} {a : α} :
    (getObjectItemCaseSensitive (some item) name >>= fun tmp => deref tmp >>= fun tmp =>
      deref tmp.valuestring >>= f) = .ok a ↔
      ∃ text, textField name item = some text ∧ f text = .ok a := by
  simp only [bind_ok, deref_ok, ← textField_ok]
  constructor
  · rintro ⟨tmp, htmp, member, hmember, text, htext, hf⟩
    exact ⟨text, ⟨tmp, htmp, member, hmember, htext⟩, hf⟩
  · rintro ⟨text, ⟨tmp, htmp, member, hmember, htext⟩, hf⟩
    exact ⟨tmp, htmp, member, hmember, text, htext, hf⟩

theorem lookupLocation_cons {sensorId location : CString} {cfg : CJson K}
    {mapping : List (CJson K)} : lookupLocation sensorId (cfg :: mapping) = .ok location ↔
      ∃ serialNumber, textField "serial_number".toList cfg = some serialNumber ∧
        if sensorId = serialNumber then textField "location".toList cfg = some location
        else lookupLocation sensorId mapping = .ok location := by
  rw [lookupLocation, textField_bind_ok]
  refine exists_congr fun serialNumber => and_congr_right fun _ => ?_
  by_cases heq : sensorId = serialNumber
  · rw [if_pos heq, if_pos heq]
    simp only [bind_ok, deref_ok]
    exact textField_ok
  · rw [if_neg heq, if_neg heq]

theorem exists_lookupLocation_iff {sensorId : CString} {mapping : List (CJson K)} :
    (∃ location, lookupLocation sensorId mapping = .ok location) ↔
      CompleteUpTo sensorId mapping := by
  induction mapping with
  | nil => exact iff_of_true ⟨[], rfl⟩ trivial
  | cons cfg mapping ih =>
    simp only [lookupLocation_cons, CompleteUpTo]
    rw [exists_comm]
    refine exists_congr fun serialNumber => ?_
    rw [exists_and_left]
    refine and_congr_right fun _ => ?_
    by_cases heq : sensorId = serialNumber
    · simp only [if_pos heq, Option.isSome_iff_exists]
    · simp only [if_neg heq, ih]

end

section
variable {K : Type} [Field K] [LinearOrder K] [FloorRing K]

-- ---------------------------------------------------------------------------
-- Complete messages
-- ---------------------------------------------------------------------------

def CompleteRow (positions : List Nat) (ob : Option (CJson K)) : Prop :=
  ∃ list, ob = some (.array list) ∧ ∀ i ∈ positions, ∃ d, list[i]? = some (.number d)

def CompleteRows (positions : List Nat) (obs : Option (CJson K)) : Prop :=
  ∃ rows, obs = some (.array rows) ∧ rows ≠ [] ∧ ∀ ob ∈ rows, CompleteRow positions (some ob)

namespace Message

/-- A message of a stored type with everything that is stored of it. -/
def Complete : Message K → Prop
  | .air _ obs => CompleteRows [0, 1, 2, 3, 4, 5] obs
  | .sky _ obs => CompleteRows [1, 2, 3, 5, 6, 7, 10] obs
  | .wind ob => CompleteRow [1, 2] ob
  | .tower serialNumber obs =>
    (∃ sensorId, serialNumber = some (.string sensorId)) ∧ CompleteRows [0, 2, 3] obs
  | .ignored | .unnamed => False

/-- The messages that do no harm: those of no stored type but arrays with
items, those without rows, and complete ones where what is done besides goes well. -/
def Tame (host : Host K) (config : Config K) (now : Int) : Message K → Prop
  | .air serialNumber obs => (config.debug = true → serialNumber.isSome = true) ∧
    (items obs = [] ∨ CompleteRows [0, 1, 2, 3, 4, 5] obs)
  | .sky serialNumber obs => (config.debug = true → serialNumber.isSome = true) ∧
    (items obs = [] ∨ CompleteRows [1, 2, 3, 5, 6, 7, 10] obs ∧ host.opens now = true)
  | .wind ob => CompleteRow [1, 2] ob
  | .tower serialNumber obs => CompleteRows [0, 2, 3] obs ∧
    ∃ sensorId, serialNumber = some (.string sensorId) ∧
      CompleteUpTo sensorId (items config.sensorMapping)
  | .ignored => True
  | .unnamed => False

end Message

-- ---------------------------------------------------------------------------
-- Rows long enough to be read
-- ---------------------------------------------------------------------------

omit [Field K] [LinearOrder K] [FloorRing K] in
theorem CompleteRow.lt_length {positions : List Nat} {ob : Option (CJson K)} {i : Nat}
    (h : CompleteRow positions ob) (hi : i ∈ positions) : i < (items ob).length := by
  obtain ⟨list, rfl, hlist⟩ := h
  obtain ⟨d, hd⟩ := hlist i hi
  obtain ⟨hlt, -⟩ := List.getElem?_eq_some_iff.mp hd
  simpa [items, CJson.child] using hlt

theorem AirObs.exists_read {ob : CJson K} (h : 5 < (items (some ob)).length) :
    ∃ o, AirObs.read ob = some o := by
  match hrow : items (some ob), h with
  | _ :: _ :: _ :: _ :: _ :: _ :: _, _ => exact ⟨_, by simp only [AirObs.read, hrow]; rfl⟩

theorem SkyObs.exists_read {ob : CJson K} (h : 10 < (items (some ob)).length) :
    ∃ o, SkyObs.read ob = some o := by
  match hrow : items (some ob), h with
  | _ :: _ :: _ :: _ :: _ :: _ :: _ :: _ :: _ :: _ :: _ :: _, _ =>
    exact ⟨_, by simp only [SkyObs.read, hrow]; rfl⟩

theorem WindObs.exists_read {ob : Option (CJson K)} (h : 2 < (items ob).length) :
    ∃ o, WindObs.read ob = some o := by
  match hrow : items ob, h with
  | _ :: _ :: _ :: _, _ => exact ⟨_, by simp only [WindObs.read, hrow]; rfl⟩

theorem TowerObs.exists_read {ob : CJson K} (h : 3 < (items (some ob)).length) :
    ∃ o, TowerObs.read ob = some o := by
  match hrow : items (some ob), h with
  | _ :: _ :: _ :: _ :: _, _ => exact ⟨_, by simp only [TowerObs.read, hrow]; rfl⟩

omit [Field K] [LinearOrder K] [FloorRing K] in
theorem CompleteRows.exists_mapM {ο : Type} {read : CJson K → Option ο} {positions : List Nat}
    {obs : Option (CJson K)} {i : Nat} (h : CompleteRows positions obs) (hi : i ∈ positions)
    (hread : ∀ ob, i < (items (some ob)).length → ∃ o, read ob = some o) :
    ∃ os, (items obs).mapM read = some os := by
  obtain ⟨rows, rfl, -, hrows⟩ := h
  refine Fallible.exists_mapM fun ob hob => hread ob ((hrows ob ?_).lt_length hi)
  simpa [items, CJson.child] using hob

-- ---------------------------------------------------------------------------
-- Messages that change some state
-- ---------------------------------------------------------------------------

variable (host : Host K) (config : Config K) (now : Int)

theorem Message.exists_changed {m : Message K} {os : List (Observation K)}
    (hos : m.observations = some os) (hne : os ≠ []) :
    ∃ g, os.foldl (Globals.store host config now) g ≠ g := by
  cases m with
  | air serialNumber obs =>
    obtain ⟨rows, -, rfl⟩ := Option.map_eq_some_iff.mp hos
    rcases List.eq_nil_or_concat' rows with rfl | ⟨rows, o, rfl⟩
    · exact absurd rfl hne
    · refine ⟨{ Globals.initial .zero none with wd.pressure := o.pressure + 1 }, fun h => ?_⟩
      have hp := congrArg (fun g : Globals K => g.wd.pressure) h
      simp [Globals.store, Globals.storeAir] at hp
  | sky serialNumber obs =>
    obtain ⟨rows, -, rfl⟩ := Option.map_eq_some_iff.mp hos
    rcases List.eq_nil_or_concat' rows with rfl | ⟨rows, o, rfl⟩
    · exact absurd rfl hne
    · refine ⟨{ Globals.initial .zero none with wd.illumination := o.illumination + 1 },
        fun h => ?_⟩
      have hi := congrArg (fun g : Globals K => g.wd.illumination) h
      rw [List.map_append, List.foldl_append] at hi
      obtain ⟨_, _, _, hwd⟩ := storeSky_wd host now ((rows.map Observation.sky).foldl
        (Globals.store host config now)
        { Globals.initial .zero none with wd.illumination := o.illumination + 1 }) o
      simp [Globals.store, hwd, WeatherData.storeSky] at hi
  | wind ob =>
    obtain ⟨o, -, rfl⟩ := Option.map_eq_some_iff.mp hos
    refine ⟨{ Globals.initial .zero none with interval := gustInterval }, fun h => ?_⟩
    have hi := congrArg Globals.interval h
    simp [Globals.store, Globals.storeGust, gustInterval] at hi
  | tower serialNumber obs =>
    simp only [Message.observations, Option.bind_eq_bind, Option.bind_eq_some_iff,
      Option.some.injEq] at hos
    obtain ⟨sensorId, -, rows, -, rfl⟩ := hos
    refine ⟨Globals.initial .zero none, fun h => ?_⟩
    have hids := congrArg (fun g : Globals K => g.wd.towerList.map SensorData.sensorId) h
    rw [List.foldl_cons, List.foldl_map] at hids
    replace hids := (sensorIds_storeTower host config now sensorId rows _).symm.trans hids
    simp [Globals.store, Globals.storeSensor, Globals.initial, WeatherData.initial] at hids
  | ignored =>
    cases hos
    exact absurd rfl hne
  | unnamed => cases hos

-- ---------------------------------------------------------------------------
-- Which texts do no harm
-- ---------------------------------------------------------------------------

/-- In every state the parser comes back from the text, and a text that is no
complete message leaves the state as it was. -/
def Harmless (msg : CString) : Prop :=
  ∀ g : Globals K, ∃ ret g', wfMessageParse host config now msg g = .ok (ret, g') ∧
    (¬ (message (K := K) msg).Complete → g' = g)

theorem Message.Tame.stores {m : Message K} (hm : m.Tame host config now) (g : Globals K) :
    m.Admitted host config now g ∧ ∃ os, m.observations = some os ∧ (¬ m.Complete → os = []) := by
  cases m with
  | air serialNumber obs =>
    obtain ⟨hserial, hrows⟩ := hm
    refine ⟨hserial, ?_⟩
    rcases hrows with hempty | hcomplete
    · exact ⟨[], by simp [Message.observations, hempty], fun _ => rfl⟩
    · obtain ⟨os, hos⟩ := hcomplete.exists_mapM (i := 5) (by simp) fun _ => AirObs.exists_read
      exact ⟨_, by rw [Message.observations, hos, Option.map_some], fun h => absurd hcomplete h⟩
  | sky serialNumber obs =>
    obtain ⟨hserial, hrows⟩ := hm
    rcases hrows with hempty | ⟨hcomplete, hopens⟩
    · exact ⟨⟨hserial, fun hne => absurd hempty hne⟩, [], by simp [Message.observations, hempty],
        fun _ => rfl⟩
    · obtain ⟨os, hos⟩ := hcomplete.exists_mapM (i := 10) (by simp) fun _ => SkyObs.exists_read
      exact ⟨⟨hserial, fun _ => hopens⟩, _, by rw [Message.observations, hos, Option.map_some],
        fun h => absurd hcomplete h⟩
  | wind ob =>
    obtain ⟨o, ho⟩ := WindObs.exists_read (hm.lt_length (i := 2) (by simp))
    exact ⟨trivial, [.wind o], by rw [Message.observations, ho, Option.map_some],
      fun h => absurd hm h⟩
  | tower serialNumber obs =>
    obtain ⟨hcomplete, sensorId, rfl, hmapping⟩ := hm
    obtain ⟨os, hos⟩ := hcomplete.exists_mapM (i := 3) (by simp) fun _ => TowerObs.exists_read
    refine ⟨fun id hid => .inr ?_, .sensor sensorId :: os.map (.tower sensorId), ?_,
      fun h => absurd ⟨⟨sensorId, rfl⟩, hcomplete⟩ h⟩
    · cases hid
      exact exists_lookupLocation_iff.mpr hmapping
    · simp [Message.observations, hos, CJson.valuestring]
  | ignored => exact ⟨trivial, [], rfl, fun _ => rfl⟩
  | unnamed => exact hm.elim

theorem Message.tame_of_complete {m : Message K} {os : List (Observation K)}
    (hadmitted : m.Admitted host config now (.initial .zero none))
    (hos : m.observations = some os) (hcomplete : os ≠ [] → m.Complete) :
    m.Tame host config now := by
  cases m with
  | air serialNumber obs =>
    obtain ⟨rows, hrows, rfl⟩ := Option.map_eq_some_iff.mp hos
    refine ⟨hadmitted, or_iff_not_imp_left.mpr fun hne => hcomplete fun hnil => ?_⟩
    exact mapM_ne_nil hrows hne (List.map_eq_nil_iff.mp hnil)
  | sky serialNumber obs =>
    obtain ⟨rows, hrows, rfl⟩ := Option.map_eq_some_iff.mp hos
    obtain ⟨hserial, hopens⟩ := hadmitted
    refine ⟨hserial, or_iff_not_imp_left.mpr fun hne => ⟨hcomplete fun hnil => ?_, hopens hne⟩⟩
    exact mapM_ne_nil hrows hne (List.map_eq_nil_iff.mp hnil)
  | wind ob =>
    obtain ⟨o, -, rfl⟩ := Option.map_eq_some_iff.mp hos
    exact hcomplete (List.cons_ne_nil _ _)
  | tower serialNumber obs =>
    simp only [Message.observations, Option.bind_eq_bind, Option.bind_eq_some_iff,
      Option.some.injEq] at hos
    obtain ⟨_, -, rows, -, rfl⟩ := hos
    obtain ⟨⟨sensorId, rfl⟩, hrows⟩ := hcomplete (List.cons_ne_nil _ _)
    rcases hadmitted sensorId rfl with hmem | ⟨location, hlocation⟩
    · cases hmem
    · exact ⟨hrows, sensorId, rfl, exists_lookupLocation_iff.mp ⟨location, hlocation⟩⟩
  | ignored => trivial
  | unnamed => cases hos

theorem harmless_iff (msg : CString) :
    Harmless host config now msg ↔ (message (K := K) msg).Tame host config now := by
  unfold Harmless
  simp only [wfMessageParse_ok]
  generalize message (K := K) msg = m
  constructor
  · intro h
    obtain ⟨_, _, ⟨hadmitted, _, os, hos, _⟩, _⟩ := h (.initial .zero none)
    have hcomplete (hne : os ≠ []) : m.Complete := by
      by_contra hincomplete
      obtain ⟨g, hg⟩ := m.exists_changed host config now hos hne
      obtain ⟨_, g', ⟨_, _, os', hos', rfl⟩, hsame⟩ := h g
      cases hos.symm.trans hos'
      exact hg (hsame hincomplete)
    exact Message.tame_of_complete host config now hadmitted hos hcomplete
  · intro hm g
    obtain ⟨hadmitted, os, hos, hincomplete⟩ := hm.stores host config now g
    refine ⟨_, _, ⟨hadmitted, rfl, os, hos, rfl⟩, fun h => ?_⟩
    rw [hincomplete h]
    rfl

end

def skyText : CString :=
  "\x7b\"type\":\"obs_sky\",\"obs\":[[0,900,1,0,0,2,3,180,3,1,7]]\x7d".toList

/-- The lookup of the type compares with the name of the array's item; and `fprintf`
is given what `fopen` returned. -/
theorem namelessItem_harmful : ¬ Harmless calmHost quietConfig 0 "[null]".toList ∧
    ¬ Harmless { calmHost with opens := fun _ => false } quietConfig 0 skyText := by
  constructor
  · intro h
    obtain ⟨ret, g, hok, -⟩ := h (.initial .zero none)
    have hfault : wfMessageParse calmHost quietConfig 0 "[null]".toList (.initial .zero none) =
        .error .nullDeref := rfl
    rw [hfault] at hok
    cases hok
  · intro h
    obtain ⟨ret, g, hok, -⟩ := h (.initial .zero none)
    have hfault : (wfMessageParse { calmHost with opens := fun _ => false } quietConfig 0 skyText
        (.initial .zero none)).isOk = false := by decide +kernel
    rw [hok] at hfault
    cases hfault

end WfPublisher
