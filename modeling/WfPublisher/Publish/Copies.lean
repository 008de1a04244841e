import Mathlib
import WfPublisher.Lib.Memory
import WfPublisher.Services

/-!
# Copies

The record and its sensors as the blocks they are in memory: `send_to` copies
them block by block, the update function converts its copy in place, and the
thread frees it. The copies share the texts of the sensors with the original.
-/

namespace WfPublisher

open Memory

/-- A block of memory. The pointers of a record and of a sensor stand beside its
values, whose own texts and list are not looked at. -/
inductive Block (K : Type)
  | text (s : CString)
  | sensor (values : SensorData K) (sensorId : Addr) (timestamp : Option Addr)
  | node (sensor : Addr) (next : Option Addr)
  | record (fields : WeatherData K) (timestamp towerList : Option Addr)

section
variable {K : Type}

-- ---------------------------------------------------------------------------
-- Copying
-- ---------------------------------------------------------------------------

/-- One round of the loop in `wdcopy`: a new node in front of the copies so far. -/
def copySensor (m : Malloc (Block K)) (cpy : Addr) (h : Heap (Block K)) (list : Addr) :
    Option (Heap (Block K) × Option Addr) := do
  let some (.node sensor next) := h.lookup list | none
  let some (.sensor values sensorId timestamp) := h.lookup sensor | none
  let (sensorCp, h) := m.alloc h (.sensor values sensorId timestamp)
  let some (.record fields stamp towerList) := h.lookup cpy | none
  let (listCp, h) := m.alloc h (.node sensorCp towerList)
  let h ← store h cpy (.record fields stamp (some listCp))
  return (h, next)

def copyTimestamp (m : Malloc (Block K)) (cpy : Addr) (fields : WeatherData K)
    (timestamp : Option Addr) (h : Heap (Block K)) : Option (Heap (Block K)) :=
  match timestamp with
  | none => some h
  | some stamp => do
    let some (.text s) := h.lookup stamp | none
    let (stampCp, h) := m.alloc h (.text s)
    store h cpy (.record fields (some stampCp) none)

def wdcopy (m : Malloc (Block K)) (h : Heap (Block K)) (wd : Addr) :
    Option (Addr × Heap (Block K)) := do
  let some (.record fields timestamp towerList) := h.lookup wd | none
  let (cpy, h) := m.alloc h (.record fields none none)
  let h ← copyTimestamp m cpy fields timestamp h
  let h ← whilePtr (copySensor m cpy) h.keys.length h towerList
  return (cpy, h)

-- ---------------------------------------------------------------------------
-- Freeing
-- ---------------------------------------------------------------------------

def freeSensor (wd : Addr) (h : Heap (Block K)) (list : Addr) :
    Option (Heap (Block K) × Option Addr) := do
  let some (.node sensor next) := h.lookup list | none
  let some (.record fields timestamp _) := h.lookup wd | none
  let h ← store h wd (.record fields timestamp next)
  let h ← free h sensor
  let h ← free h list
  return (h, next)

def freeTimestamp (timestamp : Option Addr) (h : Heap (Block K)) : Option (Heap (Block K)) :=
  match timestamp with
  | none => some h
  | some stamp => free h stamp

def wdfree (h : Heap (Block K)) (wd : Addr) : Option (Heap (Block K)) := do
  let some (.record _ timestamp towerList) := h.lookup wd | none
  let h ← freeTimestamp timestamp h
  let h ← whilePtr (freeSensor wd) h.keys.length h towerList
  free h wd

-- ---------------------------------------------------------------------------
-- Converting in place
-- ---------------------------------------------------------------------------

def convertSensor [Field K] (h : Heap (Block K)) (list : Addr) :
    Option (Heap (Block K) × Option Addr) := do
  let some (.node sensor next) := h.lookup list | none
  let some (.sensor values sensorId timestamp) := h.lookup sensor | none
  let h ← store h sensor (.sensor values.convert sensorId timestamp)
  return (h, next)

def unitConvertAt [Field K] [LinearOrder K] (skip : Nat) (h : Heap (Block K)) (wd : Addr) :
    Option (Heap (Block K)) := do
  let some (.record fields timestamp towerList) := h.lookup wd | none
  let h ← store h wd (.record (fields.convert skip) timestamp towerList)
  whilePtr convertSensor h.keys.length h towerList

-- ---------------------------------------------------------------------------
-- A record in memory
-- ---------------------------------------------------------------------------

structure Cell (K : Type) where
  node : Addr
  sensor : Addr
  values : SensorData K
  sensorId : Addr
  timestamp : Option Addr

def Tower (h : Heap (Block K)) : Option Addr → List (Cell K) → Prop
  | p, [] => p = none
  | p, c :: cells => p = some c.node ∧
    h.lookup c.sensor = some (.sensor c.values c.sensorId c.timestamp) ∧
    ∃ next, h.lookup c.node = some (.node c.sensor next) ∧ Tower h next cells

def footprint (cells : List (Cell K)) : List Addr := cells.flatMap fun c => [c.node, c.sensor]

def TextAt (h : Heap (Block K)) : Option Addr → Option CString → Prop
  | none, text => text = none
  | some a, text => ∃ s, text = some s ∧ h.lookup a = some (.text s)

def Cell.texts (c : Cell K) : List Addr := c.sensorId :: c.timestamp.toList

structure Cell.Shows (h : Heap (Block K)) (c : Cell K) (sensor : SensorData K) : Prop where
  sensorId : h.lookup c.sensorId = some (.text sensor.sensorId)
  timestamp : TextAt h c.timestamp sensor.timestamp
  values : sensor =
    { c.values with sensorId := sensor.sensorId, timestamp := sensor.timestamp }

/-- Where the parts of a record are. -/
structure Layout (K : Type) where
  record : Addr
  fields : WeatherData K
  timestamp : Option Addr
  towerList : Option Addr
  cells : List (Cell K)

namespace Layout

def owned (l : Layout K) : List Addr := l.record :: (l.timestamp.toList ++ footprint l.cells)

def borrowed (l : Layout K) : List Addr := l.cells.flatMap Cell.texts

/-- The memory has the record there. -/
structure Shows (l : Layout K) (h : Heap (Block K)) (wd : WeatherData K) : Prop where
  record : h.lookup l.record = some (.record l.fields l.timestamp l.towerList)
  timestamp : TextAt h l.timestamp wd.timestamp
  tower : Tower h l.towerList l.cells
  sensors : List.Forall₂ (Cell.Shows h) l.cells wd.towerList
  fields : wd = { l.fields with timestamp := wd.timestamp, towerList := wd.towerList }
  nodup : l.owned.Nodup

end Layout

variable {h h' : Heap (Block K)} {p : Option Addr} {a : Addr} {c : Cell K} {cells : List (Cell K)}
  {sensor : SensorData K} {l : Layout K} {wd : WeatherData K}

-- ---------------------------------------------------------------------------
-- The addresses of a record
-- ---------------------------------------------------------------------------

theorem footprint_cons : footprint (c :: cells) = c.node :: c.sensor :: footprint cells := rfl

theorem Tower.mem (ht : Tower h p cells) : ∀ a ∈ footprint cells, a ∈ h := by
  induction cells generalizing p with
  | nil => simp [footprint]
  | cons c cells ih =>
    obtain ⟨-, hsensor, next, hnode, hrest⟩ := ht
    simp only [footprint_cons, List.forall_mem_cons]
    exact ⟨mem_of_lookup hnode, mem_of_lookup hsensor, ih hrest⟩

theorem TextAt.mem {text : Option CString} (ht : TextAt h p text) : ∀ a ∈ p.toList, a ∈ h := by
  cases p with
  | none => simp
  | some stamp =>
    obtain ⟨s, -, hstamp⟩ := ht
    simpa using mem_of_lookup hstamp

theorem TextAt.text {text : Option CString} (ht : TextAt h p text) :
    ∀ a ∈ p.toList, ∃ s, h.lookup a = some (.text s) := by
  cases p with
  | none => simp
  | some stamp =>
    obtain ⟨s, -, hstamp⟩ := ht
    simpa using ⟨s, hstamp⟩

theorem Cell.Shows.text (hc : c.Shows h sensor) :
    ∀ a ∈ c.texts, ∃ s, h.lookup a = some (.text s) := by
  simp only [Cell.texts, List.forall_mem_cons]
  exact ⟨⟨_, hc.sensorId⟩, hc.timestamp.text⟩

namespace Layout

theorem mem_owned :
    a ∈ l.owned ↔ a = l.record ∨ a ∈ l.timestamp.toList ∨ a ∈ footprint l.cells := by
  simp [owned]

theorem Shows.owned_mem (hl : l.Shows h wd) (ha : a ∈ l.owned) : a ∈ h := by
  obtain rfl | hstamp | hcell := mem_owned.mp ha
  · exact mem_of_lookup hl.record
  · exact hl.timestamp.mem a hstamp
  · exact hl.tower.mem a hcell

theorem Shows.borrowed_text (hl : l.Shows h wd) (ha : a ∈ l.borrowed) :
    ∃ s, h.lookup a = some (.text s) := by
  obtain ⟨c, hc, hmem⟩ := List.mem_flatMap.mp ha
  obtain ⟨i, hi, rfl⟩ := List.mem_iff_getElem.mp hc
  exact (hl.sensors.get hi (hl.sensors.length_eq ▸ hi)).text a hmem

end Layout

-- ---------------------------------------------------------------------------
-- What a record's memory has in common with another
-- ---------------------------------------------------------------------------

theorem Tower.frame (ht : Tower h p cells)
    (hsame : ∀ a ∈ footprint cells, h'.lookup a = h.lookup a) : Tower h' p cells := by
  induction cells generalizing p with
  | nil => exact ht
  | cons c cells ih =>
    obtain ⟨rfl, hsensor, next, hnode, hrest⟩ := ht
    simp only [footprint_cons, List.forall_mem_cons] at hsame
    obtain ⟨hsame₁, hsame₂, hsame⟩ := hsame
    exact ⟨rfl, hsame₂.trans hsensor, next, hsame₁.trans hnode, ih hrest hsame⟩

theorem Tower.changes {owned : List Addr} (ht : Tower h p cells) (hch : Changes owned h h')
    (happart : ∀ a ∈ footprint cells, a ∉ owned) : Tower h' p cells :=
  ht.frame fun a ha => hch a (happart a ha)

theorem TextAt.frame {text : Option CString} (ht : TextAt h p text)
    (hsame : ∀ a ∈ p.toList, h'.lookup a = h.lookup a) : TextAt h' p text := by
  cases p with
  | none => exact ht
  | some stamp =>
    obtain ⟨s, rfl, hstamp⟩ := ht
    exact ⟨s, rfl, (hsame stamp (by simp)).trans hstamp⟩

theorem Cell.Shows.frame (hc : c.Shows h sensor)
    (hsame : ∀ a ∈ c.texts, h'.lookup a = h.lookup a) : c.Shows h' sensor := by
  simp only [Cell.texts, List.forall_mem_cons] at hsame
  exact ⟨hsame.1.trans hc.sensorId, hc.timestamp.frame hsame.2, hc.values⟩

theorem Layout.Shows.frame (hl : l.Shows h wd) (howned : ∀ a ∈ l.owned, h'.lookup a = h.lookup a)
    (hborrowed : ∀ a ∈ l.borrowed, h'.lookup a = h.lookup a) : l.Shows h' wd where
  record := (howned _ (Layout.mem_owned.mpr (.inl rfl))).trans hl.record
  timestamp := hl.timestamp.frame fun a ha => howned a (Layout.mem_owned.mpr (.inr (.inl ha)))
  tower := hl.tower.frame fun a ha => howned a (Layout.mem_owned.mpr (.inr (.inr ha)))
  sensors := ((List.forall₂_and_left _ _).mpr ⟨fun _ hc => hc, hl.sensors⟩).imp
    fun c _ ⟨hc, hshows⟩ =>
      hshows.frame fun a ha => hborrowed a (List.mem_flatMap.mpr ⟨c, hc, ha⟩)
  fields := hl.fields
  nodup := hl.nodup

def KeepsTexts (h h' : Heap (Block K)) : Prop :=
  ∀ a s, h.lookup a = some (.text s) → h'.lookup a = some (.text s)

theorem KeepsTexts.textAt {text : Option CString} (hkeep : KeepsTexts h h')
    (ht : TextAt h p text) : TextAt h' p text := by
  cases p with
  | none => exact ht
  | some stamp =>
    obtain ⟨s, rfl, hstamp⟩ := ht
    exact ⟨s, rfl, hkeep stamp s hstamp⟩

theorem KeepsTexts.cellShows (hkeep : KeepsTexts h h') (hc : c.Shows h sensor) :
    c.Shows h' sensor :=
  ⟨hkeep _ _ hc.sensorId, hkeep.textAt hc.timestamp, hc.values⟩

-- ---------------------------------------------------------------------------
-- What the copy is
-- ---------------------------------------------------------------------------

namespace Layout

/-- A record of its own: apart from `base`, but for texts that are shared. -/
structure CopyIn (l : Layout K) (base : Heap (Block K)) (texts : List Addr) (h : Heap (Block K))
    (wd : WeatherData K) : Prop where
  shows : l.Shows h wd
  fresh : ∀ a ∈ l.owned, a ∉ base
  borrowed : l.borrowed ⊆ texts

def prepend (l : Layout K) (c : Cell K) : Layout K :=
  { l with towerList := some c.node, cells := c :: l.cells }

theorem owned_prepend : (l.prepend c).owned.Perm (c.node :: c.sensor :: l.owned) := by
  have hshift : (l.timestamp.toList ++ ([c.node, c.sensor] ++ footprint l.cells)).Perm
      ([c.node, c.sensor] ++ (l.timestamp.toList ++ footprint l.cells)) :=
    List.perm_append_comm_assoc ..
  exact (hshift.cons l.record).trans
    ((List.Perm.swap ..).trans ((List.Perm.swap ..).cons c.node))

theorem Shows.prepend (hl : l.Shows h wd)
    (hrecord : h'.lookup l.record = some (.record l.fields l.timestamp (some c.node)))
    (hnode : h'.lookup c.node = some (.node c.sensor l.towerList))
    (hsensor : h'.lookup c.sensor = some (.sensor c.values c.sensorId c.timestamp))
    (hc : c.Shows h' sensor) (hold : ∀ a ∈ h, a ≠ l.record → h'.lookup a = h.lookup a)
    (hfreshNode : c.node ∉ h) (hfreshSensor : c.sensor ∉ h) (hne : c.node ≠ c.sensor) :
    (l.prepend c).Shows h' { wd with towerList := sensor :: wd.towerList } := by
  obtain ⟨hnotmem, -⟩ := List.nodup_cons.mp hl.nodup
  have hkeep : KeepsTexts h h' := by
    intro a s hs
    refine (hold a (mem_of_lookup hs) ?_).trans hs
    rintro rfl
    cases hs.symm.trans hl.record
  have htower : Tower h' l.towerList l.cells := by
    refine hl.tower.frame fun a ha => hold a (hl.tower.mem a ha) ?_
    rintro rfl
    exact hnotmem (List.mem_append_right _ ha)
  have hnodup : (l.prepend c).owned.Nodup := by
    refine owned_prepend.nodup_iff.mpr ?_
    simp only [List.nodup_cons, List.mem_cons, not_or]
    exact ⟨⟨hne, fun hmem => hfreshNode (hl.owned_mem hmem)⟩,
      fun hmem => hfreshSensor (hl.owned_mem hmem), hl.nodup⟩
  refine ⟨hrecord, hkeep.textAt hl.timestamp, ⟨rfl, hsensor, _, hnode, htower⟩, ?_, ?_, hnodup⟩
  · exact .cons hc (hl.sensors.imp fun _ _ hd => hkeep.cellShows hd)
  · exact hl.fields ▸ rfl

end Layout

variable {base : Heap (Block K)} {texts : List Addr} {next : Option Addr}

theorem copySensor_writes (m : Malloc (Block K)) {w : Addr} {fields : WeatherData K}
    {timestamp head : Option Addr} (hw : h.lookup w = some (.record fields timestamp head))
    (hnode : h.lookup c.node = some (.node c.sensor next))
    (hsensor : h.lookup c.sensor = some (.sensor c.values c.sensorId c.timestamp)) :
    ∃ (n s : Addr) (h' : Heap (Block K)), copySensor m w h c.node = some (h', next) ∧
      n ∉ h ∧ s ∉ h ∧ n ≠ s ∧
      h'.lookup w = some (.record fields timestamp (some n)) ∧
      h'.lookup n = some (.node s head) ∧
      h'.lookup s = some (.sensor c.values c.sensorId c.timestamp) ∧
      ∀ a ∈ h, a ≠ w → h'.lookup a = h.lookup a := by
  set s := m.pick h with hs
  set h₁ := h.insert s (.sensor c.values c.sensorId c.timestamp) with hh₁
  set n := m.pick h₁ with hn
  set h₂ := h₁.insert n (.node s head) with hh₂
  have hsfresh : s ∉ h := m.fresh h
  have hnfresh : n ∉ h₁ := m.fresh h₁
  have hext₁ : Extends h h₁ := extends_insert hsfresh
  have hext₂ : Extends h h₂ := hext₁.trans (extends_insert hnfresh)
  have hin : w ∈ h := mem_of_lookup hw
  have hns : n ≠ s := fun heq => hnfresh (heq ▸ (AList.mem_insert _).mpr (.inl rfl))
  have hnw : n ≠ w := fun heq => hnfresh (heq ▸ hext₁.mem hin)
  have hsw : s ≠ w := fun heq => hsfresh (heq ▸ hin)
  refine ⟨n, s, h₂.insert w (.record fields timestamp (some n)), ?_,
    fun hmem => hnfresh (hext₁.mem hmem), hsfresh, hns, AList.lookup_insert _, ?_, ?_,
    fun a ha hne => (AList.lookup_insert_ne hne).trans (hext₂ a ha)⟩
  · simp only [copySensor, hnode, hsensor, Malloc.alloc, ← hs, ← hh₁, hext₁.lookup hw, ← hn,
      ← hh₂, store_of_lookup (hext₂.lookup hw)]
    rfl
  · rw [AList.lookup_insert_ne hnw, AList.lookup_insert]
  · rw [AList.lookup_insert_ne hsw, AList.lookup_insert_ne hns.symm, AList.lookup_insert]

theorem copySensor_copyIn (m : Malloc (Block K)) (hl : l.CopyIn base texts h wd)
    (hext : Extends base h) (hnode : base.lookup c.node = some (.node c.sensor next))
    (hsensor : base.lookup c.sensor = some (.sensor c.values c.sensorId c.timestamp))
    (hc : c.Shows base sensor) (htexts : c.texts ⊆ texts) :
    ∃ (l' : Layout K) (h' : Heap (Block K)), copySensor m l.record h c.node = some (h', next) ∧
      l'.record = l.record ∧ Extends base h' ∧
      l'.CopyIn base texts h' { wd with towerList := sensor :: wd.towerList } := by
  have hrecord : l.record ∉ base := hl.fresh _ (Layout.mem_owned.mpr (.inl rfl))
  obtain ⟨n, s, h', hround, hn, hs, hne, hrecord', hnode', hsensor', hold⟩ :=
    copySensor_writes m hl.shows.record (hext.lookup hnode) (hext.lookup hsensor)
  have hext' : Extends base h' := by
    intro a ha
    refine (hold a (hext.mem ha) ?_).trans (hext a ha)
    rintro rfl
    exact hrecord ha
  have hcopy : Cell.Shows h' ⟨n, s, c.values, c.sensorId, c.timestamp⟩ sensor := by
    have hc' : c.Shows h' sensor := KeepsTexts.cellShows (fun _ _ ht => hext'.lookup ht) hc
    exact ⟨hc'.sensorId, hc'.timestamp, hc'.values⟩
  refine ⟨l.prepend ⟨n, s, c.values, c.sensorId, c.timestamp⟩, h', hround, rfl, hext', ?_, ?_, ?_⟩
  · exact hl.shows.prepend hrecord' hnode' hsensor' hcopy hold hn hs hne
  · intro a ha
    obtain rfl | rfl | ha : a = n ∨ a = s ∨ a ∈ l.owned := by
      simpa using Layout.owned_prepend.mem_iff.mp ha
    · exact fun hmem => hn (hext.mem hmem)
    · exact fun hmem => hs (hext.mem hmem)
    · exact hl.fresh a ha
  · exact List.append_subset.mpr ⟨htexts, hl.borrowed⟩

theorem copySensors_copyIn (m : Malloc (Block K)) {sensors : List (SensorData K)} {fuel : Nat}
    (hl : l.CopyIn base texts h wd) (hext : Extends base h) (htower : Tower base p cells)
    (hsensors : List.Forall₂ (Cell.Shows base) cells sensors)
    (htexts : ∀ c ∈ cells, c.texts ⊆ texts) (hfuel : cells.length ≤ fuel) :
    ∃ (l' : Layout K) (h' : Heap (Block K)), whilePtr (copySensor m l.record) fuel h p = some h' ∧
      l'.record = l.record ∧ Extends base h' ∧
      l'.CopyIn base texts h' { wd with towerList := sensors.reverse ++ wd.towerList } := by
  induction hsensors generalizing l h p wd fuel with
  | nil =>
    cases htower
    exact ⟨l, h, whilePtr_none fuel, rfl, hext, hl⟩
  | @cons c sensor cells sensors hc hrest ih =>
    obtain ⟨rfl, hsensor, next, hnode, htower⟩ := htower
    simp only [List.forall_mem_cons] at htexts
    obtain ⟨l₁, h₁, hround, hrecord, hext₁, hl₁⟩ :=
      copySensor_copyIn m hl hext hnode hsensor hc htexts.1
    cases fuel with
    | zero => cases hfuel
    | succ fuel =>
      obtain ⟨l', h', hloop, hrecord', hext', hl'⟩ :=
        ih hl₁ hext₁ htower htexts.2 (Nat.le_of_succ_le_succ hfuel)
      refine ⟨l', h', ?_, hrecord'.trans hrecord, hext', ?_⟩
      · rw [whilePtr_some hround, ← hrecord, hloop]
      · simpa using hl'

theorem Tower.length_le (ht : Tower h p cells) (hnodup : (footprint cells).Nodup) :
    cells.length ≤ h.keys.length := by
  have hnodes : (cells.map Cell.node).Sublist (footprint cells) := by
    clear ht hnodup
    induction cells with
    | nil => exact .slnil
    | cons c cells ih => exact (ih.cons c.sensor).cons_cons c.node
  rw [← List.length_map Cell.node]
  exact length_le_keys (hnodup.sublist hnodes) fun a ha => ht.mem a (hnodes.subset ha)

theorem copyTimestamp_copyIn (m : Malloc (Block K)) (fields : WeatherData K) {cpy : Addr}
    {timestamp : Option Addr} {text : Option CString} (htext : TextAt base timestamp text)
    (hcpy : cpy ∉ base) :
    ∃ (l : Layout K) (h' : Heap (Block K)),
      copyTimestamp m cpy fields timestamp (base.insert cpy (.record fields none none)) = some h' ∧
      l.record = cpy ∧ Extends base h' ∧
      l.CopyIn base texts h' { fields with timestamp := text, towerList := [] } := by
  set h := base.insert cpy (.record fields none none) with hh
  have hrecord : h.lookup cpy = some (.record fields none none) := AList.lookup_insert _
  have hext : Extends base h := extends_insert hcpy
  cases timestamp with
  | none =>
    cases htext
    refine ⟨⟨cpy, fields, none, none, []⟩, h, rfl, rfl, hext, ?_, ?_, List.nil_subset _⟩
    · exact ⟨hrecord, rfl, rfl, .nil, rfl, List.nodup_singleton _⟩
    · simpa [Layout.mem_owned, footprint] using hcpy
  | some stamp =>
    obtain ⟨s, rfl, hstamp⟩ := htext
    set t := m.pick h with ht
    set h₁ := h.insert t (.text s) with hh₁
    have htfresh : t ∉ h := m.fresh h
    have hext₁ : Extends h h₁ := extends_insert htfresh
    have hne : t ≠ cpy := fun heq => htfresh (heq ▸ mem_of_lookup hrecord)
    have hbase : Extends base (h₁.insert cpy (.record fields (some t) none)) := by
      intro a ha
      refine (AList.lookup_insert_ne ?_).trans ((hext.trans hext₁) a ha)
      rintro rfl
      exact hcpy ha
    refine ⟨⟨cpy, fields, some t, none, []⟩, _, ?_, rfl, hbase, ?_, ?_, List.nil_subset _⟩
    · simp only [copyTimestamp, hext.lookup hstamp, Malloc.alloc, ← ht, ← hh₁,
        store_of_lookup (hext₁.lookup hrecord)]
    · refine ⟨AList.lookup_insert _, ⟨s, rfl, ?_⟩, rfl, .nil, rfl, ?_⟩
      · rw [AList.lookup_insert_ne hne, AList.lookup_insert]
      · simpa [Layout.owned, footprint] using Ne.symm hne
    · simpa [Layout.mem_owned, footprint] using
        ⟨hcpy, fun hmem => htfresh (hext.mem hmem)⟩

/-- What is in a copy. -/
def WeatherData.reversed (wd : WeatherData K) : WeatherData K :=
  { wd with towerList := wd.towerList.reverse }

/-- `wdcopy` leaves every block there is alone, and returns the record with its
sensors the other way round. -/
theorem wdcopy_copyIn (m : Malloc (Block K)) (hl : l.Shows h wd) :
    ∃ (l' : Layout K) (h' : Heap (Block K)), wdcopy m h l.record = some (l'.record, h') ∧
      Extends h h' ∧ l'.CopyIn h l.borrowed h' wd.reversed := by
  have hcpy : m.pick h ∉ h := m.fresh h
  obtain ⟨l₁, h₁, hstamp, hrecord₁, hext₁, hl₁⟩ :=
    copyTimestamp_copyIn m l.fields hl.timestamp hcpy
  have hnodup : (footprint l.cells).Nodup :=
    ((List.nodup_append.mp (List.nodup_cons.mp hl.nodup).2).2).1
  have htower₁ : Tower h₁ l.towerList l.cells :=
    hl.tower.frame fun a ha => hext₁ a (hl.tower.mem a ha)
  have htexts : ∀ c ∈ l.cells, c.texts ⊆ l.borrowed :=
    fun c hc a ha => List.mem_flatMap.mpr ⟨c, hc, ha⟩
  obtain ⟨l', h', hloop, hrecord', hext', hl'⟩ :=
    copySensors_copyIn m hl₁ hext₁ hl.tower hl.sensors htexts (htower₁.length_le hnodup)
  refine ⟨l', h', ?_, hext', ?_⟩
  · rw [hrecord₁] at hloop
    simp only [wdcopy, hl.record, Malloc.alloc, hstamp, Option.bind_eq_bind, Option.bind_some,
      hloop, hrecord'.trans hrecord₁]
    rfl
  · rw [hl.fields, WeatherData.reversed]
    simpa only [List.append_nil] using hl'

-- ---------------------------------------------------------------------------
-- What is left of a freed record
-- ---------------------------------------------------------------------------

section
variable {w : Addr} {head : Option Addr} {fields : WeatherData K} {timestamp : Option Addr}

theorem freeSensor_notMem (hw : h.lookup w = some (.record fields timestamp head))
    (hnode : h.lookup c.node = some (.node c.sensor next))
    (hsensor : h.lookup c.sensor = some (.sensor c.values c.sensorId c.timestamp))
    (hwn : w ≠ c.node) (hws : w ≠ c.sensor) (hns : c.node ≠ c.sensor) :
    ∃ h', freeSensor w h c.node = some (h', next) ∧
      h'.lookup w = some (.record fields timestamp next) ∧ c.node ∉ h' ∧ c.sensor ∉ h' ∧
      Changes [w, c.sensor, c.node] h h' := by
  set h₁ := h.insert w (.record fields timestamp next) with hh₁
  have hs : c.sensor ∈ h₁ := (AList.mem_insert _).mpr (.inr (mem_of_lookup hsensor))
  have hn : c.node ∈ h₁.erase c.sensor :=
    AList.mem_erase.mpr ⟨hns, (AList.mem_insert _).mpr (.inr (mem_of_lookup hnode))⟩
  refine ⟨(h₁.erase c.sensor).erase c.node, ?_, ?_, ?_, ?_, ?_⟩
  · simp only [freeSensor, hnode, hw, store_of_lookup hw, free_of_mem hs, free_of_mem hn,
      Option.bind_eq_bind, Option.bind_some, ← hh₁]
    rfl
  · rw [AList.lookup_erase_ne hwn, AList.lookup_erase_ne hws, AList.lookup_insert]
  · exact fun hmem => (AList.mem_erase.mp hmem).1 rfl
  · exact fun hmem => (AList.mem_erase.mp (AList.mem_erase.mp hmem).2).1 rfl
  · exact ((changes_insert.mono (by simp)).trans (changes_erase.mono (by simp))).trans
      (changes_erase.mono (by simp))

theorem freeSensors_notMem {fuel : Nat} (hw : h.lookup w = some (.record fields timestamp head))
    (htower : Tower h p cells) (hnodup : (w :: footprint cells).Nodup)
    (hfuel : cells.length ≤ fuel) :
    ∃ h', whilePtr (freeSensor w) fuel h p = some h' ∧ w ∈ h' ∧
      (∀ a ∈ footprint cells, a ∉ h') ∧ Changes (w :: footprint cells) h h' := by
  induction cells generalizing h p head fuel with
  | nil =>
    cases htower
    exact ⟨h, whilePtr_none fuel, mem_of_lookup hw, by simp [footprint], .refl _ _⟩
  | cons c cells ih =>
    obtain ⟨rfl, hsensor, next, hnode, htower⟩ := htower
    simp only [footprint_cons, List.nodup_cons, List.mem_cons, not_or] at hnodup
    obtain ⟨⟨hwn, hws, hwcells⟩, ⟨hns, hncells⟩, hscells, hcells⟩ := hnodup
    obtain ⟨h₁, hround, hw₁, hn₁, hs₁, hch₁⟩ := freeSensor_notMem hw hnode hsensor hwn hws hns
    have htower₁ : Tower h₁ next cells := by
      refine htower.changes hch₁ fun a ha hmem => ?_
      simp only [List.mem_cons, List.not_mem_nil, or_false] at hmem
      obtain rfl | rfl | rfl := hmem
      · exact hwcells ha
      · exact hscells ha
      · exact hncells ha
    cases fuel with
    | zero => cases hfuel
    | succ fuel =>
      obtain ⟨h', hloop, hw', hfreed, hch'⟩ := ih hw₁ htower₁
        (List.nodup_cons.mpr ⟨hwcells, hcells⟩) (Nat.le_of_succ_le_succ hfuel)
      refine ⟨h', (whilePtr_some hround).trans hloop, hw', ?_, ?_⟩
      · simp only [footprint_cons, List.forall_mem_cons]
        exact ⟨hch'.notMem (by simp [Ne.symm hwn, hncells]) hn₁,
          hch'.notMem (by simp [Ne.symm hws, hscells]) hs₁, hfreed⟩
      · exact (hch₁.mono (by simp [footprint_cons])).trans
          (hch'.mono (List.cons_subset_cons _ fun a ha =>
            List.mem_cons_of_mem _ (List.mem_cons_of_mem _ ha)))

theorem freeTimestamp_notMem {text : Option CString} (ht : TextAt h timestamp text) :
    ∃ h', freeTimestamp timestamp h = some h' ∧ (∀ a ∈ timestamp.toList, a ∉ h') ∧
      Changes timestamp.toList h h' := by
  cases timestamp with
  | none => exact ⟨h, rfl, by simp, .refl _ _⟩
  | some stamp =>
    have hmem : stamp ∈ h := ht.mem stamp (by simp)
    exact ⟨h.erase stamp, free_of_mem hmem, by simp [AList.mem_erase], changes_erase⟩

end

theorem wdfree_notMem (hl : l.Shows h wd) :
    ∃ h', wdfree h l.record = some h' ∧ (∀ a ∈ l.owned, a ∉ h') ∧ Changes l.owned h h' := by
  obtain ⟨hrecord, hnodup⟩ := List.nodup_cons.mp hl.nodup
  obtain ⟨-, hcells, happart⟩ := List.nodup_append.mp hnodup
  have hstampsub : l.timestamp.toList ⊆ l.owned := fun a ha => Layout.mem_owned.mpr (.inr (.inl ha))
  have hsub : l.record :: footprint l.cells ⊆ l.owned :=
    List.cons_subset_cons _ (List.subset_append_right ..)
  have hrecsub : [l.record] ⊆ l.owned := by simp [Layout.mem_owned]
  obtain ⟨h₁, hstamp, hgone, hch₁⟩ := freeTimestamp_notMem hl.timestamp
  have hrecord₁ : h₁.lookup l.record = some (.record l.fields l.timestamp l.towerList) :=
    hch₁.lookup (fun hmem => hrecord (List.mem_append_left _ hmem)) hl.record
  have htower₁ : Tower h₁ l.towerList l.cells :=
    hl.tower.changes hch₁ fun a ha hmem => happart a hmem a ha rfl
  obtain ⟨h₂, hloop, hmem₂, hfreed, hch₂⟩ := freeSensors_notMem hrecord₁ htower₁
    (List.nodup_cons.mpr ⟨fun hmem => hrecord (List.mem_append_right _ hmem), hcells⟩)
    (htower₁.length_le hcells)
  refine ⟨h₂.erase l.record, ?_, ?_, ?_⟩
  · simp only [wdfree, hl.record, hstamp, Option.bind_eq_bind, Option.bind_some, hloop,
      free_of_mem hmem₂]
  · intro a ha
    rw [AList.mem_erase, not_and]
    intro hne
    obtain rfl | hstampmem | hcell := Layout.mem_owned.mp ha
    · exact absurd rfl hne
    · refine hch₂.notMem ?_ (hgone a hstampmem)
      rw [List.mem_cons, not_or]
      exact ⟨hne, fun hmem => happart a hstampmem a hmem rfl⟩
    · exact hfreed a hcell
  · exact ((hch₁.mono hstampsub).trans (hch₂.mono hsub)).trans (changes_erase.mono hrecsub)

-- ---------------------------------------------------------------------------
-- What is left of a converted record
-- ---------------------------------------------------------------------------

section
variable [Field K]

def Cell.convert (c : Cell K) : Cell K := { c with values := c.values.convert }

omit [Field K] in
theorem Tower.sensor_lookup (ht : Tower h p cells) :
    ∀ a ∈ cells.map Cell.sensor, ∃ values sensorId timestamp,
      h.lookup a = some (.sensor values sensorId timestamp) := by
  induction cells generalizing p with
  | nil => simp
  | cons c cells ih =>
    obtain ⟨-, hsensor, next, -, hrest⟩ := ht
    simp only [List.map_cons, List.forall_mem_cons]
    exact ⟨⟨_, _, _, hsensor⟩, ih hrest⟩

theorem footprint_convert (cells : List (Cell K)) :
    footprint (cells.map Cell.convert) = footprint cells := by
  rw [footprint, List.flatMap_map]
  rfl

omit [Field K] in
theorem sensors_subset : cells.map Cell.sensor ⊆ footprint cells := by
  intro a ha
  obtain ⟨c, hc, rfl⟩ := List.mem_map.mp ha
  exact List.mem_flatMap.mpr ⟨c, hc, by simp⟩

theorem convertSensors_tower {fuel : Nat} (htower : Tower h p cells)
    (hnodup : (footprint cells).Nodup) (hfuel : cells.length ≤ fuel) :
    ∃ h', whilePtr convertSensor fuel h p = some h' ∧ Tower h' p (cells.map Cell.convert) ∧
      Changes (cells.map Cell.sensor) h h' := by
  induction cells generalizing h p fuel with
  | nil =>
    cases htower
    exact ⟨h, whilePtr_none fuel, rfl, .refl _ _⟩
  | cons c cells ih =>
    obtain ⟨rfl, hsensor, next, hnode, htower⟩ := htower
    simp only [footprint_cons, List.nodup_cons, List.mem_cons, not_or] at hnodup
    obtain ⟨⟨hns, hncells⟩, hscells, hcells⟩ := hnodup
    set h₁ := h.insert c.sensor (.sensor c.values.convert c.sensorId c.timestamp) with hh₁
    have hround : convertSensor h c.node = some (h₁, next) := by
      simp only [convertSensor, hnode, hsensor, store_of_lookup hsensor, ← hh₁]
      rfl
    have htower₁ : Tower h₁ next cells := by
      refine htower.changes changes_insert fun a ha hmem => ?_
      cases List.mem_singleton.mp hmem
      exact hscells ha
    cases fuel with
    | zero => cases hfuel
    | succ fuel =>
      obtain ⟨h', hloop, htower', hch⟩ := ih htower₁ hcells (Nat.le_of_succ_le_succ hfuel)
      refine ⟨h', (whilePtr_some hround).trans hloop, ⟨rfl, ?_, next, ?_, htower'⟩, ?_⟩
      · exact (hch c.sensor fun hmem => hscells (sensors_subset hmem)).trans
          (AList.lookup_insert _)
      · exact (hch c.node fun hmem => hncells (sensors_subset hmem)).trans
          ((AList.lookup_insert_ne hns).trans hnode)
      · exact (changes_insert.mono (by simp)).trans (hch.mono (List.subset_cons_self ..))

variable [LinearOrder K]

def Layout.convert (skip : Nat) (l : Layout K) : Layout K :=
  { l with fields := l.fields.convert skip, cells := l.cells.map Cell.convert }

theorem Layout.owned_convert (skip : Nat) (l : Layout K) : (l.convert skip).owned = l.owned := by
  unfold Layout.owned Layout.convert
  rw [footprint_convert]

theorem Layout.borrowed_convert (skip : Nat) (l : Layout K) :
    (l.convert skip).borrowed = l.borrowed := by
  unfold Layout.borrowed Layout.convert
  rw [List.flatMap_map]
  rfl

/-- `unit_convert` in place writes to the record's own blocks, and leaves the
converted record there. -/
theorem unitConvertAt_shows (skip : Nat) (hl : l.Shows h wd) :
    ∃ h', unitConvertAt skip h l.record = some h' ∧ Changes l.owned h h' ∧
      (l.convert skip).Shows h' (unitConvert skip wd) := by
  obtain ⟨hrecord, hnodup⟩ := List.nodup_cons.mp hl.nodup
  obtain ⟨-, hcells, -⟩ := List.nodup_append.mp hnodup
  have hnotcell : l.record ∉ footprint l.cells := fun hmem => hrecord (List.mem_append_right _ hmem)
  set h₁ := h.insert l.record (.record (l.fields.convert skip) l.timestamp l.towerList) with hh₁
  have htower₁ : Tower h₁ l.towerList l.cells := by
    refine hl.tower.changes changes_insert fun a ha hmem => ?_
    cases List.mem_singleton.mp hmem
    exact hnotcell ha
  obtain ⟨h', hloop, htower, hch⟩ :=
    convertSensors_tower htower₁ hcells (htower₁.length_le hcells)
  have hsub : l.cells.map Cell.sensor ⊆ l.owned :=
    fun a ha => Layout.mem_owned.mpr (.inr (.inr (sensors_subset ha)))
  have hchanges : Changes l.owned h h' :=
    (changes_insert.mono (by simp [Layout.mem_owned])).trans (hch.mono hsub)
  have hkeep : KeepsTexts h h' := by
    intro a s ha
    refine hch.lookup ?_ (changes_insert.lookup ?_ ha)
    · intro hmem
      obtain ⟨_, _, _, hsensor⟩ := hl.tower.sensor_lookup a hmem
      cases ha.symm.trans hsensor
    · rw [List.mem_singleton]
      rintro rfl
      cases ha.symm.trans hl.record
  refine ⟨h', ?_, hchanges, ?_, hkeep.textAt hl.timestamp, htower, ?_, ?_, ?_⟩
  · simp only [unitConvertAt, hl.record, store_of_lookup hl.record, Option.bind_eq_bind,
      Option.bind_some, ← hh₁, hloop]
  · exact (hch l.record fun hmem => hnotcell (sensors_subset hmem)).trans (AList.lookup_insert _)
  · refine List.forall₂_map_left_iff.mpr (List.forall₂_map_right_iff.mpr (hl.sensors.imp ?_))
    intro c sensor hc
    have hc' : c.Shows h' sensor := hkeep.cellShows hc
    exact ⟨hc'.sensorId, hc'.timestamp, congrArg SensorData.convert hc.values⟩
  · exact congrArg (unitConvert skip) hl.fields
  · rw [Layout.owned_convert]
    exact hl.nodup

end

end

end WfPublisher
