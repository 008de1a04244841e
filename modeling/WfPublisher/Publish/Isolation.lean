import WfPublisher.Lib.Transition
import WfPublisher.Publish.Batch
import WfPublisher.Publish.Copies

/-!
# Copies keep the publishers apart

Threads of update functions that convert and free their records, in any order,
while further copies are made and no datagram comes in. Each record is the
thread's own, so none sees another's conversion and the original stays as it is.
-/

namespace WfPublisher

open Memory Transition

inductive Phase
  | called
  | converted
  | released
  deriving DecidableEq

structure Upload where
  service : ServiceInfo
  data : Addr
  phase : Phase

structure Store (K : Type) where
  heap : Heap (Block K)
  uploads : List Upload

inductive Outcome
  | noMemory
  | noThread
  | created

inductive StoreAct (K : Type)
  | sendTo (service : ServiceInfo) (m : Malloc (Block K)) (outcome : Outcome)
  | convert (i : Nat)
  | release (i : Nat)

section
variable {K : Type}

def sendTo (m : Malloc (Block K)) (outcome : Outcome) (service : ServiceInfo) (wd : Addr)
    (s : Store K) : Option (Store K) :=
  match outcome with
  | .noMemory => some s
  | .noThread => do
    let (copy, h) ← wdcopy m s.heap wd
    let h ← wdfree h copy
    return { s with heap := h }
  | .created => do
    let (copy, h) ← wdcopy m s.heap wd
    return ⟨h, s.uploads ++ [⟨service, copy, .called⟩]⟩

def releaseUpload (s : Store K) (i : Nat) : Option (Store K) :=
  match s.uploads[i]? with
  | some ⟨service, data, .converted⟩ => do
    let h ← wdfree s.heap data
    return ⟨h, s.uploads.set i ⟨service, data, .released⟩⟩
  | _ => none

section
variable [Field K] [LinearOrder K]

/-- The start of the update function: it converts its record, or does not. -/
def convertUpload (s : Store K) (i : Nat) : Option (Store K) :=
  match s.uploads[i]? with
  | some ⟨service, data, .called⟩ => do
    let h ← match service.conversion with
      | none => some s.heap
      | some skip => unitConvertAt skip s.heap data
    return ⟨h, s.uploads.set i ⟨service, data, .converted⟩⟩
  | _ => none

def Store.next (wd : Addr) (s : Store K) : StoreAct K → Option (Store K)
  | .sendTo service m outcome => sendTo m outcome service wd s
  | .convert i => convertUpload s i
  | .release i => releaseUpload s i

end

-- ---------------------------------------------------------------------------
-- What the threads have
-- ---------------------------------------------------------------------------

/-- What the update function reads in its record. -/
def Upload.value [Field K] [LinearOrder K] (u : Upload) (wd : WeatherData K) : WeatherData K :=
  match u.phase, u.service.conversion with
  | .converted, some skip => unitConvert skip wd.reversed
  | _, _ => wd.reversed

def Store.Live (s : Store K) (i : Nat) (u : Upload) : Prop :=
  s.uploads[i]? = some u ∧ u.phase ≠ .released

/-- Each thread has a record of its own, apart from what was there at the start. -/
structure Store.Apart [Field K] [LinearOrder K] (original : Layout K) (base : Heap (Block K))
    (wd : WeatherData K) (layout : Nat → Layout K) (s : Store K) : Prop where
  kept : Extends base s.heap
  holds : ∀ i u, s.Live i u → (layout i).record = u.data ∧
    (layout i).CopyIn base original.borrowed s.heap (u.value wd)
  apart : ∀ i j u v, i ≠ j → s.Live i u → s.Live j v →
    ∀ a ∈ (layout i).owned, a ∉ (layout j).owned

variable {original l : Layout K} {base h h' : Heap (Block K)} {wd wd' : WeatherData K}
  {layout : Nat → Layout K} {s t : Store K} {i j : Nat} {u v w : Upload}

theorem Layout.Shows.grow (hl : l.Shows h wd) (hext : Extends h h') : l.Shows h' wd :=
  hl.frame (fun a ha => hext a (hl.owned_mem ha)) fun a ha => by
    obtain ⟨s, hs⟩ := hl.borrowed_text ha
    exact hext a (mem_of_lookup hs)

theorem Layout.CopyIn.frame (hl : l.CopyIn base original.borrowed h wd)
    (horiginal : original.Shows base wd') (hext : Extends base h) (hext' : Extends base h')
    (howned : ∀ a ∈ l.owned, h'.lookup a = h.lookup a) :
    l.CopyIn base original.borrowed h' wd := by
  refine ⟨hl.shows.frame howned fun a ha => ?_, hl.fresh, hl.borrowed⟩
  obtain ⟨s, hs⟩ := horiginal.borrowed_text (hl.borrowed ha)
  exact (hext' a (mem_of_lookup hs)).trans (hext a (mem_of_lookup hs)).symm

theorem live_set (hi : s.uploads[i]? = some u) {heap : Heap (Block K)} :
    (Store.mk heap (s.uploads.set i v)).Live j w ↔
      if j = i then w = v ∧ v.phase ≠ .released else s.Live j w := by
  have hlt : i < s.uploads.length := (List.getElem?_eq_some_iff.mp hi).1
  unfold Store.Live
  split
  · rename_i heq
    subst heq
    simp only [List.getElem?_set_self hlt, Option.some.injEq]
    constructor
    · rintro ⟨rfl, hphase⟩
      exact ⟨rfl, hphase⟩
    · rintro ⟨rfl, hphase⟩
      exact ⟨rfl, hphase⟩
  · rename_i hne
    rw [List.getElem?_set_ne (Ne.symm hne)]

theorem live_concat {heap : Heap (Block K)} :
    (Store.mk heap (s.uploads ++ [v])).Live j w ↔
      s.Live j w ∨ j = s.uploads.length ∧ w = v ∧ v.phase ≠ .released := by
  unfold Store.Live
  rw [List.getElem?_append]
  split
  · rename_i hlt
    constructor
    · exact .inl
    · rintro (hlive | ⟨rfl, -⟩)
      · exact hlive
      · exact absurd hlt (lt_irrefl _)
  · rename_i hge
    rw [List.getElem?_eq_none (not_lt.mp hge)]
    simp only [List.getElem?_singleton]
    split
    · rename_i hzero
      have heq : j = s.uploads.length := by omega
      simp only [Option.some.injEq, reduceCtorEq, false_and, false_or, heq, true_and]
      constructor
      · rintro ⟨rfl, hphase⟩
        exact ⟨rfl, hphase⟩
      · rintro ⟨rfl, hphase⟩
        exact ⟨rfl, hphase⟩
    · rename_i hne
      have : j ≠ s.uploads.length := by omega
      simp [this]

-- ---------------------------------------------------------------------------
-- The steps
-- ---------------------------------------------------------------------------

namespace Store.Apart

variable [Field K] [LinearOrder K]

theorem holds_frame (hs : s.Apart original base wd layout) (horiginal : original.Shows base wd')
    (hlive : s.Live i u) (hext : Extends base h')
    (howned : ∀ a ∈ (layout i).owned, h'.lookup a = s.heap.lookup a) :
    (layout i).record = u.data ∧ (layout i).CopyIn base original.borrowed h' (u.value wd) :=
  ⟨(hs.holds i u hlive).1, (hs.holds i u hlive).2.frame horiginal hs.kept hext howned⟩

theorem owned_mem (hs : s.Apart original base wd layout) (hlive : s.Live i u) {a : Addr}
    (ha : a ∈ (layout i).owned) : a ∈ s.heap :=
  (hs.holds i u hlive).2.shows.owned_mem ha

theorem grow (hs : s.Apart original base wd layout) (horiginal : original.Shows base wd')
    (hext : Extends s.heap h') : (Store.mk h' s.uploads).Apart original base wd layout where
  kept := hs.kept.trans hext
  holds _ _ hlive := hs.holds_frame horiginal hlive (hs.kept.trans hext)
    fun a ha => hext a (hs.owned_mem hlive ha)
  apart := hs.apart

theorem add (hs : s.Apart original base wd layout) (horiginal : original.Shows base wd')
    (service : ServiceInfo) (hext : Extends s.heap h')
    (hl : l.CopyIn s.heap original.borrowed h' wd.reversed) :
    (Store.mk h' (s.uploads ++ [⟨service, l.record, .called⟩])).Apart original base wd
      (Function.update layout s.uploads.length l) := by
  have hs' := hs.grow horiginal hext
  have hne {j : Nat} {v : Upload} (hlive : s.Live j v) : j ≠ s.uploads.length :=
    Nat.ne_of_lt (List.getElem?_eq_some_iff.mp hlive.1).1
  refine ⟨hs'.kept, fun j v hlive => ?_, fun i j u v hij hi hj a ha => ?_⟩
  · obtain hlive | ⟨rfl, rfl, -⟩ := live_concat.mp hlive
    · rw [Function.update_of_ne (hne hlive)]
      exact hs'.holds j v hlive
    · rw [Function.update_self]
      exact ⟨rfl, hl.shows, fun a ha hmem => hl.fresh a ha (hs.kept.mem hmem), hl.borrowed⟩
  · obtain hi | ⟨rfl, rfl, -⟩ := live_concat.mp hi
    · rw [Function.update_of_ne (hne hi)] at ha
      obtain hj | ⟨rfl, rfl, -⟩ := live_concat.mp hj
      · rw [Function.update_of_ne (hne hj)]
        exact hs.apart i j u v hij hi hj a ha
      · rw [Function.update_self]
        exact fun hmem => hl.fresh a hmem (hs.owned_mem hi ha)
    · rw [Function.update_self] at ha
      obtain hj | ⟨rfl, -, -⟩ := live_concat.mp hj
      · rw [Function.update_of_ne (hne hj)]
        exact fun hmem => hl.fresh a ha (hs.owned_mem hj hmem)
      · exact absurd rfl hij

theorem sendTo (hs : s.Apart original base wd layout) (horiginal : original.Shows base wd)
    (service : ServiceInfo) (m : Malloc (Block K)) (outcome : Outcome) :
    ∃ t layout', sendTo m outcome service original.record s = some t ∧
      t.Apart original base wd layout' := by
  obtain ⟨l, h', hcopy, hext, hl⟩ := wdcopy_copyIn m (horiginal.grow hs.kept)
  cases outcome with
  | noMemory => exact ⟨s, layout, rfl, hs⟩
  | noThread =>
    obtain ⟨h'', hfree, -, hch⟩ := wdfree_notMem hl.shows
    refine ⟨⟨h'', s.uploads⟩, layout, ?_, hs.grow horiginal (hext.changes hl.fresh hch)⟩
    simp only [WfPublisher.sendTo, hcopy, hfree, Option.bind_eq_bind, Option.bind_some]
    rfl
  | created =>
    refine ⟨_, _, ?_, hs.add horiginal service hext hl⟩
    simp only [WfPublisher.sendTo, hcopy, Option.bind_eq_bind, Option.bind_some]
    rfl

theorem set (hs : s.Apart original base wd layout) (horiginal : original.Shows base wd')
    (hlive : s.Live i u) (hch : Changes (layout i).owned s.heap h') (hdata : v.data = u.data)
    (hrecord : l.record = (layout i).record) (howned : l.owned = (layout i).owned)
    (hborrowed : l.borrowed = (layout i).borrowed)
    (hl : v.phase ≠ .released → l.Shows h' (v.value wd)) :
    (Store.mk h' (s.uploads.set i v)).Apart original base wd (Function.update layout i l) := by
  obtain ⟨hdata', hcopy⟩ := hs.holds i u hlive
  have hkept : Extends base h' := hs.kept.changes hcopy.fresh hch
  have howned' (j : Nat) : (Function.update layout i l j).owned = (layout j).owned := by
    by_cases hji : j = i
    · subst hji
      rw [Function.update_self, howned]
    · rw [Function.update_of_ne hji]
  have hlive' {j : Nat} {w : Upload} (hj : (Store.mk h' (s.uploads.set i v)).Live j w) :
      ∃ w', s.Live j w' := by
    rw [live_set hlive.1] at hj
    split at hj
    · rename_i heq
      exact ⟨u, heq ▸ hlive⟩
    · exact ⟨w, hj⟩
  refine ⟨hkept, fun j w hj => ?_, fun j k w x hjk hj hk => ?_⟩
  · rw [live_set hlive.1] at hj
    split at hj
    · rename_i heq
      subst heq
      obtain ⟨rfl, hphase⟩ := hj
      rw [Function.update_self]
      refine ⟨hrecord.trans (hdata'.trans hdata.symm), hl hphase, ?_, ?_⟩
      · rw [howned]
        exact hcopy.fresh
      · rw [hborrowed]
        exact hcopy.borrowed
    · rename_i hne
      rw [Function.update_of_ne hne]
      exact hs.holds_frame horiginal hj hkept fun a ha =>
        hch a (hs.apart j i w u hne hj hlive a ha)
  · obtain ⟨w', hj⟩ := hlive' hj
    obtain ⟨x', hk⟩ := hlive' hk
    rw [howned', howned']
    exact hs.apart j k w' x' hjk hj hk

theorem convert (hs : s.Apart original base wd layout) (horiginal : original.Shows base wd)
    (hi : s.uploads[i]? = some u) (hphase : u.phase = .called) :
    ∃ t layout', convertUpload s i = some t ∧ t.Apart original base wd layout' := by
  obtain ⟨service, data, phase⟩ := u
  cases hphase
  have hlive : s.Live i ⟨service, data, .called⟩ := ⟨hi, by simp⟩
  obtain ⟨hdata, hcopy⟩ := hs.holds i _ hlive
  cases hconv : service.conversion with
  | none =>
    refine ⟨⟨s.heap, s.uploads.set i ⟨service, data, .converted⟩⟩, _, ?_,
      hs.set horiginal hlive (.refl _ _) rfl rfl rfl rfl fun _ => ?_⟩
    · simp [convertUpload, hi, hconv]
    · simpa [Upload.value, hconv] using hcopy.shows
  | some skip =>
    obtain ⟨h', hrun, hch, hshows⟩ := unitConvertAt_shows skip hcopy.shows
    refine ⟨⟨h', s.uploads.set i ⟨service, data, .converted⟩⟩, _, ?_,
      hs.set horiginal hlive hch rfl (l := (layout i).convert skip) rfl
        (Layout.owned_convert ..) (Layout.borrowed_convert ..) fun _ => ?_⟩
    · rw [hdata] at hrun
      simp [convertUpload, hi, hconv, hrun]
    · simpa [Upload.value, hconv] using hshows

theorem release (hs : s.Apart original base wd layout) (horiginal : original.Shows base wd)
    (hi : s.uploads[i]? = some u) (hphase : u.phase = .converted) :
    ∃ t layout', releaseUpload s i = some t ∧ t.Apart original base wd layout' := by
  obtain ⟨service, data, phase⟩ := u
  cases hphase
  have hlive : s.Live i ⟨service, data, .converted⟩ := ⟨hi, by simp⟩
  obtain ⟨hdata, hcopy⟩ := hs.holds i _ hlive
  obtain ⟨h', hrun, -, hch⟩ := wdfree_notMem hcopy.shows
  refine ⟨⟨h', s.uploads.set i ⟨service, data, .released⟩⟩, _, ?_,
    hs.set horiginal hlive hch rfl rfl rfl rfl fun hphase => absurd rfl hphase⟩
  rw [hdata] at hrun
  simp [releaseUpload, hi, hrun]

theorem step {a : StoreAct K} (hs : s.Apart original base wd layout)
    (horiginal : original.Shows base wd) (hstep : s.next original.record a = some t) :
    ∃ layout', t.Apart original base wd layout' := by
  cases a with
  | sendTo service m outcome =>
    obtain ⟨t', layout', hsend, hs'⟩ := hs.sendTo horiginal service m outcome
    cases hsend.symm.trans hstep
    exact ⟨layout', hs'⟩
  | convert i =>
    have hrun : convertUpload s i = some t := hstep
    simp only [Store.next, convertUpload] at hstep
    split at hstep
    · rename_i hi
      obtain ⟨t', layout', hconvert, hs'⟩ := hs.convert horiginal hi rfl
      cases hconvert.symm.trans hrun
      exact ⟨layout', hs'⟩
    · cases hstep
  | release i =>
    have hrun : releaseUpload s i = some t := hstep
    simp only [Store.next, releaseUpload] at hstep
    split at hstep
    · rename_i hi
      obtain ⟨t', layout', hrelease, hs'⟩ := hs.release horiginal hi rfl
      cases hrelease.symm.trans hrun
      exact ⟨layout', hs'⟩
    · cases hstep

end Store.Apart

-- ---------------------------------------------------------------------------
-- Any interleaving
-- ---------------------------------------------------------------------------

/-- The values of `wd`, and each of its sensors' once. -/
structure IsCopy (wd copy : WeatherData K) : Prop where
  fields : copy = { wd with towerList := copy.towerList }
  sensors : copy.towerList.Perm wd.towerList

theorem reversed_isCopy (wd : WeatherData K) : IsCopy wd wd.reversed :=
  ⟨rfl, List.reverse_perm _⟩

variable [Field K] [LinearOrder K]

/-- The original and all its blocks are as at the start, each update function is
given a copy and has converted it once, and nothing stops on a bad pointer. -/
structure Store.Isolated (original : Layout K) (base : Heap (Block K)) (wd : WeatherData K)
    (s : Store K) : Prop where
  kept : Extends base s.heap
  shown : original.Shows s.heap wd
  called : ∀ u ∈ s.uploads, u.phase = .called → ∃ (l : Layout K) (copy : WeatherData K),
    l.record = u.data ∧ l.Shows s.heap copy ∧ IsCopy wd copy
  converted : ∀ u ∈ s.uploads, u.phase = .converted → ∃ (l : Layout K) (copy value : WeatherData K),
    l.record = u.data ∧ l.Shows s.heap value ∧ IsCopy wd copy ∧
    match u.service.conversion with
    | none => value = copy
    | some skip => ConvertedOnce skip copy value
  sends : ∀ service m outcome, (s.next original.record (.sendTo service m outcome)).isSome
  converts : ∀ i u, s.uploads[i]? = some u → u.phase = .called →
    (s.next original.record (.convert i)).isSome
  releases : ∀ i u, s.uploads[i]? = some u → u.phase = .converted →
    (s.next original.record (.release i)).isSome

theorem Store.Apart.isolated (hs : s.Apart original base wd layout)
    (horiginal : original.Shows base wd) : s.Isolated original base wd where
  kept := hs.kept
  shown := horiginal.grow hs.kept
  called u hu hphase := by
    obtain ⟨i, hi⟩ := List.mem_iff_getElem?.mp hu
    obtain ⟨hdata, hcopy⟩ := hs.holds i u ⟨hi, by simp [hphase]⟩
    refine ⟨layout i, wd.reversed, hdata, ?_, reversed_isCopy wd⟩
    simpa [Upload.value, hphase] using hcopy.shows
  converted u hu hphase := by
    obtain ⟨i, hi⟩ := List.mem_iff_getElem?.mp hu
    obtain ⟨hdata, hcopy⟩ := hs.holds i u ⟨hi, by simp [hphase]⟩
    refine ⟨layout i, wd.reversed, u.value wd, hdata, hcopy.shows, reversed_isCopy wd, ?_⟩
    unfold Upload.value
    rw [hphase]
    cases u.service.conversion with
    | none => rfl
    | some skip => exact unitConvert_convertedOnce skip wd.reversed
  sends service m outcome := by
    obtain ⟨t, -, hsend, -⟩ := hs.sendTo horiginal service m outcome
    exact Option.isSome_iff_exists.mpr ⟨t, hsend⟩
  converts i u hi hphase := by
    obtain ⟨t, -, hconvert, -⟩ := hs.convert horiginal hi hphase
    exact Option.isSome_iff_exists.mpr ⟨t, hconvert⟩
  releases i u hi hphase := by
    obtain ⟨t, -, hrelease, -⟩ := hs.release horiginal hi hphase
    exact Option.isSome_iff_exists.mpr ⟨t, hrelease⟩

theorem copies_isolated {actions : List (StoreAct K)} (horiginal : original.Shows base wd)
    (hrun : run (Store.next original.record) ⟨base, []⟩ actions = some s) :
    s.Isolated original base wd := by
  have hapart : ∃ layout, s.Apart original base wd layout := by
    refine run_induction (P := fun s => ∃ layout, Store.Apart original base wd layout s)
      ⟨fun _ => original, .refl base, fun i u hlive => ?_, fun i j u v _ hlive => ?_⟩
      (fun s a t hs hstep => ?_) hrun
    · cases hlive.1
    · cases hlive.1
    · obtain ⟨layout, hs⟩ := hs
      exact hs.step horiginal hstep
  obtain ⟨layout, hs⟩ := hapart
  exact hs.isolated horiginal

end

-- ---------------------------------------------------------------------------
-- Two sensors
-- ---------------------------------------------------------------------------

def sensorNamed (sensorId : CString) (temperature : ℚ) : SensorData ℚ :=
  ⟨sensorId, none, temperature, 0, temperature, temperature, []⟩

def yardRecord : WeatherData ℚ :=
  { WeatherData.zero with
    timestamp := some ['t'], towerList := [sensorNamed ['a'] 10, sensorNamed ['b'] 20] }

def yardLayout : Layout ℚ where
  record := 1
  fields := yardRecord
  timestamp := some 2
  towerList := some 3
  cells := [⟨3, 4, sensorNamed ['a'] 10, 5, none⟩, ⟨6, 7, sensorNamed ['b'] 20, 8, none⟩]

def yard : Heap (Block ℚ) :=
  (((((((AList.singleton 1 (.record yardRecord (some 2) (some 3))).insert 2 (.text ['t'])).insert 3
    (.node 4 (some 6))).insert 4 (.sensor (sensorNamed ['a'] 10) 5 none)).insert 5
    (.text ['a'])).insert 6 (.node 7 none)).insert 7
    (.sensor (sensorNamed ['b'] 20) 8 none)).insert 8 (.text ['b'])

theorem yard_shows : yardLayout.Shows yard yardRecord where
  record := rfl
  timestamp := ⟨['t'], rfl, rfl⟩
  tower := ⟨rfl, rfl, some 6, rfl, rfl, rfl, none, rfl, rfl⟩
  sensors := .cons ⟨rfl, rfl, rfl⟩ (.cons ⟨rfl, rfl, rfl⟩ .nil)
  fields := rfl
  nodup := by decide

def plainService (kind : Kind) : ServiceInfo :=
  ⟨kind, 1, ⟨none, none, none, none, 0⟩, ⟨none, none, none, none, 0⟩⟩

def yardRun : List (StoreAct ℚ) :=
  [.sendTo (plainService .cwop) .top .created, .sendTo (plainService .logfile) .top .created,
    .convert 1, .sendTo (plainService .cwop) .top .noThread, .convert 0, .release 1,
    .sendTo (plainService .logfile) .top .created]

theorem yardCopies_isolated : ∃ s, run (Store.next yardLayout.record) ⟨yard, []⟩ yardRun = some s ∧
    s.Isolated yardLayout yard yardRecord := by
  have isolated (s) (hrun : run (Store.next yardLayout.record) ⟨yard, []⟩ yardRun = some s) :
      s.Isolated yardLayout yard yardRecord := copies_isolated yard_shows hrun
  exact ⟨_, rfl, isolated _ rfl⟩

end WfPublisher
