import Mathlib
import WfPublisher.Receive.Derived

/-!
# The gust window

Sky rows and rapid winds both bring a gust, but only the sky rows are counted.
A window begins with a reading and is over with the thirtieth sky row behind it;
the next reading, of either kind, begins another one.
-/

namespace WfPublisher

open Extremes Fallible

-- ---------------------------------------------------------------------------
-- Windows
-- ---------------------------------------------------------------------------

structure Gust (K : Type) where
  sky : Bool
  speed : K
  direction : K

section
variable {K : Type}

def skyCount (gusts : List (Gust K)) : Nat := gusts.countP Gust.sky

/-- The window that `gust` falls into, after the window before it. -/
def nextWindow (window : List (Gust K)) (gust : Gust K) : List (Gust K) :=
  if skyCount window.tail = 30 then [gust] else window ++ [gust]

/-- The readings since the last window began; the first window begins with the
zeros of the record. -/
def window [Zero K] (gusts : List (Gust K)) : List (Gust K) :=
  gusts.foldl nextWindow [⟨false, 0, 0⟩]

section
variable [Zero K]

theorem window_concat (gusts : List (Gust K)) (gust : Gust K) :
    window (gusts ++ [gust]) = nextWindow (window gusts) gust := by
  rw [window, List.foldl_append]
  rfl

theorem window_ne_nil (gusts : List (Gust K)) : window gusts ≠ [] := by
  induction gusts using List.reverseRecOn with
  | nil => exact List.cons_ne_nil _ _
  | append_singleton gusts gust ih =>
    rw [window_concat, nextWindow]
    split
    · exact List.cons_ne_nil _ _
    · exact List.concat_ne_nil _ _

omit [Zero K] in
theorem skyCount_nextWindow {w : List (Gust K)} (hw : w ≠ []) (gust : Gust K) :
    skyCount (nextWindow w gust).tail =
      if skyCount w.tail = 30 then 0 else skyCount w.tail + if gust.sky then 1 else 0 := by
  unfold nextWindow
  split
  · rfl
  · rw [List.tail_append_of_ne_nil hw, skyCount, List.countP_append, List.countP_singleton]
    rfl

theorem skyCount_tail_le (gusts : List (Gust K)) : skyCount (window gusts).tail ≤ 30 := by
  induction gusts using List.reverseRecOn with
  | nil => exact Nat.zero_le _
  | append_singleton gusts gust ih =>
    rw [window_concat, skyCount_nextWindow (window_ne_nil gusts)]
    split
    · exact Nat.zero_le _
    · split <;> omega

theorem window_suffix (gusts : List (Gust K)) : window gusts <:+ ⟨false, 0, 0⟩ :: gusts := by
  induction gusts using List.reverseRecOn with
  | nil => exact List.suffix_rfl
  | append_singleton gusts gust ih =>
    rw [window_concat, nextWindow, ← List.cons_append]
    split
    · exact List.suffix_append _ _
    · exact List.suffix_append_self_iff.mpr ih

end

end

-- ---------------------------------------------------------------------------
-- What the record shows
-- ---------------------------------------------------------------------------

section
variable {K : Type} [Field K] [LinearOrder K]

/-- The record shows the largest gust of the window, with the direction it came
with the first time. -/
structure ShowsGust (gusts : List (Gust K)) (g : Globals K) : Prop where
  interval : g.interval = skyCount (window gusts).tail
  shown : ∃ gust, EarliestMax Gust.speed (window gusts) gust ∧
    g.wd.gustspeed = gust.speed ∧ g.wd.gustdirection = gust.direction

def Observation.gust : Observation K → Option (Gust K)
  | .sky o => some ⟨true, o.gust, o.winddirection⟩
  | .wind o => some ⟨false, o.speed, (o.direction : K)⟩
  | .air _ | .sensor _ | .tower .. => none

variable {gusts : List (Gust K)} {g g' : Globals K}

theorem ShowsGust.interval_eq_iff (h : ShowsGust gusts g) :
    g.interval = gustInterval ↔ skyCount (window gusts).tail = 30 := by
  rw [h.interval]
  exact Nat.cast_inj (n := 30)

theorem ShowsGust.initial (totals : RainTotals K) (rainfallJson : Option (CJson K)) :
    ShowsGust [] (Globals.initial totals rainfallJson) :=
  ⟨rfl, _, earliestMax_singleton Gust.speed _, rfl, rfl⟩

theorem ShowsGust.congr (h : ShowsGust gusts g) (hinterval : g'.interval = g.interval)
    (hspeed : g'.wd.gustspeed = g.wd.gustspeed)
    (hdirection : g'.wd.gustdirection = g.wd.gustdirection) : ShowsGust gusts g' := by
  obtain ⟨hcount, gust, hmax, hs, hd⟩ := h
  exact ⟨hinterval.trans hcount, gust, hmax, hspeed.trans hs, hdirection.trans hd⟩

theorem ShowsGust.storeGust (h : ShowsGust gusts g) (gust : Gust K) :
    ShowsGust (gusts ++ [gust]) { g.storeGust gust.speed gust.direction with
      interval := if g.interval = gustInterval then 0
        else g.interval + if gust.sky then 1 else 0 } := by
  have hfull := h.interval_eq_iff
  obtain ⟨hcount, max, hmax, hspeed, hdirection⟩ := h
  constructor
  · rw [window_concat, skyCount_nextWindow (window_ne_nil gusts)]
    simp only [hfull]
    split
    · rfl
    · rw [hcount]
      split <;> simp
  · rw [window_concat, nextWindow, Globals.storeGust]
    simp only [hfull]
    split
    · exact ⟨gust, earliestMax_singleton Gust.speed gust, rfl, rfl⟩
    · split
      · rename_i hlt
        exact ⟨gust, hmax.concat_of_lt (hspeed ▸ hlt), rfl, rfl⟩
      · rename_i hle
        exact ⟨max, hmax.concat_of_le (hspeed ▸ not_lt.mp hle), hspeed, hdirection⟩

variable (host : Host K) (config : Config K) (now : Int)

theorem ShowsGust.storeSky (h : ShowsGust gusts g) (o : SkyObs K) :
    ShowsGust (gusts ++ [⟨true, o.gust, o.winddirection⟩]) (g.storeSky host now o) := by
  have hrow : ShowsGust gusts { g with wd := g.wd.storeSky host o } := h.congr rfl rfl rfl
  exact (hrow.storeGust ⟨true, o.gust, o.winddirection⟩).congr rfl rfl rfl

theorem ShowsGust.storeWind (h : ShowsGust gusts g) (o : WindObs K) :
    ShowsGust (gusts ++ [⟨false, o.speed, o.direction⟩]) (g.storeGust o.speed o.direction) := by
  refine (h.storeGust ⟨false, o.speed, o.direction⟩).congr ?_ rfl rfl
  simp only [Globals.storeGust, Bool.false_eq_true, if_false, add_zero]
  split
  · rfl
  · split <;> rfl

theorem ShowsGust.store (h : ShowsGust gusts g) (o : Observation K) :
    ShowsGust (gusts ++ o.gust.toList) (g.store host config now o) := by
  cases o with
  | sky row => exact h.storeSky host now row
  | wind row => exact h.storeWind row
  | air row =>
    rw [Observation.gust, Option.toList_none, List.append_nil]
    exact h.congr rfl rfl rfl
  | sensor sensorId =>
    rw [Observation.gust, Option.toList_none, List.append_nil]
    simp only [Globals.store, Globals.storeSensor]
    split
    · exact h
    · exact h.congr rfl rfl rfl
  | tower sensorId row =>
    rw [Observation.gust, Option.toList_none, List.append_nil]
    exact h.congr rfl rfl rfl

-- ---------------------------------------------------------------------------
-- What is published
-- ---------------------------------------------------------------------------

/-- What holds of the counter and of the gust that is published. -/
structure GustWindow (gusts : List (Gust K)) (g : Globals K) : Prop where
  interval : 0 ≤ g.interval ∧ g.interval ≤ 30
  suffix : window gusts <:+ ⟨false, 0, 0⟩ :: gusts
  skies : skyCount (window gusts) ≤ 31
  /-- The first of the largest gusts, and how many sky rows have come since. -/
  shown : ∃ before gust after, window gusts = before ++ gust :: after ∧
    (∀ other ∈ before, other.speed < gust.speed) ∧ (∀ other ∈ after, other.speed ≤ gust.speed) ∧
    g.wd.gustspeed = gust.speed ∧ g.wd.gustdirection = gust.direction ∧ skyCount after ≤ 30

theorem ShowsGust.gustWindow (h : ShowsGust gusts g) : GustWindow gusts g := by
  have htail := skyCount_tail_le gusts
  obtain ⟨hcount, gust, ⟨before, after, hsplit, hbefore, hafter⟩, hspeed, hdirection⟩ := h
  refine ⟨?_, window_suffix gusts, ?_,
    before, gust, after, hsplit, hbefore, hafter, hspeed, hdirection, ?_⟩
  · omega
  · obtain ⟨first, rest, hcons⟩ := List.exists_cons_of_ne_nil (window_ne_nil gusts)
    rw [hcons, List.tail_cons] at htail
    rw [hcons, skyCount, List.countP_cons]
    split
    · exact Nat.succ_le_succ htail
    · exact htail.trans (Nat.le_succ 30)
  · have hsuffix : after <:+ (window gusts).tail := by
      rw [hsplit]
      cases before with
      | nil => exact List.suffix_rfl
      | cons first rest => exact (List.suffix_cons gust after).trans (List.suffix_append rest _)
    exact hsuffix.countP_le.trans htail

end

-- ---------------------------------------------------------------------------
-- Over a run
-- ---------------------------------------------------------------------------

section
variable {K : Type} [Field K] [LinearOrder K] [FloorRing K]

inductive GustCall (K : Type)
  | sky (now : Int) (ob : CJson K)
  | wind (message : Option (CJson K))

def GustCall.run (host : Host K) (g : Globals K) : GustCall K → Except Fault (Globals K)
  | .sky now ob => skyRow host now (some ob) g
  | .wind message => wfpWindParse message g

/-- Element 6 of a sky row with the wind direction of the row, element 1 of a
rapid wind with its element 2. -/
def GustCall.gust : GustCall K → Option (Gust K)
  | .sky _ ob =>
    match (items (some ob))[6]?, (items (some ob))[7]? with
    | some gust, some direction => some ⟨true, gust.valuedouble, direction.valuedouble⟩
    | _, _ => none
  | .wind message =>
    match getObjectItemCaseSensitive message "ob".toList with
    | .ok obs =>
      match (items obs)[1]?, (items obs)[2]? with
      | some speed, some direction => some ⟨false, speed.valuedouble, (direction.valueint : K)⟩
      | _, _ => none
    | .error _ => none

variable {host : Host K} {gusts : List (Gust K)} {g g' : Globals K}

theorem ShowsGust.call (h : ShowsGust gusts g) {call : GustCall K}
    (hrun : call.run host g = .ok g') :
    ∃ gust, call.gust = some gust ∧ ShowsGust (gusts ++ [gust]) g' := by
  cases call with
  | sky now ob =>
    obtain ⟨-, o, ho, rfl⟩ := (skyRow_ok host now).mp hrun
    refine ⟨_, ?_, h.storeSky host now o⟩
    unfold SkyObs.read at ho
    split at ho
    · rename_i hitems
      cases ho
      simp [GustCall.gust, hitems]
    · cases ho
  | wind message =>
    have hparse : wfpWindParse message g = .ok g' := hrun
    cases hobs : getObjectItemCaseSensitive message "ob".toList with
    | error fault =>
      rw [wfpWindParse, hobs] at hparse
      cases hparse
    | ok obs =>
      obtain ⟨o, ho, rfl⟩ := (wfpWindParse_ok hobs).mp hparse
      refine ⟨_, ?_, h.storeWind o⟩
      unfold WindObs.read at ho
      split at ho
      · rename_i hitems
        cases ho
        simp only [GustCall.gust, hobs, hitems]
        rfl
      · cases ho

theorem showsGust_calls {totals : RainTotals K} {rainfallJson : Option (CJson K)}
    {calls : List (GustCall K)}
    (h : calls.foldlM (GustCall.run host) (.initial totals rainfallJson) = .ok g) :
    ShowsGust (calls.filterMap GustCall.gust) g := by
  induction calls using List.reverseRecOn generalizing g with
  | nil =>
    cases h
    exact .initial totals rainfallJson
  | append_singleton calls call ih =>
    obtain ⟨m, hm, hrun⟩ := foldlM_concat_ok.mp h
    obtain ⟨gust, hgust, hshows⟩ := (ih hm).call hrun
    rwa [List.filterMap_append, List.filterMap_cons_some hgust]

theorem gustWindow_run {totals : RainTotals K} {rainfallJson : Option (CJson K)}
    {calls : List (GustCall K)}
    (h : calls.foldlM (GustCall.run host) (.initial totals rainfallJson) = .ok g) :
    GustWindow (calls.filterMap GustCall.gust) g := (showsGust_calls h).gustWindow

end

def skyNumbers (gust direction : ℚ) : CJson ℚ :=
  .array ([0, 0, 0, 0, 0, 0, gust, direction, 0, 0, 0].map .number)

def rapidWind (speed direction : ℚ) : CJson ℚ :=
  .object [("ob".toList, .array ([0, speed, direction].map .number))]

theorem threeGusts_window : ∃ g,
    [.sky 0 (skyNumbers 2 90), .wind (some (rapidWind 3 180)), .sky 60 (skyNumbers 3 270)].foldlM
      (GustCall.run calmHost) (.initial .zero none) = .ok g ∧
    GustWindow [⟨true, 2, 90⟩, ⟨false, 3, 180⟩, ⟨true, 3, 270⟩] g ∧
    g.wd.gustspeed = 3 ∧ g.wd.gustdirection = 180 := by
  have hgusts : [.sky 0 (skyNumbers 2 90), .wind (some (rapidWind 3 180)),
      .sky 60 (skyNumbers 3 270)].filterMap GustCall.gust =
      [⟨true, 2, 90⟩, ⟨false, 3, 180⟩, ⟨true, 3, 270⟩] := by
    have hdirection : (CJson.number (180 : ℚ)).valueint = 180 := valueint_number (by decide)
    simp [GustCall.gust, skyNumbers, rapidWind, items, CJson.child, getObjectItemCaseSensitive,
      findChild, hdirection, CJson.valuedouble]
  have shown (g) (h : [.sky 0 (skyNumbers 2 90), .wind (some (rapidWind 3 180)),
      .sky 60 (skyNumbers 3 270)].foldlM (GustCall.run calmHost) (.initial .zero none) = .ok g) :
      GustWindow [⟨true, 2, 90⟩, ⟨false, 3, 180⟩, ⟨true, 3, 270⟩] g := hgusts ▸ gustWindow_run h
  exact ⟨_, rfl, shown _ rfl, by decide +kernel, by decide +kernel⟩

-- ---------------------------------------------------------------------------
-- In the program
-- ---------------------------------------------------------------------------

section
variable {K : Type} [Field K] [LinearOrder K] {host : Host K} {config : Config K}

theorem ShowsGust.foldl_store (now : Int) {gusts : List (Gust K)} {g : Globals K}
    (h : ShowsGust gusts g) (os : List (Observation K)) :
    ShowsGust (gusts ++ os.filterMap Observation.gust)
      (os.foldl (Globals.store host config now) g) := by
  induction os generalizing gusts g with
  | nil =>
    rw [List.filterMap_nil, List.append_nil]
    exact h
  | cons o os ih =>
    have hstep := ih (h.store host config now o)
    rw [List.append_assoc] at hstep
    rw [List.filterMap_cons]
    cases hgust : o.gust with
    | none => simpa [hgust] using hstep
    | some gust => simpa [hgust] using hstep

theorem gustWindow_loop [FloorRing K] {t : LocalTime} {totals : RainTotals K}
    {rainfallJson : Option (CJson K)} {arrivals : List Arrival} {s : LoopState K}
    (h : loop host config (.initial t totals rainfallJson) arrivals = .ok s) :
    GustWindow ((observationsOf arrivals).filterMap Observation.gust) s.globals := by
  refine ShowsGust.gustWindow (loop_induction
    (P := fun past s => ShowsGust ((observationsOf past).filterMap Observation.gust) s.globals)
    ?_ (fun past a m s' signal hm hround => ?_) h)
  · exact .initial totals rainfallJson
  have hcheck : ShowsGust ((observationsOf past).filterMap Observation.gust)
      (checkDay host a.time m).globals := by
    unfold checkDay
    dsimp only
    split
    · exact hm.congr rfl rfl rfl
    · exact hm
  rw [hround.globals, observationsOf, List.flatMap_append, List.flatMap_singleton,
    List.filterMap_append]
  exact hcheck.foldl_store a.time a.observations

end

end WfPublisher
