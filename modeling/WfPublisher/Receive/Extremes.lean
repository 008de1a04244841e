import Mathlib
import WfPublisher.Lib.Extremes
import WfPublisher.Receive.Gating

/-!
# High and low

The extremes of the record are those of the air rows since the day of the month
last changed, and a sensor's are those of all its rows. What the day's extremes
need besides is that no older row shows in them.
-/

namespace WfPublisher

open Extremes Keyed

section
variable {K : Type} [Field K] [LinearOrder K]

-- ---------------------------------------------------------------------------
-- Tracking
-- ---------------------------------------------------------------------------

def airTemps (os : List (Observation K)) : List K :=
  os.filterMap fun
    | .air o => some o.temperature
    | _ => none

/-- The extremes are those of `temps`, of which the last is the temperature. -/
structure Tracked (temps : List K) (p : AirPart K) : Prop where
  high : p.temperatureHigh = temps.foldl max (-100.0)
  low : p.temperatureLow = temps.foldl min 150.0
  last : ∀ t ∈ temps.getLast?, p.temperature = t

variable (host : Host K) (config : Config K) (now : Int)

omit [Field K] [LinearOrder K] in
theorem airTemps_append (os os' : List (Observation K)) :
    airTemps (os ++ os') = airTemps os ++ airTemps os' := List.filterMap_append

omit [Field K] [LinearOrder K] in
theorem airTemps_of_ne {o : Observation K} (ho : ∀ row, o ≠ .air row) : airTemps [o] = [] := by
  cases o with
  | air row => exact absurd rfl (ho row)
  | _ => rfl

theorem Tracked.store {temps : List K} {g : Globals K} (h : Tracked temps g.wd.airPart)
    (o : Observation K) :
    Tracked (temps ++ airTemps [o]) (g.store host config now o).wd.airPart := by
  cases o with
  | air row =>
    have htemps : temps ++ airTemps [.air row] = temps ++ [row.temperature] := rfl
    rw [htemps]
    refine ⟨?_, ?_, ?_⟩
    · rw [List.foldl_append, ← h.high]
      rfl
    · rw [List.foldl_append, ← h.low]
      rfl
    · simp [Globals.store, Globals.storeAir, WeatherData.airPart]
  | _ =>
    rw [airTemps_of_ne (by simp), List.append_nil, airPart_store host config now g (by simp)]
    exact h

theorem Tracked.foldl_store {temps : List K} {g : Globals K} (h : Tracked temps g.wd.airPart)
    (os : List (Observation K)) :
    Tracked (temps ++ airTemps os) (os.foldl (Globals.store host config now) g).wd.airPart := by
  induction os generalizing temps g with
  | nil =>
    rw [airTemps, List.filterMap_nil, List.append_nil]
    exact h
  | cons o os ih =>
    have hstep := ih (h.store host config now o)
    rwa [List.append_assoc, ← airTemps_append] at hstep

-- ---------------------------------------------------------------------------
-- Since the day of the month changed
-- ---------------------------------------------------------------------------

variable [FloorRing K]

def mday (a : Arrival) : Int := (localtime (host.zone a.time)).tmMday

/-- The datagrams since the extremes were last reset, when the day of the month
is `day` now. -/
def sinceReset (day : Int) (past : List Arrival) : List Arrival :=
  past.rtakeWhile fun b => mday host b = day

def temperatures (arrivals : List Arrival) : List K :=
  arrivals.flatMap fun b => airTemps b.observations

structure TracksDay (past : List Arrival) (s : LoopState K) : Prop where
  tracked : Tracked (temperatures (sinceReset host s.start.tmMday past)) s.globals.wd.airPart
  last : ∀ b ∈ past.getLast?, mday host b = s.start.tmMday

variable {host config} {past : List Arrival} {a : Arrival} {s s' : LoopState K} {signal : Bool}

theorem TracksDay.checkDay (h : TracksDay host past s) (a : Arrival) :
    Tracked (temperatures (sinceReset host (mday host a) past))
      (checkDay host a.time s).globals.wd.airPart ∧
    (checkDay host a.time s).start.tmMday = mday host a := by
  by_cases hday : mday host a = s.start.tmMday
  · have hsame : WfPublisher.checkDay host a.time s = s := if_neg (not_not_intro hday)
    rw [hsame, hday]
    exact ⟨h.tracked, rfl⟩
  · have hreset : sinceReset host (mday host a) past = [] := by
      rcases List.eq_nil_or_concat' past with rfl | ⟨past, b, rfl⟩
      · exact List.rtakeWhile_nil _
      · refine List.rtakeWhile_concat_neg _ _ _ ?_
        simpa [h.last b (by simp)] using Ne.symm hday
    have hchanged : WfPublisher.checkDay host a.time s = _ := if_pos hday
    rw [hchanged, hreset]
    exact ⟨⟨rfl, rfl, nofun⟩, rfl⟩

theorem TracksDay.round (h : TracksDay host past s) (hround : Round host config a s s' signal) :
    TracksDay host (past ++ [a]) s' := by
  obtain ⟨htracked, hstart⟩ := h.checkDay a
  rw [← hround.start] at hstart
  refine ⟨?_, by simp [hstart]⟩
  have hsince : sinceReset host s'.start.tmMday (past ++ [a]) =
      sinceReset host (mday host a) past ++ [a] := by
    rw [hstart]
    exact List.rtakeWhile_concat_pos _ _ _ (by simp)
  rw [hsince, hround.globals, temperatures, List.flatMap_append, List.flatMap_singleton]
  exact htracked.foldl_store host config a.time a.observations

theorem tracksDay_loop {t : LocalTime} {totals : RainTotals K} {rainfallJson : Option (CJson K)}
    (h : loop host config (.initial t totals rainfallJson) past = .ok s) : TracksDay host past s :=
  loop_induction (P := TracksDay host) ⟨⟨rfl, rfl, nofun⟩, nofun⟩
    (fun _ _ _ _ _ hm hround => hm.round hround) h

-- ---------------------------------------------------------------------------
-- Sane extremes
-- ---------------------------------------------------------------------------

theorem storesAir_iff {b : Arrival} : StoresAir K b ↔ airTemps (K := K) b.observations ≠ [] := by
  unfold StoresAir airTemps
  rw [ne_eq, List.filterMap_eq_nil_iff]
  push Not
  constructor
  · rintro ⟨o, ho⟩
    exact ⟨.air o, ho, nofun⟩
  · rintro ⟨o, ho, hne⟩
    cases o with
    | air row => exact ⟨row, ho⟩
    | _ => exact absurd rfl hne

def SaneExtremes (wd : WeatherData K) : Prop :=
  wd.temperatureLow ≤ wd.temperature ∧ wd.temperature ≤ wd.temperatureHigh

omit [FloorRing K] in
theorem Tracked.sane_iff [IsStrictOrderedRing K] {temps : List K} {wd : WeatherData K}
    (h : Tracked temps wd.airPart) : SaneExtremes wd ↔ temps ≠ [] := by
  constructor
  · rintro ⟨hlow, hhigh⟩ rfl
    have hle := hlow.trans hhigh
    have hnoLow : wd.temperatureLow = 150.0 := h.low
    have hnoHigh : wd.temperatureHigh = -100.0 := h.high
    rw [hnoLow, hnoHigh] at hle
    norm_num at hle
  · intro hne
    have hlast : wd.temperature = temps.getLast hne :=
      h.last _ (List.getLast?_eq_getLast_of_ne_nil hne)
    have hmem : wd.temperature ∈ temps := hlast ▸ List.getLast_mem hne
    exact ⟨h.low.le.trans (foldl_min_le _ hmem), (le_foldl_max _ hmem).trans h.high.ge⟩

theorem loopBody_tracked {t : LocalTime} {totals : RainTotals K}
    {rainfallJson : Option (CJson K)}
    (hpast : loop host config (.initial t totals rainfallJson) past = .ok s)
    (ha : loopBody host config a s = .ok (s', signal)) :
    Tracked (temperatures (sinceReset host (mday host a) past ++ [a])) s'.globals.wd.airPart := by
  have htracks := (tracksDay_loop hpast).round (loopBody_round ha)
  have hstart : s'.start.tmMday = mday host a := (htracks.last a (by simp)).symm
  have hsince : sinceReset host (mday host a) (past ++ [a]) =
      sinceReset host (mday host a) past ++ [a] := List.rtakeWhile_concat_pos _ _ _ (by simp)
  rw [← hsince, ← hstart]
  exact htracks.tracked

theorem saneExtremes_iff [IsStrictOrderedRing K] {t : LocalTime} {totals : RainTotals K}
    {rainfallJson : Option (CJson K)}
    (hpast : loop host config (.initial t totals rainfallJson) past = .ok s)
    (ha : loopBody host config a s = .ok (s', true)) :
    SaneExtremes s'.globals.wd ↔
      ∃ b ∈ sinceReset host (mday host a) past ++ [a], StoresAir K b := by
  rw [(loopBody_tracked hpast ha).sane_iff, temperatures, ne_eq, List.flatMap_eq_nil_iff]
  push Not
  simp only [storesAir_iff]

end

theorem midnightBetween_insane : ∃ s s',
    loop calmHost quietConfig (.initial (utc 0) .zero none) [airRows 86340] = .ok s ∧
    loopBody calmHost quietConfig (skyRows 86400) s = .ok (s', true) ∧
    ¬ SaneExtremes s'.globals.wd := by
  have insane (s s')
      (hpast : loop calmHost quietConfig (.initial (utc 0) .zero none) [airRows 86340] = .ok s)
      (ha : loopBody calmHost quietConfig (skyRows 86400) s = .ok (s', true)) :
      ¬ SaneExtremes s'.globals.wd := by
    rw [(loopBody_tracked hpast ha).sane_iff, not_not]
    decide +kernel
  exact ⟨_, _, rfl, rfl, insane _ _ rfl rfl⟩

theorem oneDay_sane : ∃ s s',
    loop calmHost quietConfig (.initial (utc 0) .zero none) [airRows 0] = .ok s ∧
    loopBody calmHost quietConfig (skyRows 60) s = .ok (s', true) ∧
    SaneExtremes s'.globals.wd := by
  have sane (s s')
      (hpast : loop calmHost quietConfig (.initial (utc 0) .zero none) [airRows 0] = .ok s)
      (ha : loopBody calmHost quietConfig (skyRows 60) s = .ok (s', true)) :
      SaneExtremes s'.globals.wd := by
    refine (saneExtremes_iff hpast ha).mpr ⟨airRows 0, ?_, _, List.mem_cons_self⟩
    have hsame : sinceReset calmHost (mday calmHost (skyRows 60)) [airRows 0] = [airRows 0] :=
      List.rtakeWhile_concat_pos _ [] _ (by decide +kernel)
    simp [hsame]
  exact ⟨_, _, rfl, rfl, sane _ _ rfl rfl⟩

end WfPublisher
