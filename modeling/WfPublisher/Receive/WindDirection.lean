import WfPublisher.Lib.Compass
import WfPublisher.Receive.Registry

/-!
# The name of the wind

`DegreesToCardinal` against the sixteen points of the compass, and the four bytes
of `wind_dir` that each sky row copies the name into.
-/

namespace WfPublisher

open Compass

-- ---------------------------------------------------------------------------
-- The names of the points
-- ---------------------------------------------------------------------------

def compassNames : List CString :=
  ["N".toList, "NNE".toList, "NE".toList, "ENE".toList, "E".toList, "ESE".toList, "SE".toList,
    "SSE".toList, "S".toList, "SSW".toList, "SW".toList, "WSW".toList, "W".toList, "WNW".toList,
    "NW".toList, "NNW".toList]

theorem compassNames_length {n : Nat} {name : CString} (h : compassNames[n]? = some name) :
    n < 16 := by
  obtain ⟨hlt, -⟩ := List.getElem?_eq_some_iff.mp h
  exact hlt

theorem compassNames_fit : ∀ name ∈ compassNames,
    name ≠ [] ∧ name.length ≤ 3 ∧ Char.ofNat 0 ∉ name := by
  unfold compassNames
  decide +kernel

section
variable {K : Type} [Field K] [LinearOrder K]

/-- The name of the point that is nearest to a direction, the clockwise one of two. -/
def NameOf (deg : K) (name : CString) : Prop :=
  ∃ n, compassNames[n]? = some name ∧ Points n deg

/-- The first name whose sector, the one of point `n` for the first of them, ends
behind the direction. -/
def sectorName : List CString → Nat → K → CString
  | [], _, _ => []
  | name :: rest, n, deg =>
    if deg < 22.5 * (n : K) + 11.25 then name else sectorName rest (n + 1) deg

variable [IsStrictOrderedRing K] {deg lo hi : K} {name rest rest' : CString} {n : Nat}

theorem existsUnique_nameOf [FloorRing K] (h0 : 0 ≤ deg) (h360 : deg < 360) :
    ∃! name, NameOf deg name := by
  obtain ⟨n, hn, hpoint⟩ := exists_points h0 h360
  have hname : compassNames[n]? = some (compassNames.get ⟨n, hn⟩) := List.getElem?_eq_getElem hn
  refine ⟨_, ⟨n, hname, hpoint⟩, ?_⟩
  rintro name ⟨m, hm, hpoint'⟩
  cases points_unique hn (compassNames_length hm) hpoint hpoint'
  exact Option.some.inj (hm.symm.trans hname)

-- ---------------------------------------------------------------------------
-- The sectors of the source
-- ---------------------------------------------------------------------------

omit [IsStrictOrderedRing K] in
theorem sector_step (hhi : hi = 22.5 * (n : K) + 11.25) (hlo : lo ≤ deg)
    (hrest : hi ≤ deg → rest = rest') :
    (if deg ≥ lo ∧ deg < hi then name else rest) =
      if deg < 22.5 * (n : K) + 11.25 then name else rest' := by
  rw [← hhi]
  by_cases hlt : deg < hi
  · rw [if_pos ⟨hlo, hlt⟩, if_pos hlt]
  · rw [if_neg fun h => hlt h.2, if_neg hlt, hrest (not_lt.mp hlt)]

omit [Field K] [IsStrictOrderedRing K] in
theorem sector_skip (h : deg < lo) :
    (if deg ≥ lo ∧ deg < hi then name else rest) = rest :=
  if_neg fun hsector => absurd hsector.1 (not_le.mpr h)

theorem degreesToCardinal_eq (hlo : 11.25 ≤ deg) :
    degreesToCardinal deg = sectorName compassNames.tail 1 deg := by
  unfold degreesToCardinal
  rw [if_neg fun h => absurd h.2 (not_lt.mpr hlo)]
  -- the end of each sector is the start of the next
  iterate 15 refine sector_step (by norm_num) (by assumption) fun _ => ?_
  rfl

theorem degreesToCardinal_before (h : deg < 11.25) : degreesToCardinal deg = [] := by
  unfold degreesToCardinal
  have hnorth : ¬(deg > 348.75 ∧ deg < 11.25) := by
    intro hboth
    have hlt := hboth.1.trans h
    norm_num at hlt
  rw [if_neg hnorth, sector_skip h]
  iterate 14 refine (sector_skip (h.trans_le (by norm_num))).trans ?_
  rfl

theorem sectorName_eq {names : List CString} {m : Nat} (hname : names[m]? = some name)
    (hlower : 22.5 * ((n + m : Nat) : K) - 11.25 ≤ deg)
    (hupper : deg < 22.5 * ((n + m : Nat) : K) + 11.25) : sectorName names n deg = name := by
  induction names generalizing n m with
  | nil => cases hname
  | cons first rest ih =>
    cases m with
    | zero =>
      cases hname
      exact if_pos hupper
    | succ m =>
      have hbehind : ¬ deg < 22.5 * (n : K) + 11.25 := by
        have hm : (0 : K) ≤ m := Nat.cast_nonneg m
        push_cast at hlower
        norm_num at hlower ⊢
        linarith
      rw [sectorName, if_neg hbehind]
      have hmove : n + (m + 1) = n + 1 + m := by omega
      rw [hmove] at hlower hupper
      exact ih hname hlower hupper

theorem sectorName_behind {names : List CString}
    (h : 22.5 * ((n + names.length : Nat) : K) - 11.25 ≤ deg) : sectorName names n deg = [] := by
  induction names generalizing n with
  | nil => rfl
  | cons first rest ih =>
    have hbehind : ¬ deg < 22.5 * (n : K) + 11.25 := by
      have hlength : (0 : K) ≤ rest.length := Nat.cast_nonneg _
      push_cast [List.length_cons] at h
      norm_num at h ⊢
      linarith
    rw [sectorName, if_neg hbehind]
    refine ih ?_
    have hmove : n + (first :: rest).length = n + 1 + rest.length := by
      rw [List.length_cons]
      omega
    rwa [hmove] at h

-- ---------------------------------------------------------------------------
-- Where the name is right
-- ---------------------------------------------------------------------------

theorem points_away [FloorRing K] (hn : n < 16) (hlower : 11.25 ≤ deg) (hupper : deg < 348.75)
    (hpoint : Points n deg) :
    0 < n ∧ 22.5 * (n : K) - 11.25 ≤ deg ∧ deg < 22.5 * (n : K) + 11.25 := by
  norm_num at hlower hupper ⊢
  obtain ⟨k, hstart, hend⟩ := points_iff.mp hpoint
  have hn' : (n : K) ≤ 15 := by exact_mod_cast Nat.le_of_lt_succ hn
  have hn0 : (0 : K) ≤ n := Nat.cast_nonneg n
  norm_num at hstart hend
  have hturn : k = 0 := by
    have hgt : (-1 : K) < k := by linarith
    have hlt : (k : K) < 1 := by linarith
    have hgt : -1 < k := by exact_mod_cast hgt
    have hlt : k < 1 := by exact_mod_cast hlt
    omega
  rw [hturn] at hstart hend
  norm_num at hstart hend
  refine ⟨Nat.pos_of_ne_zero ?_, by linarith, by linarith⟩
  rintro rfl
  norm_num at hend
  linarith

theorem degreesToCardinal_right [FloorRing K] (hlower : 11.25 ≤ deg) (hupper : deg < 348.75) :
    NameOf deg (degreesToCardinal deg) := by
  obtain ⟨n, hn, hpoint⟩ : ∃ n < 16, Points n deg := by
    norm_num at hlower hupper
    exact exists_points (by linarith) (by linarith)
  obtain ⟨hpos, hstart, hend⟩ := points_away hn hlower hupper hpoint
  refine ⟨n, ?_, hpoint⟩
  cases n with
  | zero => cases hpos
  | succ m =>
    obtain ⟨name, hget⟩ : ∃ name, compassNames.tail[m]? = some name :=
      ⟨_, List.getElem?_eq_getElem (Nat.lt_of_succ_lt_succ hn)⟩
    rw [← Nat.add_comm 1 m] at hstart hend
    rw [degreesToCardinal_eq hlower, sectorName_eq hget hstart hend, ← hget, List.getElem?_tail]

theorem degreesToCardinal_behind (h : 348.75 ≤ deg) : degreesToCardinal deg = [] := by
  rw [degreesToCardinal_eq (le_trans (by norm_num) h)]
  refine sectorName_behind (le_trans ?_ h)
  norm_num [compassNames]

theorem nameOf_degreesToCardinal_iff [FloorRing K] :
    NameOf deg (degreesToCardinal deg) ↔ 11.25 ≤ deg ∧ deg < 348.75 := by
  have hempty : ¬ NameOf deg [] := by
    rintro ⟨n, hn, -⟩
    exact (compassNames_fit [] (List.mem_of_getElem? hn)).1 rfl
  constructor
  · intro hname
    constructor
    · refine not_lt.mp fun hlt => hempty ?_
      rwa [degreesToCardinal_before hlt] at hname
    · refine not_le.mp fun hge => hempty ?_
      rwa [degreesToCardinal_behind hge] at hname
  · rintro ⟨hlower, hupper⟩
    exact degreesToCardinal_right hlower hupper

-- ---------------------------------------------------------------------------
-- The bytes of the record
-- ---------------------------------------------------------------------------

def nul : Char := Char.ofNat 0

def strncpy (dest : List Char) (src : CString) (n : Nat) : List Char :=
  (src.take n).rightpad n nul ++ dest.drop n

def textAt (bytes : List Char) : CString := bytes.takeWhile (· ≠ nul)

def windDirBytes (name : CString) : List Char := name.rightpad 4 nul

omit [IsStrictOrderedRing K] in
/-- `wind_dir` in a zeroed record after rows with these directions. -/
def windDirAfter (degs : List K) : List Char :=
  degs.foldl (fun windDir deg => strncpy windDir (degreesToCardinal deg) 3) (List.replicate 4 nul)

theorem degreesToCardinal_fits [FloorRing K] (deg : K) :
    (degreesToCardinal deg).length ≤ 3 ∧ nul ∉ degreesToCardinal deg := by
  have hempty : ([] : CString).length ≤ 3 ∧ nul ∉ ([] : CString) := by simp
  by_cases hlower : 11.25 ≤ deg
  · by_cases hupper : deg < 348.75
    · obtain ⟨n, hn, -⟩ := degreesToCardinal_right hlower hupper
      exact (compassNames_fit _ (List.mem_of_getElem? hn)).2
    · rwa [degreesToCardinal_behind (not_lt.mp hupper)]
  · rwa [degreesToCardinal_before (not_le.mp hlower)]

theorem textAt_windDirBytes {name : CString} (hnul : nul ∉ name) :
    textAt (windDirBytes name) = name := by
  have hname : ∀ c ∈ name, decide (c ≠ nul) = true := by
    intro c hc
    refine decide_eq_true ?_
    rintro rfl
    exact hnul hc
  unfold textAt windDirBytes List.rightpad
  rw [List.takeWhile_append_of_pos hname]
  cases 4 - name.length <;> simp [List.replicate_succ]

theorem strncpy_drop (windDir : List Char) (src : CString) :
    (strncpy windDir src 3).drop 3 = windDir.drop 3 := by
  have hlength : ((src.take 3).rightpad 3 nul).length = 3 := by
    rw [List.length_rightpad, List.length_take]
    omega
  rw [strncpy, List.drop_append, hlength, List.drop_eq_nil_of_le hlength.le, Nat.sub_self]
  rfl

theorem strncpy_eq {windDir : List Char} {src : CString} (hlast : windDir.drop 3 = [nul])
    (hsrc : src.length ≤ 3) : strncpy windDir src 3 = windDirBytes src := by
  have hcount : 4 - src.length = (3 - src.length) + 1 := by omega
  unfold strncpy windDirBytes List.rightpad
  rw [List.take_of_length_le hsrc, hlast, hcount, List.replicate_succ', List.append_assoc]

omit [IsStrictOrderedRing K] in
theorem windDirAfter_drop (degs : List K) : (windDirAfter degs).drop 3 = [nul] := by
  unfold windDirAfter
  induction degs using List.reverseRecOn with
  | nil => rfl
  | append_singleton degs deg ih =>
    rw [List.foldl_append]
    exact (strncpy_drop _ _).trans ih

theorem windDirAfter_concat [FloorRing K] (degs : List K) (deg : K) :
    windDirAfter (degs ++ [deg]) = windDirBytes (degreesToCardinal deg) := by
  have hlast := strncpy_eq (windDirAfter_drop degs) (degreesToCardinal_fits deg).1
  rw [← hlast, windDirAfter, List.foldl_append]
  rfl

theorem windDirAfter_nameOf_iff [FloorRing K] (degs : List K) :
    (∃ name, NameOf deg name ∧ windDirAfter (degs ++ [deg]) = windDirBytes name) ↔
      11.25 ≤ deg ∧ deg < 348.75 := by
  rw [← nameOf_degreesToCardinal_iff, windDirAfter_concat]
  constructor
  · rintro ⟨name, hname, hbytes⟩
    obtain ⟨n, hn, hpoint⟩ := hname
    have htext := congrArg textAt hbytes
    rw [textAt_windDirBytes (degreesToCardinal_fits deg).2,
      textAt_windDirBytes (compassNames_fit name (List.mem_of_getElem? hn)).2.2] at htext
    rw [htext]
    exact ⟨n, hn, hpoint⟩
  · intro hname
    exact ⟨_, hname, rfl⟩

-- ---------------------------------------------------------------------------
-- The record of the program
-- ---------------------------------------------------------------------------

def skyDirections (os : List (Observation K)) : List K :=
  os.filterMap fun
    | .sky o => some o.winddirection
    | _ => none

omit [Field K] [LinearOrder K] [IsStrictOrderedRing K] in
theorem skyDirections_append (os os' : List (Observation K)) :
    skyDirections (os ++ os') = skyDirections os ++ skyDirections os' :=
  List.filterMap_append

variable [FloorRing K] (host : Host K) (config : Config K)

theorem windDir_store {past : List (Observation K)} {g : Globals K}
    (h : g.wd.windDir = textAt (windDirAfter (skyDirections past))) (now : Int)
    (o : Observation K) : (g.store host config now o).wd.windDir =
      textAt (windDirAfter (skyDirections (past ++ [o]))) := by
  cases o with
  | sky row =>
    obtain ⟨_, _, _, hwd⟩ := storeSky_wd host now g row
    have hfits := degreesToCardinal_fits row.winddirection
    have hlast : skyDirections (past ++ [.sky row]) =
        skyDirections past ++ [row.winddirection] := skyDirections_append past [.sky row]
    rw [hlast, windDirAfter_concat, textAt_windDirBytes hfits.2, Globals.store, hwd]
    exact List.take_of_length_le hfits.1
  | air row => simpa [skyDirections, Globals.store, Globals.storeAir] using h
  | wind row =>
    obtain ⟨_, _, hwd⟩ := storeGust_wd g row.speed row.direction
    simpa [skyDirections, Globals.store, hwd] using h
  | sensor id =>
    have hsame : (g.storeSensor config id).wd.windDir = g.wd.windDir := by
      unfold Globals.storeSensor
      split <;> rfl
    simpa [skyDirections, Globals.store, hsame] using h
  | tower id row => simpa [skyDirections, Globals.store] using h

theorem windDir_foldl {past os : List (Observation K)} {g : Globals K}
    (h : g.wd.windDir = textAt (windDirAfter (skyDirections past))) (now : Int) :
    (os.foldl (Globals.store host config now) g).wd.windDir =
      textAt (windDirAfter (skyDirections (past ++ os))) := by
  induction os generalizing past g with
  | nil => simpa using h
  | cons o os ih =>
    have hrest := ih (windDir_store host config h now o)
    rwa [List.append_assoc] at hrest

omit [LinearOrder K] [IsStrictOrderedRing K] [FloorRing K] in
theorem checkDay_windDir (now : Int) (s : LoopState K) :
    (checkDay host now s).globals.wd.windDir = s.globals.wd.windDir := by
  unfold checkDay
  dsimp only
  split <;> rfl

variable {host config} {t : LocalTime} {totals : RainTotals K} {rainfallJson : Option (CJson K)}
  {arrivals : List Arrival} {s : LoopState K}

theorem windDir_loop (h : loop host config (.initial t totals rainfallJson) arrivals = .ok s) :
    s.globals.wd.windDir = textAt (windDirAfter (skyDirections (received K arrivals))) := by
  refine loop_induction (P := fun arrivals s => s.globals.wd.windDir =
    textAt (windDirAfter (skyDirections (received K arrivals)))) rfl ?_ h
  intro past a m s' signal hm hround
  rw [← checkDay_windDir host a.time m] at hm
  rw [hround.globals, received_concat]
  exact windDir_foldl host config hm a.time

/-- Which names are right, for a direction by itself and for the bytes that the last
sky row of a run leaves in the record. -/
theorem wind_name_right_iff {deg : K} (h0 : 0 ≤ deg) (h360 : deg < 360) :
    (∃! name, NameOf deg name) ∧
    (NameOf deg (degreesToCardinal deg) ↔ 11.25 ≤ deg ∧ deg < 348.75) ∧
    ∀ before, ((∃ name, NameOf deg name ∧ windDirAfter (before ++ [deg]) = windDirBytes name) ↔
        11.25 ≤ deg ∧ deg < 348.75) ∧
      ∀ (host : Host K) config t totals rainfallJson arrivals s,
        loop host config (.initial t totals rainfallJson) arrivals = .ok s →
        skyDirections (received K arrivals) = before ++ [deg] →
          s.globals.wd.windDir = textAt (windDirAfter (before ++ [deg])) := by
  refine ⟨existsUnique_nameOf h0 h360, nameOf_degreesToCardinal_iff, fun before => ?_⟩
  refine ⟨windDirAfter_nameOf_iff before, ?_⟩
  intro host config t totals rainfallJson arrivals s h hlast
  rw [windDir_loop h, hlast]

end

theorem wind_name_right_iff_east :
    (∃! name, NameOf (90 : ℚ) name) ∧
    (NameOf (90 : ℚ) (degreesToCardinal (90 : ℚ)) ↔ (11.25 : ℚ) ≤ 90 ∧ (90 : ℚ) < 348.75) ∧
    ∀ before : List ℚ,
      ((∃ name, NameOf (90 : ℚ) name ∧ windDirAfter (before ++ [90]) = windDirBytes name) ↔
        (11.25 : ℚ) ≤ 90 ∧ (90 : ℚ) < 348.75) ∧
      ∀ (host : Host ℚ) config t totals rainfallJson arrivals s,
        loop host config (.initial t totals rainfallJson) arrivals = .ok s →
        skyDirections (received ℚ arrivals) = before ++ [90] →
          s.globals.wd.windDir = textAt (windDirAfter (before ++ [90])) :=
  wind_name_right_iff (by norm_num) (by norm_num)

theorem north_unnamed :
    degreesToCardinal (0 : ℚ) = [] ∧ ¬ NameOf (0 : ℚ) (degreesToCardinal (0 : ℚ)) ∧
      NameOf (0 : ℚ) "N".toList := by
  refine ⟨by decide +kernel, ?_, 0, rfl, ?_⟩
  · rw [nameOf_degreesToCardinal_iff]
    norm_num
  · rw [points_iff]
    exact ⟨0, by norm_num, by norm_num⟩

end WfPublisher
