import Mathlib

/-!
# Directions on a compass

Degrees clockwise from north, modulo 360. In an arc each direction has an offset
from the start and a number of turns it lies beyond. Their mean as numbers is in
the arc where the mean of the offsets makes up for the turns.
-/

namespace Compass

/-- A part of the compass that is shorter than its half. -/
structure Arc (K : Type*) [Field K] [LinearOrder K] where
  start : K
  length : K
  nonneg : 0 ≤ length
  short : length < 180.0

section
variable {K : Type*} [Field K] [LinearOrder K] [FloorRing K]

/-- How often north is passed on the way from the start of the arc to `x`. -/
def turns (start x : K) : Int := -⌊(x - start) / 360.0⌋

def offset (start x : K) : K := x - start + 360.0 * turns start x

def Arc.Contains (arc : Arc K) (x : K) : Prop := offset arc.start x ≤ arc.length

instance (arc : Arc K) (x : K) : Decidable (arc.Contains x) := inferInstanceAs (Decidable (_ ≤ _))

/-- Where the mean lies from the start: the mean of the offsets, set back by the
turns that do not cancel out. -/
def meanOffset (start : K) (xs : List K) : K :=
  ((xs.map (offset start)).sum - 360.0 * ((xs.map (turns start)).sum % xs.length : Int)) /
    xs.length

variable [IsStrictOrderedRing K] {arc : Arc K} {start x v : K} {xs : List K}

theorem offset_nonneg (start x : K) : 0 ≤ offset start x := by
  have hfloor := Int.floor_le ((x - start) / 360.0)
  rw [le_div_iff₀ (by norm_num)] at hfloor
  unfold offset turns
  push_cast
  linarith

theorem offset_lt (start x : K) : offset start x < 360 := by
  have hfloor := Int.lt_floor_add_one ((x - start) / 360.0)
  rw [div_lt_iff₀ (by norm_num)] at hfloor
  unfold offset turns
  norm_num at *
  linarith

omit [FloorRing K] in
theorem Arc.length_lt (arc : Arc K) : arc.length < 180 := by
  have := arc.short
  norm_num at this
  exact this

theorem contains_iff_exists : arc.Contains x ↔
    ∃ k : Int, arc.start ≤ x + 360 * k ∧ x + 360 * k ≤ arc.start + arc.length := by
  have hoffset : offset arc.start x = x - arc.start + 360 * turns arc.start x := by
    rw [offset]
    norm_num
  have hnonneg := offset_nonneg arc.start x
  have hlt := offset_lt arc.start x
  constructor
  · intro h
    unfold Arc.Contains at h
    exact ⟨turns arc.start x, by linarith, by linarith⟩
  · rintro ⟨k, hlower, hupper⟩
    have hshort := arc.length_lt
    -- two numbers of turns with offsets in the same turn are equal
    have hk : k = turns arc.start x := by
      have hge : k - turns arc.start x < 1 := by
        have : (k : K) - turns arc.start x < 1 := by linarith
        exact_mod_cast this
      have hle : turns arc.start x - k < 1 := by
        have : (turns arc.start x : K) - k < 1 := by linarith
        exact_mod_cast this
      omega
    subst hk
    unfold Arc.Contains
    linarith

omit [FloorRing K] in
theorem eq_zero_or_one {k : Int} (hlower : -360 < v) (hupper : v < 180) (hstart : -1 < v + 360 * k)
    (hend : v + 360 * k < 181) : k = 0 ∨ k = 1 := by
  have hnonneg : -1 < k := by
    have : (-1 : K) < k := by linarith
    exact_mod_cast this
  have hsmall : k < 2 := by
    have : (k : K) < 2 := by linarith
    exact_mod_cast this
  omega

theorem contains_iff_of_eq {k : Int} (hx : x = arc.start + v + 360 * k) (hlower : -360 < v)
    (hupper : v ≤ arc.length) : arc.Contains x ↔ 0 ≤ v ∨ v + 360 ≤ arc.length := by
  have hshort := arc.length_lt
  rw [contains_iff_exists, hx]
  constructor
  · rintro ⟨j, hstart, hend⟩
    have hturn : arc.start + v + 360 * k + 360 * j = arc.start + (v + 360 * (k + j : Int)) := by
      push_cast
      ring
    rw [hturn] at hstart hend
    obtain hj | hj := eq_zero_or_one (k := k + j) hlower (by linarith) (by linarith) (by linarith)
    · rw [hj] at hstart
      left
      simpa using hstart
    · rw [hj] at hend
      right
      simpa using hend
  · rintro (hv | hv)
    · refine ⟨-k, ?_, ?_⟩
      · push_cast
        linarith
      · push_cast
        linarith
    · refine ⟨1 - k, ?_, ?_⟩
      · push_cast
        linarith
      · push_cast
        linarith

omit [IsStrictOrderedRing K] in
theorem sum_eq (start : K) (xs : List K) : xs.sum =
    xs.length * start + (xs.map (offset start)).sum - 360 * ((xs.map (turns start)).sum : Int) := by
  induction xs with
  | nil => simp
  | cons x xs ih =>
    simp only [List.sum_cons, List.map_cons, List.length_cons, ih, offset]
    push_cast
    norm_num
    ring

omit [IsStrictOrderedRing K] in
theorem mean_eq (start : K) (hne : xs ≠ []) : ∃ k : Int,
    xs.sum / xs.length = start + meanOffset start xs + 360 * k := by
  have hcount : (xs.length : K) ≠ 0 := by
    exact_mod_cast (List.length_pos_iff.mpr hne).ne'
  have hturns : ((xs.map (turns start)).sum : K) = xs.length *
      ((xs.map (turns start)).sum / xs.length : Int) +
        ((xs.map (turns start)).sum % xs.length : Int) := by
    exact_mod_cast (Int.mul_ediv_add_emod (xs.map (turns start)).sum xs.length).symm
  refine ⟨-((xs.map (turns start)).sum / xs.length : Int), ?_⟩
  rw [sum_eq start xs, hturns, meanOffset]
  push_cast
  norm_num
  field_simp
  ring

theorem meanOffset_bounds (hne : xs ≠ []) (h : ∀ x ∈ xs, arc.Contains x) :
    -360 < meanOffset arc.start xs ∧ meanOffset arc.start xs ≤ arc.length := by
  have hcount : (0 : K) < xs.length := by
    exact_mod_cast List.length_pos_iff.mpr hne
  have hsum : 0 ≤ (xs.map (offset arc.start)).sum := by
    refine List.sum_nonneg fun y hy => ?_
    obtain ⟨x, -, rfl⟩ := List.mem_map.mp hy
    exact offset_nonneg arc.start x
  have hsum' : (xs.map (offset arc.start)).sum ≤ xs.length * arc.length := by
    have := List.sum_le_card_nsmul (xs.map (offset arc.start)) arc.length fun y hy => by
      obtain ⟨x, hx, rfl⟩ := List.mem_map.mp hy
      exact h x hx
    simpa using this
  have hturns : (0 : K) ≤ ((xs.map (turns arc.start)).sum % xs.length : Int) := by
    exact_mod_cast Int.emod_nonneg _ (by simpa using hne)
  have hturns' : (((xs.map (turns arc.start)).sum % xs.length : Int) : K) < xs.length := by
    have : (xs.map (turns arc.start)).sum % xs.length < xs.length :=
      Int.emod_lt_of_pos _ (by exact_mod_cast List.length_pos_iff.mpr hne)
    exact_mod_cast this
  unfold meanOffset
  norm_num
  constructor
  · rw [lt_div_iff₀ hcount]
    linarith
  · rw [div_le_iff₀ hcount]
    linarith

theorem contains_mean_iff (hne : xs ≠ []) (h : ∀ x ∈ xs, arc.Contains x) :
    arc.Contains (xs.sum / xs.length) ↔
      0 ≤ meanOffset arc.start xs ∨ meanOffset arc.start xs + 360 ≤ arc.length := by
  obtain ⟨k, hk⟩ := mean_eq arc.start hne
  obtain ⟨hlower, hupper⟩ := meanOffset_bounds hne h
  exact contains_iff_of_eq hk hlower hupper

-- ---------------------------------------------------------------------------
-- Whole degrees
-- ---------------------------------------------------------------------------

omit [IsStrictOrderedRing K] in
def Arc.RoundsInto (arc : Arc K) (v : K) : Prop :=
  ⌈arc.start⌉ ≤ arc.start + v + 0.5 ∧ arc.start + v + 0.5 < ⌊arc.start + arc.length⌋ + 1.0

instance (arc : Arc K) (v : K) : Decidable (arc.RoundsInto v) :=
  inferInstanceAs (Decidable (_ ∧ _))

theorem contains_int_iff {n : Int} : arc.Contains (n : K) ↔
    ∃ k : Int, ⌈arc.start⌉ ≤ n + 360 * k ∧ n + 360 * k ≤ ⌊arc.start + arc.length⌋ := by
  rw [contains_iff_exists]
  refine exists_congr fun k => and_congr ?_ ?_
  · rw [Int.ceil_le]
    push_cast
    rfl
  · rw [Int.le_floor]
    push_cast
    rfl

theorem contains_round_iff {k : Int} (hx : x = arc.start + v + 360 * k) (hlower : -360 < v)
    (hupper : v ≤ arc.length) : arc.Contains ((⌊x + 0.5⌋ : Int) : K) ↔
      arc.RoundsInto v ∨ arc.RoundsInto (v + 360) := by
  have hshort := arc.length_lt
  have hround (j : Int) : ⌈arc.start⌉ ≤ ⌊x + 0.5⌋ + 360 * j ∧
      ⌊x + 0.5⌋ + 360 * j ≤ ⌊arc.start + arc.length⌋ ↔
      arc.RoundsInto (v + 360 * (k + j : Int)) := by
    have hfloor : ⌊x + 0.5⌋ + 360 * j = ⌊arc.start + (v + 360 * (k + j : Int)) + 0.5⌋ := by
      rw [← Int.floor_add_intCast, hx]
      push_cast
      ring_nf
    rw [hfloor, Int.le_floor, ← Int.lt_add_one_iff, Int.floor_lt, Arc.RoundsInto]
    norm_num
  rw [contains_int_iff]
  simp only [hround]
  constructor
  · rintro ⟨j, hj⟩
    have hstart := (Int.le_ceil arc.start).trans hj.1
    have hend := hj.2.trans_le (add_le_add_left (Int.floor_le (arc.start + arc.length)) 1.0)
    norm_num at hstart hend
    have hcast : (k : K) + j = (k + j : Int) := by push_cast; rfl
    rw [hcast] at hstart hend
    obtain hzero | hone :=
      eq_zero_or_one (k := k + j) hlower (by linarith) (by linarith) (by linarith)
    · left
      simpa [hzero] using hj
    · right
      simpa [hone] using hj
  · rintro (hv | hv)
    · exact ⟨-k, by simpa using hv⟩
    · exact ⟨1 - k, by simpa using hv⟩

-- ---------------------------------------------------------------------------
-- The sixteen points
-- ---------------------------------------------------------------------------

def Near (p x : K) : Prop := ∃ k : Int, |x - p - 360.0 * k| ≤ 11.25

/-- The nearest of the points, the clockwise one of two. -/
def Points (n : Nat) (x : K) : Prop :=
  Near (22.5 * (n : K)) x ∧ ¬ Near (22.5 * ((n + 1 : Nat) : K)) x

omit [FloorRing K] in
theorem points_iff {n : Nat} : Points n x ↔
    ∃ k : Int, -11.25 ≤ x - 22.5 * n - 360.0 * k ∧ x - 22.5 * n - 360.0 * k < 11.25 := by
  constructor
  · rintro ⟨⟨k, hk⟩, hnext⟩
    obtain ⟨hlower, hupper⟩ := abs_le.mp hk
    refine ⟨k, hlower, not_le.mp fun hge => hnext ⟨k, abs_le.mpr ?_⟩⟩
    push_cast
    norm_num at *
    constructor <;> linarith
  · rintro ⟨k, hlower, hupper⟩
    refine ⟨⟨k, abs_le.mpr ⟨hlower, hupper.le⟩⟩, ?_⟩
    rintro ⟨j, hj⟩
    obtain ⟨hlower', hupper'⟩ := abs_le.mp hj
    push_cast at hlower' hupper'
    norm_num at hlower hupper hlower' hupper'
    -- the turns of the two would differ by a part of a turn
    have hpos : 0 < k - j := by
      have : (0 : K) < k - j := by linarith
      exact_mod_cast this
    have hsmall : k - j < 1 := by
      have : (k : K) - j < 1 := by linarith
      exact_mod_cast this
    exact absurd hpos (not_lt.mpr (Int.lt_add_one_iff.mp hsmall))

omit [FloorRing K] in
theorem points_unique {n m : Nat} (hn : n < 16) (hm : m < 16) (hpn : Points n x)
    (hpm : Points m x) : n = m := by
  obtain ⟨k, hlower, hupper⟩ := points_iff.mp hpn
  obtain ⟨j, hlower', hupper'⟩ := points_iff.mp hpm
  norm_num at hlower hupper hlower' hupper'
  have hgt : -1 < (n : Int) - m + 16 * (k - j) := by
    have : (-1 : K) < n - m + 16 * (k - j) := by linarith
    exact_mod_cast this
  have hlt : (n : Int) - m + 16 * (k - j) < 1 := by
    have : (n : K) - m + 16 * (k - j) < 1 := by linarith
    exact_mod_cast this
  omega

theorem exists_points (hx : 0 ≤ x) (hx' : x < 360) : ∃ n : Nat, n < 16 ∧ Points n x := by
  have hfloor := Int.floor_le ((x + 11.25) / 22.5)
  have hfloor' := Int.lt_floor_add_one ((x + 11.25) / 22.5)
  generalize ⌊(x + 11.25) / 22.5⌋ = m at hfloor hfloor'
  rw [le_div_iff₀ (by norm_num)] at hfloor
  rw [div_lt_iff₀ (by norm_num)] at hfloor'
  norm_num at hfloor hfloor'
  have hnonneg : 0 ≤ m := by
    have : (-1 : K) < m := by linarith
    have : -1 < m := by exact_mod_cast this
    omega
  have hle : m ≤ 16 := by
    have : (m : K) < 17 := by linarith
    have : m < 17 := by exact_mod_cast this
    omega
  obtain ⟨n, rfl⟩ := Int.eq_ofNat_of_zero_le hnonneg
  push_cast at hfloor hfloor'
  obtain hlt | heq := lt_or_eq_of_le hle
  · refine ⟨n, by exact_mod_cast hlt, points_iff.mpr ⟨0, ?_, ?_⟩⟩ <;>
      · norm_num
        linarith
  · have hn : (n : K) = 16 := by exact_mod_cast heq
    rw [hn] at hfloor hfloor'
    refine ⟨0, by norm_num, points_iff.mpr ⟨1, ?_, ?_⟩⟩ <;>
      · norm_num
        linarith

end

end Compass
