import Mathlib
import WfPublisher.Lib.Printf

/-!
# Number formats and rounding to the nearest number of a format

A format fixes a base, how many digits a number may have and, where there is
one, the lowest exponent of the last digit. Decimal numbers of so many
significant digits and binary floating point with gradual underflow are both
such formats. Rounding to a decimal format and from there to a binary one gives
back every binary number once the decimal digits are fine enough.
-/

namespace Rounding

open Printf (roundHalfEven)

variable {K : Type*} [Field K] [LinearOrder K] [FloorRing K]

-- ---------------------------------------------------------------------------
-- To the nearest integer
-- ---------------------------------------------------------------------------

theorem roundHalfEven_cases (x : K) :
    (roundHalfEven x = ⌊x⌋ ∧ Int.fract x ≤ 1 / 2 ∧ (Int.fract x = 1 / 2 → ⌊x⌋ % 2 = 0)) ∨
    (roundHalfEven x = ⌊x⌋ + 1 ∧ 1 / 2 ≤ Int.fract x ∧
      (Int.fract x = 1 / 2 → (⌊x⌋ + 1) % 2 = 0)) := by
  have hhalf : (0.5 : K) = 1 / 2 := by norm_num
  unfold roundHalfEven
  rw [hhalf]
  split_ifs with hlow hhigh heven
  · exact .inl ⟨rfl, hlow.le, fun h => absurd h hlow.ne⟩
  · exact .inr ⟨rfl, hhigh.le, fun h => absurd h hhigh.ne'⟩
  · exact .inl ⟨rfl, not_lt.mp hhigh, fun _ => heven⟩
  · exact .inr ⟨rfl, not_lt.mp hlow, fun _ => by omega⟩

section
variable [IsStrictOrderedRing K]

theorem abs_sub_roundHalfEven_le (x : K) : |x - roundHalfEven x| ≤ 1 / 2 := by
  have hfloor := Int.self_sub_floor x
  have hnonneg := Int.fract_nonneg x
  have hlt := Int.fract_lt_one x
  obtain ⟨h, hle, -⟩ | ⟨h, hle, -⟩ := roundHalfEven_cases x
  · rw [h, hfloor, abs_of_nonneg hnonneg]
    exact hle
  · rw [h, Int.cast_add, Int.cast_one, ← sub_sub, hfloor, abs_of_neg (by linarith)]
    linarith

theorem roundHalfEven_eq {x : K} {n : ℤ} (h : |x - n| < 1 / 2) : roundHalfEven x = n := by
  have hround := abs_sub_roundHalfEven_le x
  have hlt : |(roundHalfEven x - n : K)| < 1 := by
    have := abs_sub_le (roundHalfEven x : K) x n
    rw [abs_sub_comm (roundHalfEven x : K) x] at this
    linarith
  have hint : |roundHalfEven x - n| < 1 := by exact_mod_cast hlt
  exact sub_eq_zero.mp (Int.abs_lt_one_iff.mp hint)

@[simp] theorem roundHalfEven_intCast (n : ℤ) : roundHalfEven (n : K) = n :=
  roundHalfEven_eq (by simp)

theorem le_roundHalfEven {x : K} {n : ℤ} (h : (n : K) ≤ x) : n ≤ roundHalfEven x := by
  have hround := (abs_le.mp (abs_sub_roundHalfEven_le x)).2
  have hlt : (n : K) < roundHalfEven x + 1 := by linarith
  exact Int.lt_add_one_iff.mp (by exact_mod_cast hlt)

theorem roundHalfEven_le {x : K} {n : ℤ} (h : x ≤ n) : roundHalfEven x ≤ n := by
  have hround := (abs_le.mp (abs_sub_roundHalfEven_le x)).1
  have hlt : (roundHalfEven x : K) < n + 1 := by linarith
  exact Int.lt_add_one_iff.mp (by exact_mod_cast hlt)

theorem even_of_abs_sub_roundHalfEven {x : K} (h : |x - roundHalfEven x| = 1 / 2) :
    roundHalfEven x % 2 = 0 := by
  have hfloor := Int.self_sub_floor x
  have hnonneg := Int.fract_nonneg x
  have hlt := Int.fract_lt_one x
  obtain ⟨hround, -, heven⟩ | ⟨hround, -, heven⟩ := roundHalfEven_cases x
  · rw [hround, hfloor, abs_of_nonneg hnonneg] at h
    rw [hround]
    exact heven h
  · rw [hround, Int.cast_add, Int.cast_one, ← sub_sub, hfloor, abs_of_neg (by linarith)] at h
    rw [hround]
    exact heven (by linarith)

theorem roundHalfEven_neg (x : K) : roundHalfEven (-x) = -roundHalfEven x := by
  obtain h | h := (abs_sub_roundHalfEven_le x).lt_or_eq
  · refine roundHalfEven_eq ?_
    rwa [Int.cast_neg, neg_sub_neg, abs_sub_comm]
  obtain hn | hn := (abs_sub_roundHalfEven_le (-x)).lt_or_eq
  · have hback : roundHalfEven x = -roundHalfEven (-x) := by
      refine roundHalfEven_eq ?_
      rw [Int.cast_neg, sub_neg_eq_add, ← abs_neg, neg_add', sub_eq_add_neg]
      simpa [sub_eq_add_neg] using hn
    omega
  · -- both are at a half, so they are two even numbers at most one apart
    have heven := even_of_abs_sub_roundHalfEven h
    have hnegEven := even_of_abs_sub_roundHalfEven hn
    have hsum : |((roundHalfEven x + roundHalfEven (-x) : ℤ) : K)| ≤ 1 := by
      have := abs_add_le (roundHalfEven x - x : K) (roundHalfEven (-x) - -x)
      rw [abs_sub_comm _ x, abs_sub_comm _ (-x), h, hn] at this
      push_cast
      calc |(roundHalfEven x + roundHalfEven (-x) : K)|
          = |(roundHalfEven x - x : K) + (roundHalfEven (-x) - -x)| := by congr 1; ring
        _ ≤ 1 := by linarith
    have hint : |roundHalfEven x + roundHalfEven (-x)| ≤ 1 := by exact_mod_cast hsum
    have := abs_le.mp hint
    omega

end

-- ---------------------------------------------------------------------------
-- Formats
-- ---------------------------------------------------------------------------

structure Format where
  base : ℕ
  digits : ℕ
  /-- The exponent that the last digit never goes below. -/
  lowest : Option ℤ
  one_lt_base : 1 < base

/-- Decimal numbers with so many significant digits. -/
def decimal (digits : ℕ) : Format := ⟨10, digits, none, by decide⟩

/-- Double precision, without its largest number. -/
def binary64 : Format := ⟨2, 53, some (-1074), by decide⟩

namespace Format

/-- The exponent of the last digit where the first one has exponent `k`. -/
def exponent (f : Format) (k : ℤ) : ℤ :=
  match f.lowest with
  | none => k + 1 - f.digits
  | some lowest => max lowest (k + 1 - f.digits)

/-- One unit of the last digit of a number. -/
def quantum (f : Format) (x : K) : K := (f.base : K) ^ f.exponent (Int.log f.base |x|)

def nearest (f : Format) (x : K) : K := roundHalfEven (x / f.quantum x) * f.quantum x

def Representable (f : Format) (x : K) : Prop := ∃ m : ℤ, x = m * f.quantum x

theorem le_exponent (f : Format) (k : ℤ) : k + 1 - f.digits ≤ f.exponent k := by
  unfold exponent
  split
  · exact le_rfl
  · exact le_max_right _ _

theorem exponent_mono (f : Format) : Monotone f.exponent := by
  intro k l h
  unfold exponent
  split
  · omega
  · exact max_le_max_left _ (by omega)

@[simp] theorem quantum_neg [IsStrictOrderedRing K] (f : Format) (x : K) :
    f.quantum (-x) = f.quantum x := by
  simp [quantum]

section
variable [IsStrictOrderedRing K] (f : Format) {x y : K}

theorem one_lt_base_cast : (1 : K) < f.base := by exact_mod_cast f.one_lt_base

theorem base_pos : (0 : K) < f.base := zero_lt_one.trans f.one_lt_base_cast

theorem quantum_pos (x : K) : 0 < f.quantum x := zpow_pos f.base_pos _

@[simp] theorem nearest_neg (x : K) : f.nearest (-x) = -f.nearest x := by
  rw [nearest, nearest, quantum_neg, neg_div, roundHalfEven_neg, Int.cast_neg, neg_mul]

theorem representable_neg : f.Representable (-x) ↔ f.Representable x := by
  constructor <;> rintro ⟨m, h⟩ <;> refine ⟨-m, ?_⟩
  · rw [Int.cast_neg, neg_mul, ← quantum_neg, ← h, neg_neg]
  · rw [Int.cast_neg, neg_mul, quantum_neg, ← h]

theorem nearest_eq {m : ℤ} (hy : y = m * f.quantum x) (h : |x - y| < f.quantum x / 2) :
    f.nearest x = y := by
  have hpos := f.quantum_pos x
  have hclose : |x / f.quantum x - m| < 1 / 2 := by
    have : x / f.quantum x - m = (x - y) / f.quantum x := by
      rw [hy, sub_div, mul_div_cancel_right₀ _ hpos.ne']
    rw [this, abs_div, abs_of_pos hpos, div_lt_iff₀ hpos]
    linarith
  rw [nearest, roundHalfEven_eq hclose, hy]

theorem abs_sub_nearest_le (x : K) : |x - f.nearest x| ≤ f.quantum x / 2 := by
  have hpos := f.quantum_pos x
  have heq : x - f.nearest x =
      (x / f.quantum x - roundHalfEven (x / f.quantum x)) * f.quantum x := by
    rw [nearest, sub_mul, div_mul_cancel₀ _ hpos.ne']
  rw [heq, abs_mul, abs_of_pos hpos]
  have := mul_le_mul_of_nonneg_right (abs_sub_roundHalfEven_le (x / f.quantum x)) hpos.le
  linarith

theorem Representable.nearest {f : Format} (h : f.Representable x) : f.nearest x = x := by
  obtain ⟨m, hm⟩ := h
  refine f.nearest_eq hm ?_
  rw [sub_self, abs_zero]
  exact half_pos (f.quantum_pos x)

theorem exists_zpow_eq {e n : ℤ} (h : e ≤ n) :
    ∃ m : ℤ, (f.base : K) ^ n = m * (f.base : K) ^ e := by
  obtain ⟨d, rfl⟩ := Int.le.dest h
  refine ⟨(f.base : ℤ) ^ d, ?_⟩
  rw [zpow_add₀ f.base_pos.ne', zpow_natCast]
  push_cast
  ring

theorem representable_of_exponent_le {m e : ℤ} (hx : x = m * (f.base : K) ^ e)
    (h : f.exponent (Int.log f.base |x|) ≤ e) : f.Representable x := by
  obtain ⟨n, hn⟩ := f.exists_zpow_eq (K := K) h
  refine ⟨m * n, ?_⟩
  rw [quantum, Int.cast_mul, mul_assoc, ← hn]
  exact hx

theorem representable_of_lt {m e : ℤ} (hm : |m| < (f.base : ℤ) ^ f.digits)
    (he : ∀ lowest ∈ f.lowest, lowest ≤ e) : f.Representable (m * (f.base : K) ^ e) := by
  obtain rfl | hne := eq_or_ne m 0
  · exact ⟨0, by simp⟩
  refine f.representable_of_exponent_le rfl ?_
  have hunit := zpow_pos (f.base_pos (K := K)) e
  have habs : |(m * (f.base : K) ^ e)| = |(m : K)| * (f.base : K) ^ e := by
    rw [abs_mul, abs_of_pos hunit]
  have hpos : 0 < |(m * (f.base : K) ^ e)| := by
    rw [habs]
    exact mul_pos (abs_pos.mpr (Int.cast_ne_zero.mpr hne)) hunit
  have hlt : |(m * (f.base : K) ^ e)| < (f.base : K) ^ (f.digits + e : ℤ) := by
    rw [habs, zpow_add₀ f.base_pos.ne', zpow_natCast]
    exact mul_lt_mul_of_pos_right (by exact_mod_cast hm) hunit
  have hlog := (Int.lt_zpow_iff_log_lt f.one_lt_base hpos).mp hlt
  unfold exponent
  split
  · omega
  · rename_i lowest hlowest
    exact max_le (he lowest hlowest) (by omega)

theorem add_le_of_multiple {c a b : K} {m n : ℤ} (hc : 0 < c) (ha : a = m * c) (hb : b = n * c)
    (h : a < b) : a + c ≤ b := by
  rw [ha, hb] at h ⊢
  have hlt : m < n := by exact_mod_cast lt_of_mul_lt_mul_right h hc.le
  have hle : (m + 1 : K) ≤ n := by exact_mod_cast hlt
  calc m * c + c = (m + 1) * c := by ring
    _ ≤ n * c := mul_le_mul_of_nonneg_right hle hc.le

theorem zpow_log_le (hx : 0 < x) : (f.base : K) ^ Int.log f.base |x| ≤ x := by
  rw [abs_of_pos hx]
  exact Int.zpow_log_le_self f.one_lt_base hx

theorem lt_zpow_succ_log (hx : 0 < x) : x < (f.base : K) ^ (Int.log f.base |x| + 1) := by
  rw [abs_of_pos hx]
  exact Int.lt_zpow_succ_log_self f.one_lt_base x

theorem zpow_le_zpow_iff {m n : ℤ} : (f.base : K) ^ m ≤ (f.base : K) ^ n ↔ m ≤ n :=
  zpow_le_zpow_iff_right₀ f.one_lt_base_cast

theorem Representable.exponent_le_log {f : Format} (h : f.Representable x) (hx : 0 < x) :
    f.exponent (Int.log f.base |x|) ≤ Int.log f.base |x| := by
  obtain ⟨m, hm⟩ := h
  have hunit : f.quantum x ≤ x := by
    have := add_le_of_multiple (a := 0) (m := 0) (f.quantum_pos x) (by simp) hm hx
    rwa [zero_add] at this
  have hlt : (f.base : K) ^ f.exponent (Int.log f.base |x|) <
      (f.base : K) ^ (Int.log f.base |x| + 1) := hunit.trans_lt (f.lt_zpow_succ_log hx)
  exact Int.lt_add_one_iff.mp ((zpow_lt_zpow_iff_right₀ f.one_lt_base_cast).mp hlt)

theorem resolution_le_quantum {n : ℤ} (hn : x ≤ (f.base : K) ^ n)
    (h : n ≤ Int.log f.base |y| + 1) : x / (f.base : K) ^ f.digits ≤ f.quantum y := by
  calc x / (f.base : K) ^ f.digits
      ≤ (f.base : K) ^ n / (f.base : K) ^ f.digits :=
        div_le_div_of_nonneg_right hn (pow_pos f.base_pos _).le
    _ = (f.base : K) ^ (n - f.digits) := by
        rw [zpow_sub₀ f.base_pos.ne', zpow_natCast]
    _ ≤ f.quantum y := by
        refine f.zpow_le_zpow_iff.mpr ?_
        have := f.le_exponent (Int.log f.base |y|)
        omega

/-- What is closer to a number of the format than half of what its digits
resolve rounds to it, also across a power of the base. -/
theorem Representable.nearest_eq_of_close {f : Format} (hy : f.Representable y) (hpos : 0 < y)
    (h : |x - y| < y / (f.base : K) ^ f.digits / 2) : f.nearest x = y := by
  have hbase := f.one_lt_base_cast (K := K)
  have hdigits : (1 : K) ≤ (f.base : K) ^ f.digits := one_le_pow₀ hbase.le
  have hhalf : y / (f.base : K) ^ f.digits ≤ y := div_le_self hpos.le hdigits
  obtain ⟨hlower, hupper⟩ := abs_lt.mp h
  have hxpos : 0 < x := by linarith
  have hyle := f.zpow_log_le hpos
  have hylt := f.lt_zpow_succ_log hpos
  have hxle := f.zpow_log_le hxpos
  have hxlt := f.lt_zpow_succ_log hxpos
  have hres := f.resolution_le_quantum (y := y) hylt.le le_rfl
  have hexp := hy.exponent_le_log hpos
  obtain ⟨m, hm⟩ := hy
  have hunit := f.quantum_pos y
  obtain hlog | hlog | hlog := lt_trichotomy (Int.log f.base |x|) (Int.log f.base |y|)
  · -- below the power of the base that `y` then is
    obtain ⟨n, hn⟩ := f.exists_zpow_eq (K := K) hexp
    have hpower : (f.base : K) ^ Int.log f.base |y| = y := by
      refine hyle.eq_or_lt.resolve_right fun hlt => ?_
      have hgap := add_le_of_multiple hunit hn hm hlt
      have := f.zpow_le_zpow_iff (K := K) |>.mpr (show Int.log f.base |x| + 1 ≤ _ from hlog)
      linarith
    have hprev : Int.log f.base |y| = Int.log f.base |x| + 1 := by
      refine le_antisymm ?_ hlog
      by_contra hfar
      have hle := f.zpow_le_zpow_iff (K := K) |>.mpr
        (show Int.log f.base |x| + 1 + 1 ≤ Int.log f.base |y| by omega)
      have htwo : (2 : K) ≤ f.base := by exact_mod_cast f.one_lt_base
      have : x * 2 ≤ (f.base : K) ^ (Int.log f.base |x| + 1 + 1) := by
        rw [zpow_add_one₀ f.base_pos.ne' (Int.log f.base |x| + 1)]
        exact mul_le_mul hxlt.le htwo (by norm_num) (zpow_pos f.base_pos _).le
      linarith
    obtain ⟨k, hk⟩ := f.exists_zpow_eq (K := K) (f.exponent_mono hlog.le)
    have hsmall := f.resolution_le_quantum (y := x) hpower.ge hprev.le
    refine f.nearest_eq (m := m * k) ?_ (by linarith)
    rw [Int.cast_mul, mul_assoc, quantum, ← hk]
    exact hm
  · have hsame : f.quantum x = f.quantum y := by rw [quantum, quantum, hlog]
    refine f.nearest_eq (m := m) (hsame ▸ hm) ?_
    rw [hsame]
    linarith
  · -- at or above the next power of the base, which is a whole unit away
    obtain ⟨n, hn⟩ := f.exists_zpow_eq (K := K)
      (hexp.trans (show _ ≤ Int.log f.base |y| + 1 by omega))
    have hgap := add_le_of_multiple hunit hm hn hylt
    have := f.zpow_le_zpow_iff (K := K) |>.mpr (show Int.log f.base |y| + 1 ≤ _ from hlog)
    linarith

-- ---------------------------------------------------------------------------
-- Through another format and back
-- ---------------------------------------------------------------------------

@[simp] theorem nearest_zero : f.nearest (0 : K) = 0 := by
  have : roundHalfEven (0 : K) = 0 := by simpa using roundHalfEven_intCast (K := K) 0
  simp [nearest, this]

/-- So many digits are enough to tell the numbers of `f` apart. -/
def Finer (g f : Format) : Prop :=
  g.lowest = none ∧ f.base ^ f.digits < g.base ^ (g.digits - 1)

instance (g f : Format) : Decidable (g.Finer f) := inferInstanceAs (Decidable (_ ∧ _))

variable {f} {g : Format}

theorem Finer.quantum_lt (h : g.Finer f) (hpos : 0 < y) :
    g.quantum y < y / (f.base : K) ^ f.digits := by
  obtain ⟨hlowest, hlt⟩ := h
  have hdigits : g.digits ≠ 0 := by
    intro h
    have hpos : 0 < f.base ^ f.digits := Nat.pow_pos (Nat.zero_lt_of_lt f.one_lt_base)
    simp only [h, Nat.zero_sub, pow_zero] at hlt
    omega
  have hexp : g.exponent (Int.log g.base |y|) =
      Int.log g.base |y| - ((g.digits - 1 : ℕ) : ℤ) := by
    simp only [exponent, hlowest]
    omega
  have hfine : (f.base : K) ^ f.digits < (g.base : K) ^ (g.digits - 1) := by exact_mod_cast hlt
  have hpow : (0 : K) < (f.base : K) ^ f.digits := pow_pos f.base_pos _
  calc g.quantum y
      = (g.base : K) ^ Int.log g.base |y| / (g.base : K) ^ (g.digits - 1) := by
        rw [quantum, hexp, zpow_sub₀ g.base_pos.ne', zpow_natCast]
    _ ≤ y / (g.base : K) ^ (g.digits - 1) :=
        div_le_div_of_nonneg_right (g.zpow_log_le hpos) (pow_pos g.base_pos _).le
    _ < y / (f.base : K) ^ f.digits := div_lt_div_of_pos_left hpos hpow hfine

theorem Representable.nearest_nearest (hg : g.Finer f) (hy : f.Representable y) :
    f.nearest (g.nearest y) = y := by
  have hposCase : ∀ z : K, f.Representable z → 0 < z → f.nearest (g.nearest z) = z := by
    intro z hz hpos
    refine hz.nearest_eq_of_close hpos ?_
    rw [abs_sub_comm]
    have := g.abs_sub_nearest_le z
    have := hg.quantum_lt hpos
    linarith
  obtain hneg | rfl | hpos := lt_trichotomy y 0
  · have := hposCase (-y) (f.representable_neg.mpr hy) (neg_pos.mpr hneg)
    rw [nearest_neg, nearest_neg] at this
    exact neg_injective this
  · rw [nearest_zero, nearest_zero]
  · exact hposCase y hy hpos

end

end Format

end Rounding
