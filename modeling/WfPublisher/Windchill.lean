import Mathlib
import WfPublisher.Util

/-!
# Wind chill

At any wind speed the windchill is strictly increasing in the temperature, across
the bound of 50 degrees Fahrenheit too, so equal windchills come from equal
temperatures. All it takes of `pow` is a bound on the power of the wind.
-/

namespace WfPublisher

section
variable {K : Type} [Field K] [LinearOrder K]

/-- The power of the wind above 5 mph, where `pow 5 0.16` is `1.29…`. -/
def Libm.WindPower (libm : Libm K) : Prop := ∀ v > 5.0, 1.2 < libm.pow v 0.16

end

noncomputable def realLibm : Libm ℝ := ⟨Real.log, Real.rpow⟩

theorem lt_realLibm_pow {c v : ℝ} (hc : c ^ 25 < 5 ^ 4) (hv : 5.0 < v) :
    c < realLibm.pow v 0.16 := by
  have h5 : 5 < v := lt_of_eq_of_lt (by norm_num) hv
  have hnonneg : 0 ≤ v := by linarith
  have hpower : realLibm.pow v 0.16 ^ 25 = v ^ 4 := by
    calc (v ^ (0.16 : ℝ)) ^ 25 = v ^ ((0.16 : ℝ) * (25 : ℕ)) :=
          (Real.rpow_mul_natCast hnonneg _ _).symm
      _ = v ^ ((4 : ℕ) : ℝ) := by norm_num
      _ = v ^ 4 := Real.rpow_natCast v 4
  refine lt_of_pow_lt_pow_left₀ 25 (Real.rpow_nonneg hnonneg _) ?_
  rw [hpower]
  calc c ^ 25 < 5 ^ 4 := hc
    _ < v ^ 4 := pow_lt_pow_left₀ h5 (by norm_num) (by norm_num)

theorem realLibm_windPower : realLibm.WindPower := by
  intro v hv
  exact lt_realLibm_pow (by norm_num) hv

section
variable {K : Type} [Field K] [LinearOrder K] [IsStrictOrderedRing K] {libm : Libm K}

theorem tempF_strictMono : StrictMono (tempF : K → K) := by
  intro temp temp' h
  unfold tempF
  linarith

theorem tempF_tempC (t : K) : tempF (tempC t) = t := by
  unfold tempF tempC
  have hne : (1.8 : K) ≠ 0 := by norm_num
  rw [div_mul_cancel₀ _ hne, sub_add_cancel]

/-- The formula is in Fahrenheit; `p` is the power of the wind. -/
theorem chill_strictMono {p : K} (hp : 1.2 < p) :
    StrictMono fun t : K => 35.74 + 0.6215 * t - 35.75 * p + 0.4275 * t * p := by
  intro t t' h
  dsimp only
  have hpos : 0 < p := by
    norm_num at hp
    linarith
  have hmul : t * p < t' * p := mul_lt_mul_of_pos_right h hpos
  norm_num
  linarith

theorem chill_lt {p t : K} (hp : 1.2 < p) (ht : t < 50.0) :
    35.74 + 0.6215 * t - 35.75 * p + 0.4275 * t * p < 50.0 := by
  refine (chill_strictMono hp ht).trans ?_
  norm_num at hp ⊢
  linarith

theorem calcWindchill_strictMono (hpow : libm.WindPower) (speed : K) :
    StrictMono fun temp => calcWindchill libm temp speed := by
  intro temp temp' h
  have hF : tempF temp < tempF temp' := tempF_strictMono h
  refine tempF_strictMono.lt_iff_lt.mp ?_
  unfold calcWindchill
  dsimp only
  by_cases hv : ms2mph speed > 5.0
  · have hp := hpow _ hv
    split <;> split
    · rw [tempF_tempC, tempF_tempC]
      exact chill_strictMono hp hF
    · rename_i hcold hwarm
      rw [tempF_tempC]
      exact (chill_lt hp hcold.1).trans_le (not_lt.mp fun h => hwarm ⟨h, hv⟩)
    · rename_i hwarm hcold
      exact absurd ⟨hF.trans hcold.1, hv⟩ hwarm
    · exact hF
  · rw [if_neg fun h => hv h.2, if_neg fun h => hv h.2]
    exact hF

omit [IsStrictOrderedRing K] in
theorem calcFeelslike_eq_iff (temp speed humidity humidity' : K) :
    calcFeelslike libm temp speed humidity = calcFeelslike libm temp speed humidity' ↔
      (tempF temp ≥ 80.0 → calcHeatindex temp humidity = calcHeatindex temp humidity') := by
  unfold calcFeelslike
  by_cases hhot : tempF temp ≥ 80.0
  · simp [hhot]
  · simp [hhot]

end

end WfPublisher
