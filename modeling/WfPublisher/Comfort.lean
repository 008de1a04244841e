import Mathlib
import WfPublisher.Windchill

/-!
# Comfort

How the derived values follow the readings they are derived from: the windchill
and the feels-like temperature the wind, the dew point and the heat index the
humidity. Of `pow` and `log` only order is used, and arithmetic is taken to be
exact.
-/

namespace WfPublisher

section
variable {K : Type} [Field K] [LinearOrder K]

/-- The power of the wind above 5 mph, where `pow 5 0.16` is `1.29…`. -/
structure Libm.WindOrder (libm : Libm K) : Prop where
  mono : ∀ v v', 5.0 < v → v ≤ v' → libm.pow v 0.16 ≤ libm.pow v' 0.16
  ge : ∀ v, 5.0 < v → 1.29 ≤ libm.pow v 0.16

structure Libm.LogOrder (libm : Libm K) : Prop where
  mono : ∀ x y, 0 < x → x < y → libm.log x < libm.log y
  one : libm.log 1 = 0

end

theorem realLibm_windOrder : realLibm.WindOrder where
  mono v v' hv h := by
    have h0 : 0 ≤ v := by linarith
    exact Real.rpow_le_rpow h0 h (by norm_num)
  ge v hv := (lt_realLibm_pow (by norm_num) hv).le

theorem realLibm_logOrder : realLibm.LogOrder where
  mono _ _ hx h := Real.log_lt_log hx h
  one := Real.log_one

section
variable {K : Type} [Field K] [LinearOrder K] [IsStrictOrderedRing K] {libm : Libm K}

theorem tempC_mono : Monotone (tempC : K → K) := by
  intro t t' h
  refine tempF_strictMono.le_iff_le.mp ?_
  rwa [tempF_tempC, tempF_tempC]

theorem ms2mph_mono : Monotone (ms2mph : K → K) := by
  intro speed speed' h
  unfold ms2mph
  have hpos : (0 : K) ≤ 0.44704 := by norm_num
  exact div_le_div_of_nonneg_right h hpos

-- ---------------------------------------------------------------------------
-- Wind
-- ---------------------------------------------------------------------------

theorem chill_antitone {t : K} (ht : t < 50.0) :
    Antitone fun p : K => 35.74 + 0.6215 * t - 35.75 * p + 0.4275 * t * p := by
  intro p p' h
  dsimp only
  have hcoeff : 0 ≤ 35.75 - 0.4275 * t := by
    norm_num at ht ⊢
    linarith
  have hmul : 0 ≤ (35.75 - 0.4275 * t) * (p' - p) := mul_nonneg hcoeff (sub_nonneg.mpr h)
  linarith

theorem chill_le {p t : K} (hp : 1.29 ≤ p) (ht : t < 50.0) :
    35.74 + 0.6215 * t - 35.75 * p + 0.4275 * t * p ≤ t := by
  refine (chill_antitone ht hp).trans ?_
  norm_num at ht ⊢
  linarith

theorem calcWindchill_le (hpow : libm.WindOrder) (temp speed : K) :
    calcWindchill libm temp speed ≤ temp := by
  unfold calcWindchill
  dsimp only
  split
  · rename_i h
    refine tempF_strictMono.le_iff_le.mp ?_
    rw [tempF_tempC]
    exact chill_le (hpow.ge _ h.2) h.1
  · exact le_refl temp

theorem calcWindchill_antitone (hpow : libm.WindOrder) (temp : K) :
    Antitone (calcWindchill libm temp) := by
  intro speed speed' h
  have hv : ms2mph speed ≤ ms2mph speed' := ms2mph_mono h
  by_cases hchill : tempF temp < 50.0 ∧ ms2mph speed > 5.0
  · have hchill' : tempF temp < 50.0 ∧ ms2mph speed' > 5.0 := ⟨hchill.1, hchill.2.trans_le hv⟩
    unfold calcWindchill
    dsimp only
    rw [if_pos hchill, if_pos hchill']
    exact tempC_mono (chill_antitone hchill.1 (hpow.mono _ _ hchill.2 hv))
  · -- in calm air the windchill is the temperature
    have hcalm : calcWindchill libm temp speed = temp := if_neg hchill
    rw [hcalm]
    exact calcWindchill_le hpow temp speed'

theorem calcFeelslike_antitone (hpow : libm.WindOrder) (temp humidity : K) :
    Antitone fun speed => calcFeelslike libm temp speed humidity := by
  intro speed speed' h
  dsimp only [calcFeelslike]
  split
  · exact le_refl _
  · split
    · exact calcWindchill_antitone hpow temp h
    · exact le_refl temp

theorem calcFeelslike_le (hpow : libm.WindOrder) {temp : K} (speed humidity : K)
    (hcool : tempF temp < 80.0) : calcFeelslike libm temp speed humidity ≤ temp := by
  unfold calcFeelslike
  rw [if_neg (not_le.mpr hcool)]
  split
  · exact calcWindchill_le hpow temp speed
  · exact le_refl temp

omit [IsStrictOrderedRing K] in
theorem calcFeelslike_mild {temp : K} (speed humidity : K) (hmild : 50.0 ≤ tempF temp)
    (hcool : tempF temp < 80.0) : calcFeelslike libm temp speed humidity = temp := by
  unfold calcFeelslike
  rw [if_neg (not_le.mpr hcool), if_neg (not_lt.mpr hmild)]

/-- At most the temperature in any wind, and the less the more wind there is. -/
theorem wind_never_warms (hpow : libm.WindOrder) (temp humidity : K) {speed speed' : K}
    (hwind : speed ≤ speed') :
    (calcWindchill libm temp speed' ≤ calcWindchill libm temp speed ∧
      calcWindchill libm temp speed ≤ temp) ∧
    calcFeelslike libm temp speed' humidity ≤ calcFeelslike libm temp speed humidity ∧
    (tempF temp < 80.0 → calcFeelslike libm temp speed humidity ≤ temp) ∧
    (50.0 ≤ tempF temp ∧ tempF temp < 80.0 → calcFeelslike libm temp speed humidity = temp) := by
  refine ⟨⟨calcWindchill_antitone hpow temp hwind, calcWindchill_le hpow temp speed⟩,
    calcFeelslike_antitone hpow temp humidity hwind, ?_, ?_⟩
  · intro hcool
    exact calcFeelslike_le hpow speed humidity hcool
  · rintro ⟨hmild, hcool⟩
    exact calcFeelslike_mild speed humidity hmild hcool

end

theorem wind_never_warms_freezing :
    (calcWindchill realLibm 0 9 ≤ calcWindchill realLibm 0 3 ∧ calcWindchill realLibm 0 3 ≤ 0) ∧
    calcFeelslike realLibm 0 9 60 ≤ calcFeelslike realLibm 0 3 60 ∧
    (tempF (0 : ℝ) < 80.0 → calcFeelslike realLibm 0 3 60 ≤ 0) ∧
    (50.0 ≤ tempF (0 : ℝ) ∧ tempF (0 : ℝ) < 80.0 → calcFeelslike realLibm 0 3 60 = 0) :=
  wind_never_warms realLibm_windOrder 0 60 (by norm_num)

section
variable {K : Type} [Field K] [LinearOrder K] [IsStrictOrderedRing K] {libm : Libm K}

-- ---------------------------------------------------------------------------
-- Dew point
-- ---------------------------------------------------------------------------

theorem magnus_lt {t : K} (ht : -243.04 < t) : 17.625 * t / (243.04 + t) < 17.625 := by
  have hpos : 0 < 243.04 + t := by linarith
  rw [div_lt_iff₀ hpos]
  norm_num

theorem log_humidity_lt (hlog : libm.LogOrder) {humidity humidity' : K} (hpos : 0 < humidity)
    (h : humidity < humidity') : libm.log (humidity / 100.0) < libm.log (humidity' / 100.0) := by
  have h100 : (0 : K) < 100.0 := by norm_num
  exact hlog.mono _ _ (div_pos hpos h100) (div_lt_div_of_pos_right h h100)

theorem log_humidity_hundred (hlog : libm.LogOrder) : libm.log (100 / 100.0) = 0 := by
  have hone : (100 / 100.0 : K) = 1 := by norm_num
  rw [hone, hlog.one]

theorem log_humidity_nonpos (hlog : libm.LogOrder) {humidity : K} (hpos : 0 < humidity)
    (hle : humidity ≤ 100) : libm.log (humidity / 100.0) ≤ 0 := by
  obtain hlt | rfl := lt_or_eq_of_le hle
  · exact (log_humidity_lt hlog hpos hlt).le.trans_eq (log_humidity_hundred hlog)
  · exact (log_humidity_hundred hlog).le

theorem magnus_inverse_lt {x y : K} (hxy : x < y) (hy : y < 17.625) :
    243.04 * x / (17.625 - x) < 243.04 * y / (17.625 - y) := by
  have hx : 0 < 17.625 - x := sub_pos.mpr (hxy.trans hy)
  have hy' : 0 < 17.625 - y := sub_pos.mpr hy
  rw [div_lt_div_iff₀ hx hy']
  norm_num at hx hy' ⊢
  linarith

theorem magnus_inverse_magnus {t : K} (ht : -243.04 < t) :
    243.04 * (17.625 * t / (243.04 + t)) / (17.625 - 17.625 * t / (243.04 + t)) = t := by
  have hpos : 243.04 + t ≠ 0 := by
    have h : 0 < 243.04 + t := by linarith
    exact h.ne'
  have hden : 17.625 - 17.625 * t / (243.04 + t) ≠ 0 := (sub_pos.mpr (magnus_lt ht)).ne'
  rw [div_eq_iff hden]
  field_simp
  ring

theorem calcDewpoint_hundred (hlog : libm.LogOrder) {t : K} (ht : -243.04 < t) :
    calcDewpoint libm t 100 = t := by
  unfold calcDewpoint
  dsimp only
  rw [log_humidity_hundred hlog, zero_add, sub_zero]
  exact magnus_inverse_magnus ht

theorem humidity_term_lt (hlog : libm.LogOrder) {t humidity : K} (ht : -243.04 < t)
    (hpos : 0 < humidity) (hle : humidity ≤ 100) :
    libm.log (humidity / 100.0) + 17.625 * t / (243.04 + t) < 17.625 := by
  calc libm.log (humidity / 100.0) + 17.625 * t / (243.04 + t)
      ≤ 0 + 17.625 * t / (243.04 + t) := by
        gcongr
        exact log_humidity_nonpos hlog hpos hle
    _ < 17.625 := by
        rw [zero_add]
        exact magnus_lt ht

theorem calcDewpoint_lt (hlog : libm.LogOrder) {t humidity humidity' : K} (ht : -243.04 < t)
    (hpos : 0 < humidity) (h : humidity < humidity') (hle : humidity' ≤ 100) :
    calcDewpoint libm t humidity < calcDewpoint libm t humidity' := by
  unfold calcDewpoint
  dsimp only
  rw [sub_sub, sub_sub]
  refine magnus_inverse_lt ?_ (humidity_term_lt hlog ht (hpos.trans h) hle)
  exact (add_lt_add_iff_right _).mpr (log_humidity_lt hlog hpos h)

theorem calcDewpoint_eq_iff (hlog : libm.LogOrder) {t humidity : K} (ht : -243.04 < t)
    (hpos : 0 < humidity) (hle : humidity ≤ 100) :
    calcDewpoint libm t humidity = t ↔ humidity = 100 := by
  constructor
  · intro heq
    refine hle.antisymm (not_lt.mp ?_)
    intro hlt
    have hdew := calcDewpoint_lt hlog ht hpos hlt (le_refl 100)
    rw [heq, calcDewpoint_hundred hlog ht] at hdew
    exact lt_irrefl t hdew
  · rintro rfl
    exact calcDewpoint_hundred hlog ht

theorem calcDewpoint_le (hlog : libm.LogOrder) {t humidity : K} (ht : -243.04 < t)
    (hpos : 0 < humidity) (hle : humidity ≤ 100) : calcDewpoint libm t humidity ≤ t := by
  obtain hlt | rfl := lt_or_eq_of_le hle
  · exact (calcDewpoint_lt hlog ht hpos hlt (le_refl 100)).le.trans_eq
      (calcDewpoint_hundred hlog ht)
  · exact (calcDewpoint_hundred hlog ht).le

/-- Both divisions are by something other than zero, the dew point reaches the
temperature in saturated air alone, and more humidity means a higher one. -/
theorem dewpoint_le_temperature (hlog : libm.LogOrder) {t humidity : K} (ht : -243.04 < t)
    (hpos : 0 < humidity) (hle : humidity ≤ 100) :
    243.04 + t ≠ 0 ∧
    17.625 - libm.log (humidity / 100.0) - 17.625 * t / (243.04 + t) ≠ 0 ∧
    calcDewpoint libm t humidity ≤ t ∧
    (calcDewpoint libm t humidity = t ↔ humidity = 100) ∧
    ∀ humidity', humidity < humidity' → humidity' ≤ 100 →
      calcDewpoint libm t humidity < calcDewpoint libm t humidity' := by
  refine ⟨?_, ?_, calcDewpoint_le hlog ht hpos hle, calcDewpoint_eq_iff hlog ht hpos hle, ?_⟩
  · have h : 0 < 243.04 + t := by linarith
    exact h.ne'
  · rw [sub_sub]
    exact (sub_pos.mpr (humidity_term_lt hlog ht hpos hle)).ne'
  · intro humidity' h hle'
    exact calcDewpoint_lt hlog ht hpos h hle'

end

theorem dewpoint_le_temperature_mild :
    243.04 + (20 : ℝ) ≠ 0 ∧
    17.625 - realLibm.log (50 / 100.0) - 17.625 * 20 / (243.04 + 20) ≠ 0 ∧
    calcDewpoint realLibm 20 50 ≤ 20 ∧
    (calcDewpoint realLibm 20 50 = 20 ↔ (50 : ℝ) = 100) ∧
    ∀ humidity', 50 < humidity' → humidity' ≤ 100 →
      calcDewpoint realLibm 20 50 < calcDewpoint realLibm 20 humidity' :=
  dewpoint_le_temperature realLibm_logOrder (by norm_num) (by norm_num) (by norm_num)

section
variable {K : Type} [Field K] [LinearOrder K] [IsStrictOrderedRing K]

-- ---------------------------------------------------------------------------
-- Heat index
-- ---------------------------------------------------------------------------

theorem heat_curvature_nonneg {t : K} (hlo : 80.0 ≤ t) (hhi : t ≤ 130.0) :
    0 ≤ -5.481717 * 10.0 ^ (-2 : ℤ) + 8.5282 * 10.0 ^ (-4 : ℤ) * t +
      -1.99 * 10.0 ^ (-6 : ℤ) * t * t := by
  norm_num at hlo hhi ⊢
  -- concave in `t` and positive at both ends
  have hends : 0 ≤ (t - 80) * (130 - t) :=
    mul_nonneg (sub_nonneg.mpr hlo) (sub_nonneg.mpr hhi)
  linarith

/-- The difference quotient where the humidities add up to 80, its least value;
around 73 degrees it comes close to zero. -/
theorem heat_slope_nonneg {t : K} (hlo : 80.0 ≤ t) :
    0 ≤ 10.14333127 + -0.22475541 * t + 1.22874 * 10.0 ^ (-3 : ℤ) * t * t +
      80 * (-5.481717 * 10.0 ^ (-2 : ℤ) + 8.5282 * 10.0 ^ (-4 : ℤ) * t +
        -1.99 * 10.0 ^ (-6 : ℤ) * t * t) := by
  norm_num at hlo ⊢
  have hsquare : 0 ≤ (t - 80) * (t - 80) := mul_self_nonneg (t - 80)
  linarith

theorem heatindex_humidity_mono {tc humidity humidity' : K} (hlo : 80.0 ≤ tempF tc)
    (hhi : tempF tc ≤ 130.0) (hdry : 40.0 ≤ humidity) (hle : humidity ≤ humidity') :
    calcHeatindex tc humidity ≤ calcHeatindex tc humidity' := by
  have hhot : ∀ h : K, 40.0 ≤ h → ¬(tempF tc < 80.0 ∨ h < 40.0) := by
    rintro h hh (hcool | hlow)
    · exact absurd hlo (not_le.mpr hcool)
    · exact absurd hh (not_le.mpr hlow)
  unfold calcHeatindex
  dsimp only
  rw [if_neg (hhot _ hdry), if_neg (hhot _ (hdry.trans hle))]
  apply tempC_mono
  generalize tempF tc = t at hlo hhi
  have hcurve := heat_curvature_nonneg hlo hhi
  have hslope := heat_slope_nonneg hlo
  have hsum : 0 ≤ humidity + humidity' - 80 := by
    norm_num at hdry
    linarith
  -- the difference is the difference of the humidities times a slope that is
  -- the one at a sum of 80 and the curvature times the rest
  have hdiff := mul_nonneg (sub_nonneg.mpr hle)
    (add_nonneg hslope (mul_nonneg hsum hcurve))
  linarith

end

theorem heatindex_humidity_mono_hot : calcHeatindex (35 : ℚ) 40 ≤ calcHeatindex 35 100 :=
  heatindex_humidity_mono (by norm_num [tempF]) (by norm_num [tempF]) (by norm_num) (by norm_num)

end WfPublisher
