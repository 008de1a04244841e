import Mathlib
import WfPublisher.Lib.Compass
import WfPublisher.Publish.Averages
import WfPublisher.Publish.Conservation

/-!
# The mean direction of the wind

The batching publishers add up directions as numbers. Readings on both sides of
north have their mean in the south.
-/

namespace WfPublisher

open BatchPublisher Compass

section
variable {K : Type} [Field K] [LinearOrder K]

def directions (calls : List (Call K)) : List K := calls.map fun call => call.wd.winddirection

omit [LinearOrder K] in
theorem mean_winddirection {Request : Type} {p : BatchPublisher K Request}
    (h : ∀ cfg wd, (p.convert cfg wd).winddirection = wd.winddirection) (calls : List (Call K)) :
    mean WeatherData.winddirection (p.records calls) =
      (directions calls).sum / (directions calls).length := by
  simp [mean_eq_sum, records, directions, Function.comp_def, h]

theorem convertUnlessMetric_winddirection (cfg : CfgInfo) (wd : WeatherData K) :
    (convertUnlessMetric cfg wd).winddirection = wd.winddirection := by
  unfold convertUnlessMetric
  split <;> rfl

variable [FloorRing K]

/-- The mean offset is in the arc, or a turn before one that is. -/
def TurnsMadeUp (arc : Arc K) (xs : List K) : Prop :=
  0 ≤ meanOffset arc.start xs ∨ meanOffset arc.start xs + 360.0 ≤ arc.length

/-- The same of the mean as it is rounded. One beyond an `int` becomes the smallest. -/
def TurnsRoundedUp (arc : Arc K) (xs : List K) : Prop :=
  if xs.sum / xs.length < 2147483647.5 then
    arc.RoundsInto (meanOffset arc.start xs) ∨ arc.RoundsInto (meanOffset arc.start xs + 360.0)
  else
    arc.Contains (intMin : K)

variable {calls : List (Call K)}

omit [FloorRing K] in
theorem weatherbug_winddir (debug : Bool) (call : Call K) (calls : List (Call K)) :
    ((weatherbug debug).request call ((weatherbug debug).batchOf calls)).winddir =
      (directions calls).sum / (directions calls).length :=
  (weatherbug_averages debug call calls).winddir.trans
    (mean_winddirection convertUnlessMetric_winddirection calls)

omit [FloorRing K] in
theorem pws_winddir (debug : Bool) (call : Call K) (calls : List (Call K)) :
    ((pws debug).request call ((pws debug).batchOf calls)).winddir =
      (directions calls).sum / (directions calls).length := weatherbug_winddir debug call calls

variable [IsStrictOrderedRing K]

theorem roundInt_of_nonneg {x : K} (hnonneg : 0 ≤ x) :
    roundInt x = if x < 2147483647.5 then ⌊x + 0.5⌋ else intMin := by
  have hround : roundHalfAway x = ⌊x + 0.5⌋ := if_pos hnonneg
  have hfloor : 0 ≤ ⌊x + 0.5⌋ := Int.floor_nonneg.mpr (by norm_num; linarith)
  have hmax : x < 2147483647.5 ↔ ⌊x + 0.5⌋ ≤ intMax := by
    rw [← Int.lt_add_one_iff, Int.floor_lt, intMax]
    norm_num
    constructor <;> intro h <;> linarith
  change castInt (some (roundHalfAway x)) = _
  rw [hround, castInt]
  by_cases h : x < 2147483647.5
  · rw [if_pos h, if_pos ⟨by unfold intMin; omega, hmax.mp h⟩]
  · rw [if_neg h, if_neg fun hrange => h (hmax.mpr hrange.2)]

theorem cwop_winddirection (call : Call K) (hpos : ∀ c ∈ calls, 0 ≤ c.wd.winddirection) :
    (cwop.request call (cwop.batchOf calls)).winddirection =
      if (directions calls).sum / (directions calls).length < (2147483647.5 : K) then
        ⌊(directions calls).sum / (directions calls).length + (0.5 : K)⌋
      else intMin := by
  have hnonneg : 0 ≤ (directions calls).sum / (directions calls).length := by
    refine div_nonneg (List.sum_nonneg ?_) (Nat.cast_nonneg _)
    simpa [directions] using hpos
  rw [(cwop_averages call calls).winddirection, mean_winddirection (fun _ _ => rfl),
    roundInt_of_nonneg hnonneg]

/-- On any batch from within the arc. -/
theorem reportedDirection_iff (debug : Bool) (arc : Arc K) (call : Call K) {calls : List (Call K)}
    (hne : calls ≠ []) (h : ∀ c ∈ calls, arc.Contains c.wd.winddirection) :
    (arc.Contains ((weatherbug debug).request call ((weatherbug debug).batchOf calls)).winddir ↔
      TurnsMadeUp arc (directions calls)) ∧
    (arc.Contains ((pws debug).request call ((pws debug).batchOf calls)).winddir ↔
      TurnsMadeUp arc (directions calls)) ∧
    ((∀ c ∈ calls, 0 ≤ c.wd.winddirection) →
      (arc.Contains ((cwop.request call (cwop.batchOf calls)).winddirection : K) ↔
        TurnsRoundedUp arc (directions calls))) := by
  have hne' : directions calls ≠ [] := by simpa [directions] using hne
  have hin : ∀ x ∈ directions calls, arc.Contains x := by
    simpa [directions] using h
  have hmean : arc.Contains ((directions calls).sum / (directions calls).length) ↔
      TurnsMadeUp arc (directions calls) := by
    rw [contains_mean_iff hne' hin, TurnsMadeUp]
    norm_num
  rw [weatherbug_winddir, pws_winddir]
  refine ⟨hmean, hmean, fun hpos => ?_⟩
  obtain ⟨k, hk⟩ := mean_eq arc.start hne'
  obtain ⟨hlower, hupper⟩ := meanOffset_bounds hne' hin
  rw [cwop_winddirection call hpos, TurnsRoundedUp]
  by_cases hrange : (directions calls).sum / (directions calls).length < (2147483647.5 : K)
  · rw [if_pos hrange, if_pos hrange, contains_round_iff hk hlower hupper]
    norm_num
  · rw [if_neg hrange, if_neg hrange]

end

-- ---------------------------------------------------------------------------
-- Around north
-- ---------------------------------------------------------------------------

def windFrom (degrees : ℚ) : Call ℚ :=
  { gustAt 1 0 with wd := { WeatherData.zero with winddirection := degrees } }

def northernArc : Arc ℚ := ⟨350, 20, by norm_num, by norm_num⟩

theorem northWind_reversed :
    (∀ c ∈ [windFrom 350, windFrom 10], northernArc.Contains c.wd.winddirection) ∧
    ¬ northernArc.Contains ((weatherbug false).request (gustAt 2 0)
      ((weatherbug false).batchOf [windFrom 350, windFrom 10])).winddir ∧
    ¬ northernArc.Contains ((pws false).request (gustAt 2 0)
      ((pws false).batchOf [windFrom 350, windFrom 10])).winddir ∧
    ¬ northernArc.Contains ((cwop.request (gustAt 10 0)
      (cwop.batchOf [windFrom 350, windFrom 10])).winddirection : ℚ) := by
  decide +kernel

theorem northwestWind_reported :
    northernArc.Contains ((weatherbug false).request (gustAt 2 0)
      ((weatherbug false).batchOf [windFrom 350, windFrom 356])).winddir ∧
    northernArc.Contains ((pws false).request (gustAt 2 0)
      ((pws false).batchOf [windFrom 350, windFrom 356])).winddir ∧
    northernArc.Contains ((cwop.request (gustAt 2 0)
      (cwop.batchOf [windFrom 350, windFrom 356])).winddirection : ℚ) := by
  obtain ⟨hwbug, hpws, hcwop⟩ := reportedDirection_iff false northernArc (gustAt 2 0)
    (List.cons_ne_nil (windFrom 350) [windFrom 356]) (by decide +kernel)
  refine ⟨hwbug.mpr ?_, hpws.mpr ?_, (hcwop ?_).mpr ?_⟩
  · exact .inl (by decide +kernel)
  · exact .inl (by decide +kernel)
  · decide +kernel
  · rw [TurnsRoundedUp, if_pos (by decide +kernel)]
    exact .inl (by decide +kernel)

end WfPublisher
