import Mathlib
import WfPublisher.Lib.Fallible
import WfPublisher.Util

/-!
# The horizon of the pressure trend

Which reading a call compares with, and which one is the oldest of the last
three hours. A call compares before it dequeues, and dequeues one reading at most,
so the two differ when readings expire otherwise than one by one. Readings are
listed from the newest on, and numbered from the oldest on.
-/

namespace WfPublisher

open Fallible

section

-- ---------------------------------------------------------------------------
-- Expiry, on the clock alone
-- ---------------------------------------------------------------------------

def expired (now : Int) (times : List Int) : Nat := times.countP fun t => 60 * 60 * 3 ≤ now - t

def older (now : Int) (times : List Int) : Nat := times.countP fun t => 60 * 60 * 3 < now - t

/-- One reading is let go at each call, as long as there are expired ones left. -/
def released : List Int → Nat
  | [] => 0
  | now :: past => min (released past + 1) (expired now past)

/-- At every call those that were let go are those older than three hours. -/
def OnTime : List Int → Prop
  | [] => True
  | now :: past => released past = older now past ∧ OnTime past

/-- Readings expire one by one, and each is exactly three hours old at a call. -/
def Timely : List Int → Prop
  | now :: prev :: past => older now (prev :: past) = expired prev (prev :: past) ∧
    expired prev (prev :: past) ≤ older prev (prev :: past) + 1 ∧ Timely (prev :: past)
  | _ => True

example : Timely [16200, 10800, 5400, 0] := by simp [Timely, older, expired]

example : ¬ Timely [10801, 10799, 0] := by simp [Timely, older, expired]

def Forward (times : List Int) : Prop := times.Pairwise fun later earlier => earlier ≤ later

instance (times : List Int) : Decidable (Forward times) :=
  inferInstanceAs (Decidable (times.Pairwise _))

-- ---------------------------------------------------------------------------
-- What is compared with
-- ---------------------------------------------------------------------------

variable {K : Type}

def timesOf (history : List (TrendData K)) : List Int := history.map TrendData.t

/-- The oldest reading, the one of the call included, that is at most three hours old. -/
def reference (call : TrendData K) (past : List (TrendData K)) : TrendData K :=
  ((call :: past).reverse.find? fun r => call.t - r.t ≤ 60 * 60 * 3).getD call

def remaining (call : TrendData K) (past : List (TrendData K)) : TrendData K :=
  (call :: past).reverse[released (timesOf past)]?.getD call

variable [Field K] [LinearOrder K]

def trendCalls : List (TrendData K) → Except Fault (List Int × List (TrendData K))
  | [] => .ok ([], [])
  | call :: past => do
    let (trends, trend) ← trendCalls past
    let (pTrend, trend) ← calcPressureTrend call.t call.t call.p trend
    return (pTrend :: trends, trend)

def trendsSince (since : TrendData K → List (TrendData K) → TrendData K) :
    List (TrendData K) → List Int
  | [] => []
  | call :: past => SignType.sign (call.p - (since call past).p) :: trendsSince since past

/-- At every call the reading that remains tells the same as the reference. -/
def SameTrend : List (TrendData K) → Prop
  | [] => True
  | call :: past => SignType.sign (call.p - (remaining call past).p) =
      SignType.sign (call.p - (reference call past).p) ∧ SameTrend past

end

-- ---------------------------------------------------------------------------
-- Lists in the order of age
-- ---------------------------------------------------------------------------

section
variable {times past : List Int} {now prev t : Int} {i : Nat}

theorem Forward.getElem?_reverse {P : Int → Prop} [DecidablePred P] (hforward : Forward times)
    (hP : ∀ s t, s ≤ t → P t → P s) (ht : times.reverse[i]? = some t) :
    P t ↔ i < times.countP P := by
  induction times with
  | nil => cases ht
  | cons now past ih =>
    obtain ⟨hbefore, hforward⟩ := List.pairwise_cons.mp hforward
    have hall : P now → past.countP P = past.length := by
      intro hnow
      refine List.countP_eq_length.mpr fun s hs => ?_
      exact decide_eq_true (hP s now (hbefore s hs) hnow)
    have hle : past.countP P ≤ past.length := List.countP_le_length
    rw [List.reverse_cons] at ht
    rw [List.countP_cons]
    obtain hlt | heq | hgt := lt_trichotomy i past.length
    · rw [List.getElem?_append_left (by simpa using hlt)] at ht
      rw [ih hforward ht]
      by_cases hnow : P now
      · simp [hall hnow, hnow, hlt, Nat.lt_succ_of_lt hlt]
      · simp [hnow]
    · subst heq
      rw [← List.length_reverse, List.getElem?_concat_length] at ht
      cases ht
      by_cases hnow : P t
      · simp [hall hnow, hnow]
      · simp [hnow, hle]
    · have hnone : (past.reverse ++ [now])[i]? = none := by
        rw [List.getElem?_eq_none_iff]
        simpa using hgt
      rw [hnone] at ht
      cases ht

theorem find?_eq_getElem? {α : Type} {p : α → Bool} {l : List α} {k : Nat}
    (h : ∀ i a, l[i]? = some a → (p a = false ↔ i < k)) : l.find? p = l[k]? := by
  induction l generalizing k with
  | nil => rfl
  | cons a l ih =>
    cases k with
    | zero =>
      have ha : p a = true := by
        have hiff := h 0 a rfl
        simpa using hiff
      simp [ha]
    | succ k =>
      have ha : p a = false := (h 0 a rfl).mpr (Nat.succ_pos k)
      rw [List.find?_cons, ha, List.getElem?_cons_succ]
      refine ih fun i b hb => ?_
      rw [h (i + 1) b (by simpa using hb), Nat.succ_lt_succ_iff]

theorem expired_self (now : Int) (past : List Int) :
    expired now (now :: past) = expired now past := by
  simp [expired]

theorem older_self (now : Int) (past : List Int) : older now (now :: past) = older now past := by
  simp [older]

theorem expired_mono (h : prev ≤ now) (times : List Int) :
    expired prev times ≤ expired now times := by
  refine List.countP_mono_left fun t _ hold => ?_
  simp only [decide_eq_true_eq] at hold ⊢
  omega

theorem released_le_expired (hforward : Forward (now :: past)) :
    released past ≤ expired now past := by
  cases past with
  | nil => exact Nat.zero_le _
  | cons prev past =>
    have hle : prev ≤ now := (List.pairwise_cons.mp hforward).1 prev List.mem_cons_self
    calc released (prev :: past) ≤ expired prev past := Nat.min_le_right _ _
      _ = expired prev (prev :: past) := (expired_self prev past).symm
      _ ≤ expired now (prev :: past) := expired_mono hle _

theorem released_cons (hforward : Forward (now :: past)) : released (now :: past) =
    if released past < expired now past then released past + 1 else released past := by
  have hle := released_le_expired hforward
  rw [released]
  split
  · rename_i hlt
    exact Nat.min_eq_left hlt
  · rename_i hge
    rw [Nat.min_eq_right (Nat.le_succ_of_le (not_lt.mp hge))]
    exact Nat.le_antisymm (not_lt.mp hge) hle

theorem older_le_expired (now : Int) (times : List Int) : older now times ≤ expired now times := by
  refine List.countP_mono_left fun t _ hold => ?_
  simp only [decide_eq_true_eq] at hold ⊢
  exact hold.le

theorem expired_le_older (h : prev < now) (times : List Int) :
    expired prev times ≤ older now times := by
  refine List.countP_mono_left fun t _ hold => ?_
  simp only [decide_eq_true_eq] at hold ⊢
  omega

theorem released_step_iff (hforward : Forward (now :: prev :: past))
    (h : released past = older prev past) :
    released (prev :: past) = older now (prev :: past) ↔
      older now (prev :: past) = expired prev (prev :: past) ∧
        expired prev (prev :: past) ≤ older prev (prev :: past) + 1 := by
  have hle : prev ≤ now := (List.pairwise_cons.mp hforward).1 prev List.mem_cons_self
  have hgap := older_le_expired prev past
  have hnow : prev < now → expired prev (prev :: past) ≤ older now (prev :: past) :=
    fun hlt => expired_le_older hlt _
  have hsame : prev = now → older now (prev :: past) = older prev past := by
    rintro rfl
    exact older_self prev past
  rw [expired_self] at hnow ⊢
  rw [older_self prev past, released, h]
  obtain hlt | heq := lt_or_eq_of_le hle
  · have := hnow hlt
    omega
  · have := hsame heq
    omega

theorem timely_iff {times : List Int} (hforward : Forward times) :
    Timely times ↔ OnTime times := by
  induction times with
  | nil => exact Iff.rfl
  | cons now past ih =>
    cases past with
    | nil => exact iff_of_true trivial ⟨rfl, trivial⟩
    | cons prev past =>
      have htail := ih (List.pairwise_cons.mp hforward).2
      rw [Timely, OnTime, htail, ← and_assoc]
      refine and_congr_left fun hontime => ?_
      exact (released_step_iff hforward hontime.1).symm

-- ---------------------------------------------------------------------------
-- What a call compares with
-- ---------------------------------------------------------------------------

variable {K : Type} {call : TrendData K} {past history : List (TrendData K)}

theorem getElem?_timesOf {r : TrendData K} (hr : history.reverse[i]? = some r) :
    (timesOf history).reverse[i]? = some r.t := by
  rw [timesOf, ← List.map_reverse, List.getElem?_map, hr, Option.map_some]

theorem reference_eq (hforward : Forward (timesOf (call :: past))) : reference call past =
    (call :: past).reverse[older call.t (timesOf past)]?.getD call := by
  unfold reference
  congr 1
  refine find?_eq_getElem? fun i r hr => ?_
  have hold := hforward.getElem?_reverse (P := fun t => 60 * 60 * 3 < call.t - t)
    (fun s t hle hage => by omega) (getElem?_timesOf hr)
  have hself : older call.t (timesOf (call :: past)) = older call.t (timesOf past) :=
    older_self call.t (timesOf past)
  rw [decide_eq_false_iff_not, not_le, ← hself]
  exact hold

theorem remaining_expired_iff {r : TrendData K} (hforward : Forward (timesOf (call :: past)))
    (hr : (call :: past).reverse[i]? = some r) :
    60 * 60 * 3 ≤ call.t - r.t ↔ i < expired call.t (timesOf past) := by
  have hold := hforward.getElem?_reverse (P := fun t => 60 * 60 * 3 ≤ call.t - t)
    (fun s t hle hage => by omega) (getElem?_timesOf hr)
  have hself : expired call.t (timesOf (call :: past)) = expired call.t (timesOf past) :=
    expired_self call.t (timesOf past)
  rw [← hself]
  exact hold

theorem expired_le_length (now : Int) (past : List (TrendData K)) :
    expired now (timesOf past) ≤ past.length := by
  calc expired now (timesOf past) ≤ (timesOf past).length := List.countP_le_length
    _ = past.length := List.length_map _

theorem released_le_length (hforward : Forward (timesOf (call :: past))) :
    released (timesOf past) ≤ past.length := by
  calc released (timesOf past) ≤ expired call.t (timesOf past) := released_le_expired hforward
    _ ≤ past.length := expired_le_length call.t past

theorem getElem?_remaining (hforward : Forward (timesOf (call :: past))) :
    (call :: past).reverse[released (timesOf past)]? = some (remaining call past) := by
  have hlt : released (timesOf past) < (call :: past).reverse.length := by
    rw [List.length_reverse, List.length_cons]
    exact Nat.lt_succ_of_le (released_le_length hforward)
  rw [remaining, List.getElem?_eq_getElem hlt, Option.getD_some]

theorem getLast?_queue (call : TrendData K) (past : List (TrendData K)) :
    ((past.reverse.drop (released (timesOf past))).reverse.getLast?).getD call =
      remaining call past := by
  unfold remaining
  rw [List.getLast?_reverse, List.head?_drop, List.reverse_cons]
  obtain hlt | heq | hgt := lt_trichotomy (released (timesOf past)) past.reverse.length
  · rw [List.getElem?_append_left hlt]
  · rw [heq, List.getElem?_concat_length, List.getElem?_eq_none (Nat.le_refl _)]
    rfl
  · rw [List.getElem?_eq_none hgt.le, List.getElem?_eq_none]
    simpa using hgt

theorem queue_cons (hforward : Forward (timesOf (call :: past))) :
    (call :: if call.t - (remaining call past).t ≥ 60 * 60 * 3 then
        (past.reverse.drop (released (timesOf past))).reverse.dropLast
      else (past.reverse.drop (released (timesOf past))).reverse) =
      ((call :: past).reverse.drop (released (timesOf (call :: past)))).reverse := by
  have hage : call.t - (remaining call past).t ≥ 60 * 60 * 3 ↔
      released (timesOf past) < expired call.t (timesOf past) :=
    remaining_expired_iff hforward (getElem?_remaining hforward)
  have hreleased : released (timesOf (call :: past)) =
      if released (timesOf past) < expired call.t (timesOf past) then
        released (timesOf past) + 1 else released (timesOf past) := released_cons hforward
  rw [hreleased, List.reverse_cons]
  by_cases hlt : released (timesOf past) < expired call.t (timesOf past)
  · rw [if_pos hlt, if_pos (hage.mpr hlt)]
    have hle : released (timesOf past) + 1 ≤ past.reverse.length := by
      calc released (timesOf past) + 1 ≤ expired call.t (timesOf past) := hlt
        _ ≤ past.length := expired_le_length call.t past
        _ = past.reverse.length := List.length_reverse.symm
    rw [List.drop_append_of_le_length hle, List.reverse_concat, List.dropLast_reverse,
      List.tail_drop]
  · rw [if_neg hlt, if_neg (hage.not.mpr hlt)]
    have hle : released (timesOf past) ≤ past.reverse.length := by
      rw [List.length_reverse]
      exact released_le_length hforward
    rw [List.drop_append_of_le_length hle, List.reverse_concat]

section
variable [Field K] [LinearOrder K] [IsStrictOrderedRing K]

theorem trend_eq_sign (pressure since : K) :
    (if since < pressure then 1 else if since > pressure then -1 else 0) =
      (SignType.sign (pressure - since) : Int) := by
  obtain hlt | heq | hgt := lt_trichotomy since pressure
  · rw [if_pos hlt, sign_pos (sub_pos.mpr hlt)]
    rfl
  · simp [heq]
  · rw [if_neg hgt.not_gt, if_pos hgt, sign_neg (sub_neg.mpr hgt)]
    rfl

theorem trendCalls_ok (hforward : Forward (timesOf history)) :
    trendCalls history = .ok (trendsSince remaining history,
      (history.reverse.drop (released (timesOf history))).reverse) := by
  induction history with
  | nil => rfl
  | cons call past ih =>
    have hqueue := queue_cons hforward
    rw [trendCalls, ih (List.pairwise_cons.mp hforward).2, ok_bind]
    dsimp only
    rw [calcPressureTrend_eq, ok_bind]
    unfold pressureTrend
    dsimp only
    rw [getLast?_queue, hqueue, trend_eq_sign]
    rfl

theorem signType_cast_injective : Function.Injective fun s : SignType => (s : Int) := by decide

omit [IsStrictOrderedRing K] in
theorem trendsSince_eq_iff :
    trendsSince remaining history = trendsSince reference history ↔ SameTrend history := by
  induction history with
  | nil => exact iff_of_true rfl trivial
  | cons call past ih =>
    simp only [trendsSince, SameTrend, List.cons.injEq, ih]
    exact and_congr_left fun _ => signType_cast_injective.eq_iff

theorem trends_right_iff (hforward : Forward (timesOf history)) :
    (trendCalls history).map Prod.fst = .ok (trendsSince reference history) ↔
      SameTrend history := by
  rw [trendCalls_ok hforward, ← trendsSince_eq_iff]
  change Except.ok _ = Except.ok _ ↔ _
  rw [Except.ok.injEq]

end

-- ---------------------------------------------------------------------------
-- Whatever the pressures
-- ---------------------------------------------------------------------------

def readings (pressure : Nat → K) : List Int → List (TrendData K)
  | [] => []
  | now :: past => ⟨now, pressure past.length⟩ :: readings pressure past

theorem timesOf_readings (pressure : Nat → K) (times : List Int) :
    timesOf (readings pressure times) = times := by
  induction times with
  | nil => rfl
  | cons now past ih => exact congrArg (now :: ·) ih

theorem pressure_readings {pressure : Nat → K} {times : List Int} {r : TrendData K}
    (hr : (readings pressure times).reverse[i]? = some r) : r.p = pressure i := by
  induction times with
  | nil => cases hr
  | cons now past ih =>
    have hlength : (readings pressure past).reverse.length = past.length := by
      rw [List.length_reverse, ← List.length_map TrendData.t]
      exact congrArg List.length (timesOf_readings pressure past)
    rw [readings, List.reverse_cons] at hr
    obtain hlt | heq | hgt := lt_trichotomy i past.length
    · rw [List.getElem?_append_left (hlength ▸ hlt)] at hr
      exact ih hr
    · rw [heq, ← hlength, List.getElem?_concat_length] at hr
      cases hr
      change pressure (readings pressure past).reverse.length = pressure i
      rw [hlength, heq]
    · have hnone : ((readings pressure past).reverse ++ [⟨now, pressure past.length⟩])[i]? =
          none := by
        rw [List.getElem?_eq_none_iff, List.length_append, hlength]
        exact hgt
      rw [hnone] at hr
      cases hr

theorem getElem?_reference (hforward : Forward (timesOf (call :: past))) :
    (call :: past).reverse[older call.t (timesOf past)]? = some (reference call past) := by
  have hlt : older call.t (timesOf past) < (call :: past).reverse.length := by
    rw [List.length_reverse, List.length_cons]
    calc older call.t (timesOf past) ≤ expired call.t (timesOf past) := older_le_expired _ _
      _ ≤ past.length := expired_le_length call.t past
      _ < past.length + 1 := Nat.lt_succ_self _
  rw [reference_eq hforward, List.getElem?_eq_getElem hlt, Option.getD_some]

section
variable [Field K] [LinearOrder K] [IsStrictOrderedRing K]

omit [IsStrictOrderedRing K] in
theorem SameTrend.of_onTime (hforward : Forward (timesOf history))
    (hontime : OnTime (timesOf history)) : SameTrend history := by
  induction history with
  | nil => trivial
  | cons call past ih =>
    obtain ⟨hreleased, hontime⟩ := hontime
    have hsame : remaining call past = reference call past := by
      rw [reference_eq hforward, remaining]
      exact congrArg (fun i => (call :: past).reverse[i]?.getD call) hreleased
    exact ⟨by rw [hsame], ih (List.pairwise_cons.mp hforward).2 hontime⟩

theorem released_eq_older {now : Int} {past : List Int} (hforward : Forward (now :: past))
    (hsame : ∀ history : List (TrendData K), timesOf history = now :: past → SameTrend history) :
    released past = older now past := by
  by_contra hne
  let pressure : Nat → K := fun i => if i = released past then 0 else 1
  let call : TrendData K := ⟨now, pressure past.length⟩
  have htimes : timesOf (readings pressure past) = past := timesOf_readings pressure past
  have hforward' : Forward (timesOf (call :: readings pressure past)) := by
    change Forward (now :: timesOf (readings pressure past))
    rwa [htimes]
  have hremaining : (remaining call (readings pressure past)).p = 0 := by
    have hget : (readings pressure (now :: past)).reverse[released (timesOf _)]? = some _ :=
      getElem?_remaining hforward'
    rw [pressure_readings hget, htimes]
    exact if_pos rfl
  have hreference : (reference call (readings pressure past)).p = 1 := by
    have hget : (readings pressure (now :: past)).reverse[older now (timesOf _)]? = some _ :=
      getElem?_reference hforward'
    rw [pressure_readings hget, htimes]
    exact if_neg (Ne.symm hne)
  have htrend := (hsame (readings pressure (now :: past)) (timesOf_readings _ _)).1
  change SignType.sign (call.p - (remaining call (readings pressure past)).p) =
    SignType.sign (call.p - (reference call (readings pressure past)).p) at htrend
  rw [hremaining, hreference] at htrend
  by_cases hlast : past.length = released past
  · have hp : call.p = 0 := if_pos hlast
    simp [hp] at htrend
  · have hp : call.p = 1 := if_neg hlast
    simp [hp] at htrend

theorem sameTrend_whatever_iff {times : List Int} (hforward : Forward times) :
    (∀ history : List (TrendData K), timesOf history = times → SameTrend history) ↔
      Timely times := by
  rw [timely_iff hforward]
  constructor
  · intro hsame
    induction times with
    | nil => trivial
    | cons now past ih =>
      refine ⟨released_eq_older hforward hsame, ih (List.pairwise_cons.mp hforward).2 ?_⟩
      intro history htimes
      exact (hsame (⟨now, 0⟩ :: history) (congrArg (now :: ·) htimes)).2
  · rintro hontime history rfl
    exact SameTrend.of_onTime hforward hontime

/-- The calls return the trend since the reference exactly when the readings that
remain agree with it, and they do for all pressures exactly when the calls are timely. -/
theorem trends_right_since_reference (hforward : Forward (timesOf history)) :
    ((trendCalls history).map Prod.fst = .ok (trendsSince reference history) ↔
      SameTrend history) ∧
    ((∀ history' : List (TrendData K), timesOf history' = timesOf history →
      (trendCalls history').map Prod.fst = .ok (trendsSince reference history')) ↔
      Timely (timesOf history)) := by
  refine ⟨trends_right_iff hforward, ?_⟩
  rw [← sameTrend_whatever_iff (K := K) hforward]
  refine forall_congr' fun history' => forall_congr' fun htimes => ?_
  exact trends_right_iff (htimes ▸ hforward)

end

end

theorem trends_right_since_reference_regular :
    ((trendCalls [⟨16200, 1004⟩, ⟨10800, 1001⟩, ⟨5400, 1003⟩, ⟨0, (1002 : ℚ)⟩]).map Prod.fst =
        .ok (trendsSince reference
          [⟨16200, 1004⟩, ⟨10800, 1001⟩, ⟨5400, 1003⟩, ⟨0, (1002 : ℚ)⟩]) ↔
      SameTrend [⟨16200, 1004⟩, ⟨10800, 1001⟩, ⟨5400, 1003⟩, ⟨0, (1002 : ℚ)⟩]) ∧
    ((∀ history' : List (TrendData ℚ), timesOf history' = [16200, 10800, 5400, 0] →
      (trendCalls history').map Prod.fst = .ok (trendsSince reference history')) ↔
      Timely [16200, 10800, 5400, 0]) :=
  trends_right_since_reference (by decide)

theorem outage_trend :
    Forward (timesOf [⟨14400, 1010⟩, ⟨0, (1000 : ℚ)⟩]) ∧
    (trendCalls [⟨14400, 1010⟩, ⟨0, (1000 : ℚ)⟩]).map Prod.fst = .ok [1, 0] ∧
    trendsSince reference [⟨14400, 1010⟩, ⟨0, (1000 : ℚ)⟩] = [0, 0] :=
  ⟨by decide, rfl, by decide +kernel⟩

end WfPublisher
