import Mathlib
import WfPublisher.Publish.Averages

/-!
# Which records are reported

The calls off the mark minutes are all accounted for: each is in one report or
still in the statics. The record of a call in a mark minute is in neither,
whether the call sends a report or has nothing to send.
-/

namespace WfPublisher

open BatchPublisher Extremes

section
variable {K : Type} [Field K] [LinearOrder K]

-- ---------------------------------------------------------------------------
-- Accounting for the records
-- ---------------------------------------------------------------------------

section
variable {Request γ : Type} [LE γ]

/-- The gust a call brings, in the units of its publisher. -/
def gustOf (p : BatchPublisher K Request) (call : Call K) : K :=
  (p.convert call.cfg call.wd).gustspeed

/-- Every record is in exactly one report or in the statics, and its gust is
covered there; `shown` is how the report shows a gust. -/
structure Conserved (p : BatchPublisher K Request) (shown : K → γ) (reported : Request → γ)
    (calls : List (Call K)) : Prop where
  /-- A report is made from the records it covers, and from no others. -/
  reports : ∀ r ∈ (p.ledger calls).reports, r.request = p.request r.call (p.batchOf r.covers)
  pending : (p.ledger calls).batch = p.batchOf (p.ledger calls).pending
  accounted :
    ((p.ledger calls).reports.flatMap Report.covers ++ (p.ledger calls).pending).Perm calls
  gusts : ∀ call ∈ calls,
    (∃ r ∈ (p.ledger calls).reports, shown (gustOf p call) ≤ reported r.request) ∨
      gustOf p call ≤ (p.ledger calls).batch.ws.gustspeed

variable {p : BatchPublisher K Request} {shown : K → γ} {reported : Request → γ}

theorem gustOf_le (hadd : ∀ ws wd, (p.add ws wd).gustspeed =
      if wd.gustspeed > ws.gustspeed then wd.gustspeed else ws.gustspeed)
    {call : Call K} {calls : List (Call K)} (h : call ∈ calls) :
    gustOf p call ≤ (p.batchOf calls).ws.gustspeed := by
  rw [gust_batchOf hadd, largestGust_eq_max, records, List.map_map]
  exact le_foldl_max 0 (List.mem_map_of_mem h)

theorem conserved_iff_of
    (hadd : ∀ ws wd, (p.add ws wd).gustspeed =
      if wd.gustspeed > ws.gustspeed then wd.gustspeed else ws.gustspeed)
    (calls : List (Call K)) :
    Conserved p shown reported calls ↔ ∀ call ∈ calls, ¬ p.AtMark call.time := by
  have hright := ledger_right p calls
  have hcovered := hright.covered
  constructor
  · intro h call hcall
    have hperm := h.accounted
    rw [hcovered] at hperm
    have hmem := hperm.mem_iff.mpr hcall
    simpa [offMark] using (List.mem_filter.mp hmem).2
  · intro hoff
    have hall : p.offMark calls = calls := by
      rw [offMark, List.filter_eq_self]
      intro call hcall
      simpa using hoff call hcall
    rw [hall] at hcovered
    have hpending : (p.ledger calls).pending = calls := by
      rwa [hright.reports_eq_nil hoff, List.flatMap_nil, List.nil_append] at hcovered
    refine ⟨fun r hr => (hright.reports r hr).2.2, hright.batch, .of_eq hcovered, ?_⟩
    -- nothing has been reported yet
    intro call hcall
    refine .inr ?_
    rw [hright.batch, hpending]
    exact gustOf_le hadd hcall

end

theorem batchedRecords_conserved_iff [IsStrictOrderedRing K] [FloorRing K] (debug : Bool)
    (calls : List (Call K)) :
    (Conserved cwop roundInt CwopRequest.gustspeed calls ↔
      ∀ call ∈ calls, (call.time.lt.tmMin : Nat) % 10 ≠ 0) ∧
    (Conserved (weatherbug debug) id WeatherbugRequest.windgustmph calls ↔
      ∀ call ∈ calls, (call.time.lt.tmMin : Nat) % 2 ≠ 0) ∧
    (Conserved (pws debug) id PwsRequest.windgustmph calls ↔
      ∀ call ∈ calls, (call.time.lt.tmMin : Nat) % 2 ≠ 0) :=
  ⟨conserved_iff_of (fun _ _ => rfl) calls, conserved_iff_of (fun _ _ => rfl) calls,
    conserved_iff_of (fun _ _ => rfl) calls⟩

end

-- ---------------------------------------------------------------------------
-- A gust in a mark minute
-- ---------------------------------------------------------------------------

def noStrings : CfgInfo := ⟨none, none, none, none, 1⟩
def noStation : StationInfo := ⟨none, none, none, none, 0⟩

def gustAt (minute : Int) (gust : ℚ) : Call ℚ where
  cfg := noStrings
  station := noStation
  time := ⟨utc (60 * minute), localtime (utc (60 * minute))⟩
  wd := { WeatherData.zero with gustspeed := gust }

theorem oddMinutes_conserved :
    Conserved cwop roundInt CwopRequest.gustspeed [gustAt 9 1, gustAt 11 2] ∧
    Conserved (weatherbug false) id WeatherbugRequest.windgustmph [gustAt 9 1, gustAt 11 2] ∧
    Conserved (pws false) id PwsRequest.windgustmph [gustAt 9 1, gustAt 11 2] := by
  have hodd : ∀ call ∈ [gustAt 9 1, gustAt 11 2], (call.time.lt.tmMin : Nat) % 2 ≠ 0 := by
    decide +kernel
  obtain ⟨hcwop, hweatherbug, hpws⟩ :=
    batchedRecords_conserved_iff (K := ℚ) false [gustAt 9 1, gustAt 11 2]
  refine ⟨hcwop.mpr fun call hcall hmark => ?_, hweatherbug.mpr hodd, hpws.mpr hodd⟩
  exact hodd call hcall (by omega)

theorem markGust_dropped :
    ¬ Conserved cwop roundInt CwopRequest.gustspeed [gustAt 9 1, gustAt 10 30, gustAt 11 2] ∧
    ¬ Conserved (weatherbug false) id WeatherbugRequest.windgustmph
      [gustAt 9 1, gustAt 10 30, gustAt 11 2] ∧
    ¬ Conserved (pws false) id PwsRequest.windgustmph
      [gustAt 9 1, gustAt 10 30, gustAt 11 2] := by
  refine ⟨fun h => ?_, fun h => ?_, fun h => ?_⟩
  all_goals
    have hgust := h.gusts (gustAt 10 30) (by simp)
    revert hgust
    decide +kernel

end WfPublisher
