import Mathlib
import WfPublisher.Publish.Batch

/-!
# The calls of a batching publisher

One call after the other, with a ledger of what has become of their records: which
of them the statics hold, and which of them each report was made from.
-/

namespace WfPublisher

/-- A request that was sent, the call that sent it and those it was made from. -/
structure Report (K Request : Type) where
  call : Call K
  covers : List (Call K)
  request : Request

structure Ledger (K Request : Type) where
  batch : Batch K
  /-- The calls since the last report. -/
  since : List (Call K)
  /-- Those of them that added their record. -/
  pending : List (Call K)
  reports : List (Report K Request)

section
variable {K Request : Type} [Zero K] [Neg K] [OfScientific K] (p : BatchPublisher K Request)

-- ---------------------------------------------------------------------------
-- Keeping the ledger
-- ---------------------------------------------------------------------------

def Ledger.initial : Ledger K Request := ⟨.empty, [], [], []⟩

def Ledger.step (l : Ledger K Request) (call : Call K) : Ledger K Request :=
  let (batch, request) := p.update call l.batch
  { batch
    since := if request.isSome then [] else l.since ++ [call]
    pending :=
      match p.path call.time l.batch with
      | .accumulate => l.pending ++ [call]
      | .skip => l.pending
      | .send => []
    reports := l.reports ++ request.toList.map fun request => ⟨call, l.pending, request⟩ }

namespace BatchPublisher

def ledger (calls : List (Call K)) : Ledger K Request := calls.foldl (Ledger.step p) .initial

def records (calls : List (Call K)) : List (WeatherData K) :=
  calls.map fun call => p.convert call.cfg call.wd

/-- What the statics hold when exactly these calls have added their records. -/
def batchOf (calls : List (Call K)) : Batch K :=
  ⟨(p.records calls).foldl p.add .zero, calls.length⟩

def offMark (calls : List (Call K)) : List (Call K) :=
  calls.filter fun call => ¬ p.AtMark call.time

variable {p} {calls : List (Call K)} {call : Call K} {b : Batch K}

-- ---------------------------------------------------------------------------
-- One call
-- ---------------------------------------------------------------------------

theorem update_cases (call : Call K) (b : Batch K) :
    (¬ p.AtMark call.time ∧ p.path call.time b = .accumulate ∧
      p.update call b = (p.accumulate call b, none)) ∨
    (p.AtMark call.time ∧ b.count = 0 ∧ p.path call.time b = .skip ∧
      p.update call b = (b, none)) ∨
    (p.AtMark call.time ∧ b.count ≠ 0 ∧ p.path call.time b = .send ∧
      p.update call b = (.empty, some (p.request call b))) := by
  by_cases hmark : p.AtMark call.time
  · by_cases hcount : b.count = 0
    · have hpath : p.path call.time b = .skip := by simp [path, hmark, hcount]
      exact .inr (.inl ⟨hmark, hcount, hpath, by simp [update, hpath]⟩)
    · have hpath : p.path call.time b = .send := by simp [path, hmark, hcount]
      exact .inr (.inr ⟨hmark, hcount, hpath, by simp [update, hpath]⟩)
  · have hpath : p.path call.time b = .accumulate := by simp [path, hmark]
    exact .inl ⟨hmark, hpath, by simp [update, hpath]⟩

theorem update_isSome : (p.update call b).2.isSome ↔ p.AtMark call.time ∧ b.count ≠ 0 := by
  obtain ⟨hmark, -, h⟩ | ⟨hmark, hcount, -, h⟩ | ⟨hmark, hcount, -, h⟩ :=
    update_cases (p := p) call b
  · simp [h, hmark]
  · simp [h, hcount]
  · simp [h, hmark, hcount]

theorem update_of_mark (call : Call K) (hmark : p.AtMark call.time) (b : Batch K) :
    (p.update call b).1.count = 0 ∧ ((p.update call b).2 = none ↔ b.count = 0) := by
  obtain ⟨hnot, -⟩ | ⟨-, hcount, -, h⟩ | ⟨-, hcount, -, h⟩ := update_cases (p := p) call b
  · exact absurd hmark hnot
  · simp [h, hcount]
  · simp [h, hcount, Batch.empty]

theorem update_of_not_mark (call : Call K) (hmark : ¬ p.AtMark call.time) (b : Batch K) :
    (p.update call b).1.count = b.count + 1 ∧ (p.update call b).2 = none := by
  obtain ⟨-, -, h⟩ | ⟨hat, -⟩ | ⟨hat, -⟩ := update_cases (p := p) call b
  · simp [h, accumulate]
  · exact absurd hat hmark
  · exact absurd hat hmark

theorem batchOf_concat (calls : List (Call K)) (call : Call K) :
    p.batchOf (calls ++ [call]) = p.accumulate call (p.batchOf calls) := by
  simp [batchOf, accumulate, records]

theorem ledger_concat (calls : List (Call K)) (call : Call K) :
    p.ledger (calls ++ [call]) = (p.ledger calls).step p call := by
  simp [ledger]

end BatchPublisher

-- ---------------------------------------------------------------------------
-- Over a run
-- ---------------------------------------------------------------------------

structure Ledger.Right (calls : List (Call K)) (l : Ledger K Request) : Prop where
  batch : l.batch = p.batchOf l.pending
  pending : l.pending = p.offMark l.since
  reports : ∀ r ∈ l.reports, p.AtMark r.call.time ∧ r.covers ≠ [] ∧
    r.request = p.request r.call (p.batchOf r.covers)
  mem : ∀ r ∈ l.reports, r.call ∈ calls
  covered : l.reports.flatMap Report.covers ++ l.pending = p.offMark calls

variable {p} {calls : List (Call K)} {call : Call K} {l : Ledger K Request}

namespace BatchPublisher

omit [Zero K] [Neg K] [OfScientific K] in
theorem offMark_concat_of_mark (calls : List (Call K)) (hmark : p.AtMark call.time) :
    p.offMark (calls ++ [call]) = p.offMark calls := by
  simp [offMark, hmark]

omit [Zero K] [Neg K] [OfScientific K] in
theorem offMark_concat_of_not (calls : List (Call K)) (hmark : ¬ p.AtMark call.time) :
    p.offMark (calls ++ [call]) = p.offMark calls ++ [call] := by
  simp [offMark, hmark]

theorem count_batchOf (calls : List (Call K)) : (p.batchOf calls).count = calls.length := rfl

end BatchPublisher

open BatchPublisher

theorem Ledger.Right.step (h : l.Right p calls) (call : Call K) :
    (l.step p call).Right p (calls ++ [call]) := by
  have hmem : ∀ r ∈ l.reports, r.call ∈ calls ++ [call] :=
    fun r hr => List.mem_append_left _ (h.mem r hr)
  obtain ⟨hmark, hpath, hupdate⟩ | ⟨hmark, hcount, hpath, hupdate⟩ |
    ⟨hmark, hcount, hpath, hupdate⟩ := update_cases (p := p) call l.batch
  · simp only [Ledger.step, hpath, hupdate, Option.isSome_none, Bool.false_eq_true, if_false,
      Option.toList_none, List.map_nil, List.append_nil]
    refine ⟨?_, ?_, h.reports, hmem, ?_⟩
    · rw [batchOf_concat, ← h.batch]
    · rw [offMark_concat_of_not _ hmark, ← h.pending]
    · rw [offMark_concat_of_not _ hmark, ← h.covered, List.append_assoc]
  · simp only [Ledger.step, hpath, hupdate, Option.isSome_none, Bool.false_eq_true, if_false,
      Option.toList_none, List.map_nil, List.append_nil]
    refine ⟨h.batch, ?_, h.reports, hmem, ?_⟩
    · rw [offMark_concat_of_mark _ hmark, ← h.pending]
    · rw [offMark_concat_of_mark _ hmark, ← h.covered]
  · simp only [Ledger.step, hpath, hupdate, Option.isSome_some, if_true, Option.toList_some,
      List.map_singleton]
    refine ⟨rfl, rfl, fun r hr => ?_, fun r hr => ?_, ?_⟩
    · obtain hr | hr := List.mem_append.mp hr
      · exact h.reports r hr
      · cases List.mem_singleton.mp hr
        refine ⟨hmark, fun hnil => hcount ?_, ?_⟩
        · rw [h.batch, count_batchOf]
          simpa using hnil
        · rw [← h.batch]
    · obtain hr | hr := List.mem_append.mp hr
      · exact hmem r hr
      · cases List.mem_singleton.mp hr
        exact List.mem_append_right _ (List.mem_singleton_self _)
    · rw [offMark_concat_of_mark _ hmark, ← h.covered]
      simp

theorem ledger_right (p : BatchPublisher K Request) (calls : List (Call K)) :
    (p.ledger calls).Right p calls := by
  induction calls using List.reverseRecOn with
  | nil => exact ⟨rfl, rfl, List.forall_mem_nil _, List.forall_mem_nil _, rfl⟩
  | append_singleton calls call ih =>
    rw [ledger_concat]
    exact ih.step call

theorem Ledger.Right.reports_eq_nil (h : l.Right p calls)
    (hoff : ∀ call ∈ calls, ¬ p.AtMark call.time) : l.reports = [] :=
  List.eq_nil_iff_forall_not_mem.mpr fun r hr => hoff r.call (h.mem r hr) (h.reports r hr).1

theorem Ledger.Right.count (h : l.Right p calls) : l.batch.count = (p.offMark l.since).length := by
  rw [h.batch, count_batchOf, h.pending]

theorem Ledger.Right.sends_iff (h : l.Right p calls) (call : Call K) :
    (p.update call l.batch).2.isSome ↔ p.AtMark call.time ∧ p.offMark l.since ≠ [] := by
  rw [update_isSome, h.count, ne_eq, ne_eq, List.length_eq_zero_iff]

theorem Ledger.Right.request (h : l.Right p calls) {request : Request}
    (hsent : (p.update call l.batch).2 = some request) :
    p.offMark l.since ≠ [] ∧ request = p.request call (p.batchOf (p.offMark l.since)) := by
  have hsends := ((h.sends_iff call).mp (Option.isSome_of_mem hsent)).2
  refine ⟨hsends, ?_⟩
  rw [← h.pending, ← h.batch]
  obtain ⟨-, -, hupdate⟩ | ⟨-, -, -, hupdate⟩ | ⟨-, -, -, hupdate⟩ :=
    update_cases (p := p) call l.batch
  · simp [hupdate] at hsent
  · simp [hupdate] at hsent
  · simpa [hupdate, eq_comm] using hsent

-- ---------------------------------------------------------------------------
-- Minutes
-- ---------------------------------------------------------------------------

def Call.minute (call : Call K) : Int := call.time.clock.minute

/-- No call reads its clock before the call in front of it does. -/
def InClockOrder (calls : List (Call K)) : Prop :=
  calls.Pairwise fun c d => c.time.clock ≤ d.time.clock

omit [Zero K] [Neg K] [OfScientific K] in
theorem atMark_congr {c d : Call K} (h : c.minute = d.minute) :
    p.AtMark c.time ↔ p.AtMark d.time := by
  have hmin : c.time.lt.tmMin = d.time.lt.tmMin := by
    have hc := tmMin_eq c.time.clock
    have hd := tmMin_eq d.time.clock
    apply Fin.ext
    unfold Call.minute at h
    unfold CallTime.lt
    omega
  unfold AtMark
  rw [hmin]

omit [Zero K] [Neg K] [OfScientific K] in
theorem minute_le {c d : Call K} (h : c.time.clock ≤ d.time.clock) : c.minute ≤ d.minute :=
  Int.ediv_le_ediv (by decide) h

/-- Every report is of an earlier minute than what has come since, and of a later
one than the reports before it. -/
structure Ledger.Ordered (calls : List (Call K)) (l : Ledger K Request) : Prop where
  right : l.Right p calls
  reports : l.reports.Pairwise fun r r' => r.call.minute < r'.call.minute
  pending : ∀ r ∈ l.reports, ∀ c ∈ l.pending, r.call.minute < c.minute

theorem Ledger.Right.mem_pending (h : l.Right p calls) {c : Call K} (hc : c ∈ l.pending) :
    c ∈ calls := by
  have hmem : c ∈ p.offMark calls := by
    rw [← h.covered]
    exact List.mem_append_right _ hc
  exact List.mem_of_mem_filter hmem

theorem Ledger.Ordered.later_of_not_mark (h : l.Ordered (p := p) calls)
    (hclock : ∀ c ∈ calls, c.time.clock ≤ call.time.clock) (hmark : ¬ p.AtMark call.time) :
    ∀ r ∈ l.reports, r.call.minute < call.minute := by
  intro r hr
  refine lt_of_le_of_ne (minute_le (hclock _ (h.right.mem r hr))) fun heq => ?_
  exact hmark ((atMark_congr heq).mp (h.right.reports r hr).1)

theorem Ledger.Ordered.later_of_count (h : l.Ordered (p := p) calls)
    (hclock : ∀ c ∈ calls, c.time.clock ≤ call.time.clock) (hcount : l.batch.count ≠ 0) :
    ∀ r ∈ l.reports, r.call.minute < call.minute := by
  intro r hr
  have hne : l.pending ≠ [] := by
    rw [h.right.batch, count_batchOf] at hcount
    simpa using hcount
  obtain ⟨c, hc⟩ := List.exists_mem_of_ne_nil _ hne
  exact (h.pending r hr c hc).trans_le (minute_le (hclock c (h.right.mem_pending hc)))

theorem Ledger.Ordered.step (h : l.Ordered (p := p) calls)
    (hclock : ∀ c ∈ calls, c.time.clock ≤ call.time.clock) :
    (l.step p call).Ordered (p := p) (calls ++ [call]) := by
  have hright := h.right.step call
  obtain ⟨hmark, hpath, hupdate⟩ | ⟨hmark, hcount, hpath, hupdate⟩ |
    ⟨hmark, hcount, hpath, hupdate⟩ := update_cases (p := p) call l.batch
  · have hlater := h.later_of_not_mark hclock hmark
    refine ⟨hright, ?_, ?_⟩ <;>
      simp only [Ledger.step, hpath, hupdate, Option.toList_none, List.map_nil, List.append_nil]
    · exact h.reports
    · intro r hr c hc
      obtain hc | hc := List.mem_append.mp hc
      · exact h.pending r hr c hc
      · cases List.mem_singleton.mp hc
        exact hlater r hr
  · refine ⟨hright, ?_, ?_⟩ <;>
      simp only [Ledger.step, hpath, hupdate, Option.toList_none, List.map_nil, List.append_nil]
    · exact h.reports
    · exact h.pending
  · have hlater := h.later_of_count hclock hcount
    refine ⟨hright, ?_, ?_⟩ <;>
      simp only [Ledger.step, hpath, hupdate, Option.toList_some, List.map_singleton]
    · rw [List.pairwise_append]
      refine ⟨h.reports, List.pairwise_singleton _ _, fun r hr r' hr' => ?_⟩
      cases List.mem_singleton.mp hr'
      exact hlater r hr
    · intro r hr c hc
      cases hc

theorem reports_pairwise (p : BatchPublisher K Request) (h : InClockOrder calls) :
    (p.ledger calls).reports.Pairwise fun r r' => r.call.minute < r'.call.minute := by
  suffices hordered : (p.ledger calls).Ordered (p := p) calls from hordered.reports
  induction calls using List.reverseRecOn with
  | nil => exact ⟨ledger_right p [], List.Pairwise.nil, List.forall_mem_nil _⟩
  | append_singleton calls call ih =>
    obtain ⟨hcalls, -, hlast⟩ := List.pairwise_append.mp h
    rw [ledger_concat]
    exact (ih hcalls).step fun c hc => hlast c hc call (List.mem_singleton_self _)

end

end WfPublisher
