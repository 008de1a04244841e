import Mathlib
import WfPublisher.Lib.DoublyLinked
import WfPublisher.Lib.Transition
import WfPublisher.Util

/-!
# The trend's records in memory

The nodes behind `trend` and `trend_tail`. A call puts a record in front and may
take the oldest one off, by pointers that are not checked. The list of records
that the rest of the program is modelled with is what `next` leads through.
-/

namespace WfPublisher

open Memory DoublyLinked Transition

structure TrendState (K : Type) where
  heap : Heap (Node (TrendData K))
  trend : Option Addr
  trendTail : Option Addr

/-- A call of `calc_pressure_trend` with what it reads of the clock first and then,
or of `free_trend`. -/
inductive TrendCall (K : Type)
  | calcPressureTrend (now check : Int) (pressure : K)
  | freeTrend

section
variable {K : Type}

def TrendState.initial : TrendState K := ⟨∅, none, none⟩

-- ---------------------------------------------------------------------------
-- The calls
-- ---------------------------------------------------------------------------

def enqueue (m : Malloc (Node (TrendData K))) (now : Int) (pressure : K) (s : TrendState K) :
    Option (TrendState K) := do
  let (td, heap) := m.alloc s.heap ⟨⟨now, pressure⟩, s.trend, none⟩
  match s.trend with
  | some trend =>
    let node ← heap.lookup trend
    let heap ← store heap trend { node with prev := some td }
    return ⟨heap, some td, s.trendTail⟩
  | none => return ⟨heap, some td, some td⟩

/-- `td` is the predecessor of the tail and is not checked. -/
def dequeue (s : TrendState K) : Option (TrendState K) := do
  let tail ← s.trendTail
  let node ← s.heap.lookup tail
  let heap ← free s.heap tail
  let td ← node.prev
  let prev ← heap.lookup td
  let heap ← store heap td { prev with next := none }
  return ⟨heap, s.trend, some td⟩

def countNode (h : Heap (Node (TrendData K))) (count : Nat) (td : Addr) :
    Option (Nat × Option Addr) := do
  let node ← h.lookup td
  return (count + 1, node.next)

def calcPressureTrendAt [LT K] [DecidableLT K] (m : Malloc (Node (TrendData K)))
    (now check : Int) (pressure : K) (s : TrendState K) : Option (Int × Nat × TrendState K) := do
  let s ← enqueue m now pressure s
  let tail ← s.trendTail
  let node ← s.heap.lookup tail
  let pTrend := if node.value.p < pressure then 1 else if node.value.p > pressure then -1 else 0
  let s ← if check - node.value.t ≥ 60 * 60 * 3 then dequeue s else some s
  let count ← whilePtr (countNode s.heap) s.heap.keys.length 0 s.trend
  return (pTrend, count, s)

def freeTrend (s : TrendState K) : Option (TrendState K) := do
  let heap ← whilePtr freeNode s.heap.keys.length s.heap s.trend
  return { s with heap, trend := none }

-- ---------------------------------------------------------------------------
-- The queue in memory
-- ---------------------------------------------------------------------------

structure Queue (s : TrendState K) (live : List (Addr × TrendData K)) : Prop where
  represents : Represents s.heap s.trend live
  tail : live ≠ [] → s.trendTail = lastAddr none live

theorem queue_initial : Queue (.initial : TrendState K) [] :=
  ⟨represents_nil, fun h => absurd rfl h⟩

/-- What is left of the records when the age of the last one is looked at. -/
def kept (check : Int) (live : List (Addr × TrendData K)) : List (Addr × TrendData K) :=
  match live.getLast? with
  | some tail => if check - tail.2.t ≥ 60 * 60 * 3 then live.dropLast else live
  | none => live

variable {m : Malloc (Node (TrendData K))} {s s' : TrendState K}
  {live front : List (Addr × TrendData K)} {c tail : Addr × TrendData K} {now check : Int}
  {pressure : K}

theorem Queue.enqueue (hq : Queue s live) (m : Malloc (Node (TrendData K))) (now : Int)
    (pressure : K) : ∃ s', enqueue m now pressure s = some s' ∧
      Queue s' ((m.pick s.heap, ⟨now, pressure⟩) :: live) := by
  obtain ⟨heap, trend, trendTail⟩ := s
  obtain ⟨hrep, htail⟩ := hq
  have hfirst : trend = headAddr none live := hrep.linked.first_eq
  subst hfirst
  cases live with
  | nil =>
    refine ⟨_, rfl, hrep.push_nil (m.pick heap) ⟨now, pressure⟩, ?_⟩
    intro _
    rfl
  | cons c rest =>
    obtain ⟨next, hnode, hpush⟩ := hrep.push (m.fresh heap) ⟨now, pressure⟩
    have hne : c.1 ≠ m.pick heap := by
      intro heq
      exact m.fresh heap (heq ▸ mem_of_lookup hnode)
    have hold : (heap.insert (m.pick heap) ⟨⟨now, pressure⟩, some c.1, none⟩).lookup c.1 =
        some ⟨c.2, next, none⟩ := by
      rw [AList.lookup_insert_ne hne, hnode]
    refine ⟨⟨_, some (m.pick heap), trendTail⟩, ?_, hpush, ?_⟩
    · simp [WfPublisher.enqueue, Malloc.alloc, headAddr, hold, store_of_lookup hold]
      rfl
    · intro _
      exact htail (List.cons_ne_nil c rest)

theorem Queue.dequeue {b a : Addr} {w v : TrendData K}
    (hq : Queue s (front ++ [(b, w), (a, v)])) :
    ∃ s', dequeue s = some s' ∧ Queue s' (front ++ [(b, w)]) := by
  obtain ⟨hlast, hprev, hpop⟩ := hq.represents.pop
  have htail : s.trendTail = some a := by
    rw [hq.tail (by simp), lastAddr_append]
    rfl
  refine ⟨⟨_, s.trend, some b⟩, ?_, hpop, ?_⟩
  · simp [WfPublisher.dequeue, htail, hlast, free_of_mem (mem_of_lookup hlast), hprev,
      store_of_lookup hprev]
    rfl
  · intro _
    rw [lastAddr_append]
    rfl

theorem Queue.count (hq : Queue s live) :
    whilePtr (countNode s.heap) s.heap.keys.length 0 s.trend = some live.length := by
  have hround : ∀ (count : Nat) (a : Addr) (node : Node (TrendData K)),
      s.heap.lookup a = some node → countNode s.heap count a = some (count + 1, node.next) := by
    intro count a node hnode
    simp [countNode, hnode]
  have hfold : ∀ (as : List Addr) (count : Nat),
      as.foldl (fun count _ => count + 1) count = count + as.length := by
    intro as
    induction as with
    | nil => simp
    | cons a as ih =>
      intro count
      simp [ih, Nat.add_assoc, Nat.add_comm 1]
  rw [hq.represents.linked.whilePtr_foldl hround hq.represents.length_le, hfold, Nat.zero_add,
    addrs, List.length_map]

theorem Queue.tail_node (hq : Queue s (front ++ [c])) :
    s.trendTail = some c.1 ∧ ∃ node, s.heap.lookup c.1 = some node ∧ node.value = c.2 := by
  constructor
  · rw [hq.tail (by simp), lastAddr_append]
    rfl
  · exact ⟨_, hq.represents.linked.lookup, rfl⟩

theorem Queue.keep (hq : Queue s (c :: live))
    (hlast : c :: live = front ++ [tail]) (hfresh : check - c.2.t < 60 * 60 * 3) :
    ∃ s', (if check - tail.2.t ≥ 60 * 60 * 3 then WfPublisher.dequeue s else some s) = some s' ∧
      Queue s' (c :: kept check live) := by
  cases front with
  | nil =>
    cases hlast
    rw [if_neg (not_le.mpr hfresh)]
    exact ⟨s, rfl, hq⟩
  | cons d front =>
    rw [List.cons_append, List.cons.injEq] at hlast
    obtain ⟨rfl, rfl⟩ := hlast
    simp only [kept, List.getLast?_concat, List.dropLast_concat]
    split
    · obtain hnil | ⟨before, e, heq⟩ := List.eq_nil_or_concat' (c :: front)
      · cases hnil
      · rw [← List.cons_append, heq, List.append_assoc] at hq
        obtain ⟨s', hdequeue, hq'⟩ := hq.dequeue
        exact ⟨s', hdequeue, heq ▸ hq'⟩
    · exact ⟨s, rfl, hq⟩

section
variable [LinearOrder K]

theorem calcPressureTrend_live (hlast : c :: live = front ++ [tail])
    (hfresh : check - c.2.t < 60 * 60 * 3) :
    calcPressureTrend c.2.t check c.2.p (live.map Prod.snd) =
      .ok (if tail.2.p < c.2.p then 1 else if tail.2.p > c.2.p then -1 else 0,
        c.2 :: (kept check live).map Prod.snd) := by
  cases front with
  | nil =>
    cases hlast
    simp only [calcPressureTrend, List.map_nil, List.getLast?_nil, Option.getD_none]
    rw [if_neg (not_le.mpr hfresh)]
    rfl
  | cons d front =>
    rw [List.cons_append, List.cons.injEq] at hlast
    obtain ⟨rfl, rfl⟩ := hlast
    simp only [calcPressureTrend, kept, List.map_append, List.map_cons, List.map_nil,
      List.getLast?_concat, Option.getD_some, List.dropLast_concat]
    by_cases hage : check - tail.2.t ≥ 60 * 60 * 3
    · rw [if_pos hage, if_pos hage, if_neg (by simp)]
    · rw [if_neg hage, if_neg hage]
      simp

theorem Queue.calcPressureTrendAt (hq : Queue s live) (m : Malloc (Node (TrendData K)))
    (hclock : check - now < 60 * 60 * 3) (pressure : K) :
    ∃ pTrend s', calcPressureTrendAt m now check pressure s =
        some (pTrend, (kept check live).length + 1, s') ∧
      Queue s' ((m.pick s.heap, ⟨now, pressure⟩) :: kept check live) ∧
      calcPressureTrend now check pressure (live.map Prod.snd) =
        .ok (pTrend, ⟨now, pressure⟩ :: (kept check live).map Prod.snd) := by
  obtain ⟨s₁, henqueue, hq₁⟩ := hq.enqueue m now pressure
  generalize hc : (m.pick s.heap, (⟨now, pressure⟩ : TrendData K)) = c at hq₁ ⊢
  obtain ⟨front, tail, hlast⟩ : ∃ front tail, c :: live = front ++ [tail] :=
    (List.eq_nil_or_concat' (c :: live)).resolve_left (List.cons_ne_nil c live)
  have hfresh : check - c.2.t < 60 * 60 * 3 := by
    rw [← hc]
    exact hclock
  obtain ⟨s', hkeep, hq'⟩ := hq₁.keep hlast hfresh
  have hcount := hq'.count
  rw [hlast] at hq₁
  obtain ⟨htail, node, hnode, hvalue⟩ := hq₁.tail_node
  refine ⟨if tail.2.p < pressure then 1 else if tail.2.p > pressure then -1 else 0, s', ?_, hq',
    ?_⟩
  · by_cases hage : check - tail.2.t ≥ 60 * 60 * 3
    · rw [if_pos hage] at hkeep
      have hage : 10800 ≤ check - tail.2.t := by simpa using hage
      simp [WfPublisher.calcPressureTrendAt, henqueue, htail, hnode, hvalue, hage, hkeep, hcount]
    · rw [if_neg hage] at hkeep
      cases hkeep
      have hage : check - tail.2.t < 10800 := by simpa using hage
      simp [WfPublisher.calcPressureTrendAt, henqueue, htail, hnode, hvalue, not_le.mpr hage,
        hcount]
  · subst hc
    exact calcPressureTrend_live hlast hfresh

end

theorem Queue.freeTrend (hq : Queue s live) : ∃ s', freeTrend s = some s' ∧ Queue s' [] := by
  obtain ⟨heap, hloop, hrep⟩ := hq.represents.whilePtr_free
  refine ⟨{ s with heap, trend := none }, ?_, hrep, fun h => absurd rfl h⟩
  simp [WfPublisher.freeTrend, hloop]

-- ---------------------------------------------------------------------------
-- Any calls in any order
-- ---------------------------------------------------------------------------

structure TrendTrace (K : Type) where
  state : TrendState K
  made : List (Addr × TrendData K)

def trendStep [LT K] [DecidableLT K] (m : Malloc (Node (TrendData K))) (s : TrendTrace K) :
    TrendCall K → Option (TrendTrace K)
  | .calcPressureTrend now check pressure => do
    let (_, _, state) ← calcPressureTrendAt m now check pressure s.state
    return ⟨state, (m.pick s.state.heap, ⟨now, pressure⟩) :: s.made⟩
  | .freeTrend => do
    let state ← WfPublisher.freeTrend s.state
    return ⟨state, []⟩

def TrendCall.Prompt : TrendCall K → Prop
  | .calcPressureTrend now check _ => check - now < 60 * 60 * 3
  | .freeTrend => True

structure TrendState.Intact (s : TrendState K) (live : List (Addr × TrendData K)) : Prop where
  visits : visits s.heap s.trend = some (addrs live)
  distinct : (addrs live).Nodup
  records : ∀ c ∈ live, ∃ node, s.heap.lookup c.1 = some node ∧ node.value = c.2
  memory : ∀ a, a ∈ s.heap ↔ a ∈ addrs live
  tail : s.trend ≠ none → s.trendTail = (addrs live).getLast?
  inverse : ∀ a b x y, s.heap.lookup a = some x → s.heap.lookup b = some y →
    (x.next = some b ↔ y.prev = some a)

theorem Queue.intact (hq : Queue s live) : s.Intact live where
  visits := hq.represents.visits_eq
  distinct := hq.represents.nodup
  records c hc := by
    obtain ⟨front, rest, rfl⟩ := List.append_of_mem hc
    exact ⟨_, hq.represents.linked.lookup, rfl⟩
  memory := hq.represents.live
  tail htrend := by
    obtain rfl | ⟨front, c, rfl⟩ := List.eq_nil_or_concat' live
    · exact absurd hq.represents.linked htrend
    · rw [hq.tail_node.1]
      simp
  inverse a b x y hx hy := by
    have ha := (hq.represents.live a).mp (mem_of_lookup hx)
    have hb := (hq.represents.live b).mp (mem_of_lookup hy)
    exact hq.represents.linked.next_eq_iff ha hb hx hy

theorem kept_eq (check : Int) (live : List (Addr × TrendData K)) :
    kept check live = live ∨ live ≠ [] ∧ kept check live = live.dropLast := by
  obtain rfl | ⟨front, c, rfl⟩ := List.eq_nil_or_concat' live
  · exact .inl rfl
  · simp only [kept, List.getLast?_concat]
    split
    · exact .inr ⟨by simp, rfl⟩
    · exact .inl rfl

theorem kept_newest (check : Int) (live : List (Addr × TrendData K)) :
    kept check live <+: live := by
  obtain h | ⟨-, h⟩ := kept_eq check live
  · rw [h]
  · rw [h]
    exact List.dropLast_prefix live

theorem length_le_kept (check : Int) (live : List (Addr × TrendData K)) :
    live.length ≤ (kept check live).length + 1 := by
  obtain h | ⟨-, h⟩ := kept_eq check live
  · rw [h]
    exact Nat.le_succ _
  · rw [h, List.length_dropLast]
    exact Nat.le_add_of_sub_le (Nat.le_refl _)

variable [LinearOrder K]

theorem trendStep_queue (m : Malloc (Node (TrendData K))) {s : TrendTrace K} {call : TrendCall K}
    (hq : ∃ live, live <+: s.made ∧ Queue s.state live) (hprompt : call.Prompt) :
    ∃ t, trendStep m s call = some t ∧ ∃ live, live <+: t.made ∧ Queue t.state live := by
  obtain ⟨live, hprefix, hq⟩ := hq
  cases call with
  | calcPressureTrend now check pressure =>
    obtain ⟨pTrend, state, hcall, hq', -⟩ := hq.calcPressureTrendAt m hprompt pressure
    refine ⟨⟨state, (m.pick s.state.heap, ⟨now, pressure⟩) :: s.made⟩, ?_, _, ?_, hq'⟩
    · simp [trendStep, hcall]
    · exact (List.prefix_cons_inj _).mpr ((kept_newest check live).trans hprefix)
  | freeTrend =>
    obtain ⟨state, hfree, hq'⟩ := hq.freeTrend
    exact ⟨⟨state, []⟩, by simp [trendStep, hfree], [], List.prefix_rfl, hq'⟩

/-- The next call goes through, adds its record and takes off the oldest one or none. -/
def TrendState.AddsOne (m : Malloc (Node (TrendData K))) (s : TrendState K)
    (live : List (Addr × TrendData K)) : Prop :=
  ∀ now check pressure, check - now < 60 * 60 * 3 → ∃ pTrend s' kept,
    calcPressureTrendAt m now check pressure s = some (pTrend, kept.length + 1, s') ∧
    s'.Intact ((m.pick s.heap, ⟨now, pressure⟩) :: kept) ∧
    (kept = live ∨ live ≠ [] ∧ kept = live.dropLast) ∧ live.length ≤ kept.length + 1

/-- After any calls, on whatever clock. -/
theorem trend_queue_intact (m : Malloc (Node (TrendData K))) {calls : List (TrendCall K)}
    (hclock : ∀ call ∈ calls, call.Prompt) :
    ∃ s live, run (trendStep m) ⟨.initial, []⟩ calls = some s ∧ live <+: s.made ∧
      s.state.Intact live ∧ s.state.AddsOne m live := by
  have hruns : ∃ s : TrendTrace K, run (trendStep m) ⟨.initial, []⟩ calls = some s ∧
      ∃ live, live <+: s.made ∧ Queue s.state live :=
    exists_run ⟨[], List.prefix_rfl, queue_initial⟩ (fun s call => trendStep_queue m) hclock
  obtain ⟨s, hrun, live, hprefix, hq⟩ := hruns
  refine ⟨s, live, hrun, hprefix, hq.intact, fun now check pressure hprompt => ?_⟩
  obtain ⟨pTrend, state, hcall, hq', -⟩ := hq.calcPressureTrendAt m hprompt pressure
  exact ⟨pTrend, state, kept check live, hcall, hq'.intact, kept_eq check live,
    length_le_kept check live⟩

end

theorem trend_queue_intact_outage :
    ∃ (s : TrendTrace ℚ) (live : List (Addr × TrendData ℚ)),
      run (trendStep Malloc.top) ⟨.initial, []⟩ [.calcPressureTrend 0 0 1000,
        .calcPressureTrend 20000 20001 1010, .freeTrend, .calcPressureTrend 50 50 1005,
        .calcPressureTrend 20 20 1000] = some s ∧
      live <+: s.made ∧ s.state.Intact live ∧ s.state.AddsOne Malloc.top live :=
  trend_queue_intact Malloc.top (by simp [TrendCall.Prompt])

-- ---------------------------------------------------------------------------
-- What the calls return
-- ---------------------------------------------------------------------------

section
variable {K : Type} [LinearOrder K]

def trendRun (m : Malloc (Node (TrendData K))) (s : TrendState K) :
    List (TrendCall K) → Option (List (Int × Nat) × TrendState K)
  | [] => some ([], s)
  | .calcPressureTrend now check pressure :: calls => do
    let (pTrend, count, s) ← calcPressureTrendAt m now check pressure s
    let (outputs, s) ← trendRun m s calls
    return ((pTrend, count) :: outputs, s)
  | .freeTrend :: calls => do
    let s ← WfPublisher.freeTrend s
    trendRun m s calls

def listRun (trend : List (TrendData K)) :
    List (TrendCall K) → Except Fault (List (Int × Nat) × List (TrendData K))
  | [] => .ok ([], trend)
  | .calcPressureTrend now check pressure :: calls => do
    let (pTrend, trend) ← calcPressureTrend now check pressure trend
    let (outputs, last) ← listRun trend calls
    return ((pTrend, trend.length) :: outputs, last)
  | .freeTrend :: calls => listRun [] calls

theorem Queue.trendRun (m : Malloc (Node (TrendData K))) {s : TrendState K}
    {live : List (Addr × TrendData K)} (hq : Queue s live) {calls : List (TrendCall K)}
    (hclock : ∀ call ∈ calls, call.Prompt) :
    ∃ outputs s' live', trendRun m s calls = some (outputs, s') ∧ Queue s' live' ∧
      listRun (live.map Prod.snd) calls = .ok (outputs, live'.map Prod.snd) := by
  induction calls generalizing s live with
  | nil => exact ⟨[], s, live, rfl, hq, rfl⟩
  | cons call calls ih =>
    obtain ⟨hcall, hcalls⟩ := List.forall_mem_cons.mp hclock
    cases call with
    | calcPressureTrend now check pressure =>
      obtain ⟨pTrend, s₁, hmemory, hq₁, hlist⟩ := hq.calcPressureTrendAt m hcall pressure
      obtain ⟨outputs, s', live', hrun, hq', hlistRun⟩ := ih hq₁ hcalls
      refine ⟨(pTrend, (kept check live).length + 1) :: outputs, s', live', ?_, hq', ?_⟩
      · rw [WfPublisher.trendRun, hmemory]
        simp only [Option.bind_eq_bind, Option.bind_some, hrun]
        rfl
      · rw [listRun, hlist]
        simp only [List.map_cons] at hlistRun
        simp [bind, Except.bind, hlistRun, pure, Except.pure]
    | freeTrend =>
      obtain ⟨s₁, hfree, hq₁⟩ := hq.freeTrend
      obtain ⟨outputs, s', live', hrun, hq', hlistRun⟩ := ih hq₁ hcalls
      exact ⟨outputs, s', live', by rw [WfPublisher.trendRun, hfree]; exact hrun, hq', hlistRun⟩

/-- Wherever `malloc` puts the records, the calls return and print what they do on
the list. -/
theorem trend_run_refines (m : Malloc (Node (TrendData K))) {calls : List (TrendCall K)}
    (hclock : ∀ call ∈ calls, call.Prompt) :
    ∃ outputs s live, trendRun m .initial calls = some (outputs, s) ∧ s.Intact live ∧
      listRun [] calls = .ok (outputs, live.map Prod.snd) := by
  obtain ⟨outputs, s, live, hrun, hq, hlist⟩ := queue_initial.trendRun m hclock
  exact ⟨outputs, s, live, hrun, hq.intact, hlist⟩

end

theorem trend_run_refines_restart :
    ∃ (outputs : List (Int × Nat)) (s : TrendState ℚ) (live : List (Addr × TrendData ℚ)),
      trendRun Malloc.top .initial [.calcPressureTrend 0 0 1000, .calcPressureTrend 11000 11001 990,
        .freeTrend, .calcPressureTrend 60 60 1005] = some (outputs, s) ∧ s.Intact live ∧
      listRun [] [.calcPressureTrend 0 0 1000, .calcPressureTrend 11000 11001 990, .freeTrend,
        .calcPressureTrend 60 60 1005] = .ok (outputs, live.map Prod.snd) :=
  trend_run_refines Malloc.top (by simp [TrendCall.Prompt])

end WfPublisher
