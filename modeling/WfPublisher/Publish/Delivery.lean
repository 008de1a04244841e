import WfPublisher.Lib.Transition
import WfPublisher.Publish.Isolation

/-!
# The order of the updates

`send_to` starts a thread for each copy and lets it go: nothing keeps the threads
of one service in the order of their copies. What a service has processed are the
first of its copies exactly when each thread runs once all before it have run.
-/

namespace WfPublisher

open Transition

section
variable {K : Type}

/-- The threads in the order in which their copies were made, each with the entry
of the list of services it is for; and those that have run their update, in the
order in which they did. -/
structure Delivery (K : Type) where
  threads : List (Nat × WeatherData K)
  processed : List Nat

inductive DeliveryAct (K : Type)
  | sendTo (entry : Nat) (wd : WeatherData K)
  | update (n : Nat)

namespace Delivery

def initial : Delivery K := ⟨[], []⟩

/-- `services` is the list `publish` goes through; a pass is one `sendTo` for each
of its enabled entries. -/
def next (services : List ServiceInfo) (s : Delivery K) : DeliveryAct K → Option (Delivery K)
  | .sendTo entry wd =>
    match services[entry]? with
    | some service =>
      if service.enabled = 0 then none
      else some { s with threads := s.threads ++ [(entry, wd.reversed)] }
    | none => none
  | .update n =>
    if n < s.threads.length ∧ n ∉ s.processed then
      some { s with processed := s.processed ++ [n] }
    else none

variable (entry : Nat) (s : Delivery K)

def IsFor (n : Nat) : Prop := s.threads[n]?.map Prod.fst = some entry

instance (n : Nat) : Decidable (s.IsFor entry n) := inferInstanceAs (Decidable (_ = _))

def takenOf : List Nat := (List.range s.threads.length).filter (s.IsFor entry ·)

def processedOf : List Nat := s.processed.filter (s.IsFor entry ·)

end Delivery

/-- A thread of the entry runs when all threads of the entry before it have run. -/
def OldestFirst (entry : Nat) (s : Delivery K) : DeliveryAct K → Prop
  | .update n => s.IsFor entry n → ∀ m < n, s.IsFor entry m → m ∈ s.processed
  | .sendTo _ _ => True

instance (entry : Nat) : ∀ (s : Delivery K) (a : DeliveryAct K), Decidable (OldestFirst entry s a)
  | s, .update n =>
    inferInstanceAs (Decidable (s.IsFor entry n → ∀ m < n, s.IsFor entry m → m ∈ s.processed))
  | _, .sendTo _ _ => inferInstanceAs (Decidable True)

def Delivery.InOrder (entry : Nat) (s : Delivery K) : Prop := (s.processedOf entry).Pairwise (· < ·)

instance (entry : Nat) (s : Delivery K) : Decidable (s.InOrder entry) :=
  inferInstanceAs (Decidable (List.Pairwise _ _))

def Delivery.EndsNewest (entry : Nat) (s : Delivery K) : Prop :=
  ∀ last ∈ (s.processedOf entry).getLast?, ∀ n ∈ s.processedOf entry, n ≤ last

-- ---------------------------------------------------------------------------
-- The steps
-- ---------------------------------------------------------------------------

variable {services : List ServiceInfo} {s t : Delivery K} {entry n : Nat} {wd : WeatherData K}

structure Delivery.Once (s : Delivery K) : Prop where
  nodup : s.processed.Nodup
  started : ∀ n ∈ s.processed, n < s.threads.length

namespace Delivery

theorem next_sendTo (h : s.next services (.sendTo entry wd) = some t) :
    t = { s with threads := s.threads ++ [(entry, wd.reversed)] } := by
  simp only [next] at h
  split at h
  · split at h
    · cases h
    · cases h
      rfl
  · cases h

theorem next_update (h : s.next services (.update n) = some t) :
    n < s.threads.length ∧ n ∉ s.processed ∧ t = { s with processed := s.processed ++ [n] } := by
  simp only [next] at h
  split at h
  · rename_i hn
    cases h
    exact ⟨hn.1, hn.2, rfl⟩
  · cases h

theorem Once.step (h : s.Once) {a : DeliveryAct K} (hstep : s.next services a = some t) :
    t.Once := by
  cases a with
  | sendTo entry wd =>
    cases next_sendTo hstep
    exact ⟨h.nodup, fun n hn => (h.started n hn).trans_le (by simp)⟩
  | update n =>
    obtain ⟨hlt, hn, rfl⟩ := next_update hstep
    refine ⟨List.nodup_append.mpr ⟨h.nodup, List.nodup_singleton n, ?_⟩, fun m hm => ?_⟩
    · rintro m hm _ hmem rfl
      cases List.mem_singleton.mp hmem
      exact hn hm
    · obtain hm | hm := List.mem_append.mp hm
      · exact h.started m hm
      · cases List.mem_singleton.mp hm
        exact hlt

theorem once_of_run {actions : List (DeliveryAct K)}
    (hrun : run (Delivery.next services) .initial actions = some s) : s.Once := by
  refine run_induction (P := Once) ⟨List.nodup_nil, fun n hn => ?_⟩
    (fun _ _ _ hs hstep => hs.step hstep) hrun
  cases hn

theorem InOrder.endsNewest (h : s.InOrder entry) : s.EndsNewest entry := by
  intro last hlast n hn
  obtain ⟨before, hbefore⟩ := List.getLast?_eq_some_iff.mp hlast
  rw [hbefore] at hn
  obtain hn | hn := List.mem_append.mp hn
  · rw [InOrder, hbefore] at h
    exact ((List.pairwise_append.mp h).2.2 n hn last (by simp)).le
  · exact (List.mem_singleton.mp hn).le

theorem takenOf_sorted : (s.takenOf entry).Pairwise (· < ·) :=
  List.pairwise_lt_range.filter _

theorem mem_takenOf : n ∈ s.takenOf entry ↔ s.IsFor entry n := by
  simp only [takenOf, List.mem_filter, List.mem_range, decide_eq_true_eq, and_iff_right_iff_imp]
  intro hn
  obtain ⟨thread, hthread, -⟩ := Option.map_eq_some_iff.mp hn
  exact (List.getElem?_eq_some_iff.mp hthread).1

theorem mem_processedOf : n ∈ s.processedOf entry ↔ n ∈ s.processed ∧ s.IsFor entry n := by
  simp [processedOf]

theorem processedOf_update : processedOf entry { s with processed := s.processed ++ [n] } =
    s.processedOf entry ++ if s.IsFor entry n then [n] else [] := by
  have hfor (m : Nat) : IsFor entry { s with processed := s.processed ++ [n] } m ↔
      s.IsFor entry m := Iff.rfl
  simp only [processedOf, List.filter_append, hfor, List.filter_singleton, Bool.cond_decide]

theorem processedOf_sendTo (entry : Nat) (h : s.Once) (other : Nat) (wd : WeatherData K) :
    let t : Delivery K := { s with threads := s.threads ++ [(other, wd)] }
    t.processedOf entry = s.processedOf entry ∧
      (t.takenOf entry = s.takenOf entry ∨
        t.takenOf entry = s.takenOf entry ++ [s.threads.length]) := by
  intro t
  have hsame {n : Nat} (hn : n < s.threads.length) : t.IsFor entry n ↔ s.IsFor entry n := by
    unfold IsFor
    rw [List.getElem?_append_left hn]
  refine ⟨List.filter_congr fun n hn => decide_eq_decide.mpr (hsame (h.started n hn)), ?_⟩
  have htaken : (List.range s.threads.length).filter (t.IsFor entry ·) = s.takenOf entry :=
    List.filter_congr fun n hn => decide_eq_decide.mpr (hsame (List.mem_range.mp hn))
  unfold takenOf
  rw [List.length_append, List.length_singleton, List.range_succ, List.filter_append, htaken]
  by_cases hnew : t.IsFor entry s.threads.length
  · exact .inr (by simp [hnew, takenOf])
  · exact .inl (by simp [hnew, takenOf])

end Delivery

theorem prefix_concat_iff {done taken : List Nat} (hsorted : taken.Pairwise (· < ·))
    (hn : n ∈ taken) (hnew : n ∉ done) :
    done ++ [n] <+: taken ↔ done <+: taken ∧ ∀ m ∈ taken, m < n → m ∈ done := by
  constructor
  · rintro ⟨rest, rfl⟩
    refine ⟨⟨n :: rest, by simp⟩, fun m hm hlt => ?_⟩
    obtain hm | hm := List.mem_append.mp hm
    · obtain hm | hm := List.mem_append.mp hm
      · exact hm
      · exact absurd (List.mem_singleton.mp hm) hlt.ne
    · have := (List.pairwise_append.mp hsorted).2.2 n (by simp) m hm
      exact absurd hlt this.not_gt
  · rintro ⟨⟨rest, rfl⟩, hleast⟩
    obtain hn | hn := List.mem_append.mp hn
    · exact absurd hn hnew
    · cases rest with
      | nil => cases hn
      | cons m rest =>
        obtain ⟨-, hrest, happart⟩ := List.pairwise_append.mp hsorted
        obtain rfl | hn := List.mem_cons.mp hn
        · exact ⟨rest, by simp⟩
        · have hlt : m < n := (List.pairwise_cons.mp hrest).1 n hn
          have hdone := hleast m (by simp) hlt
          exact absurd (happart m hdone m (by simp)) (lt_irrefl m)

def Delivery.Prefix (entry : Nat) (s : Delivery K) : Prop :=
  s.processedOf entry <+: s.takenOf entry

theorem Delivery.Prefix.inOrder (h : s.Prefix entry) : s.InOrder entry :=
  Delivery.takenOf_sorted.sublist h.sublist

theorem Delivery.prefix_step_iff (hs : s.Once) {a : DeliveryAct K}
    (hstep : s.next services a = some t) :
    t.Prefix entry ↔ s.Prefix entry ∧ OldestFirst entry s a := by
  cases a with
  | sendTo other wd =>
    cases Delivery.next_sendTo hstep
    obtain ⟨hprocessed, htaken⟩ := Delivery.processedOf_sendTo entry hs other wd.reversed
    refine Iff.trans ?_ (and_iff_left trivial).symm
    unfold Delivery.Prefix
    rw [hprocessed]
    obtain htaken | htaken := htaken
    · rw [htaken]
    · rw [htaken, List.prefix_concat_iff]
      refine or_iff_right fun heq => ?_
      have hmem : s.threads.length ∈ s.processedOf entry := by simp [heq]
      exact lt_irrefl _ (hs.started _ (Delivery.mem_processedOf.mp hmem).1)
  | update n =>
    obtain ⟨-, hnew, rfl⟩ := Delivery.next_update hstep
    by_cases hfor : s.IsFor entry n
    · have hturn : OldestFirst entry s (.update n) ↔
          ∀ m ∈ s.takenOf entry, m < n → m ∈ s.processedOf entry := by
        simp only [OldestFirst, Delivery.mem_takenOf, Delivery.mem_processedOf]
        constructor
        · exact fun h m hm hlt => ⟨h hfor m hlt hm, hm⟩
        · exact fun h _ m hlt hm => (h m hm hlt).1
      have hwaits : n ∉ s.processedOf entry := fun hmem => hnew (Delivery.mem_processedOf.mp hmem).1
      unfold Delivery.Prefix
      rw [Delivery.processedOf_update, if_pos hfor, hturn]
      exact prefix_concat_iff Delivery.takenOf_sorted (Delivery.mem_takenOf.mpr hfor) hwaits
    · unfold Delivery.Prefix
      rw [Delivery.processedOf_update, if_neg hfor, List.append_nil]
      exact (and_iff_left fun h => absurd h hfor).symm

/-- Every thread runs at most once, and a service has processed the first of its
snapshots, in their order, exactly in the runs in which each of its threads runs
when those before it have run. -/
theorem updates_inOrder_iff {actions : List (DeliveryAct K)} (entry : Nat)
    (hrun : run (Delivery.next services) .initial actions = some s) :
    s.Once ∧ (s.Prefix entry → s.InOrder entry ∧ s.EndsNewest entry) ∧
      (s.Prefix entry ↔
        EachStep (Delivery.next services) (OldestFirst entry) .initial actions) := by
  refine ⟨Delivery.once_of_run hrun, fun h => ⟨h.inOrder, h.inOrder.endsNewest⟩, ?_⟩
  induction actions using List.reverseRecOn generalizing s with
  | nil =>
    cases hrun
    exact iff_of_true List.prefix_rfl eachStep_nil
  | append_singleton actions a ih =>
    obtain ⟨m, hm, hlast⟩ := run_concat.mp hrun
    rw [Delivery.prefix_step_iff (Delivery.once_of_run hm) hlast, ih hm, eachStep_concat hm]

end

-- ---------------------------------------------------------------------------
-- A slow first thread
-- ---------------------------------------------------------------------------

theorem slowThread_overtaken : ∃ s : Delivery ℚ,
    run (Delivery.next [plainService .mysql]) .initial
      [.sendTo 0 .zero, .sendTo 0 yardRecord, .update 1, .update 0] = some s ∧
    ¬ s.InOrder 0 ∧ ¬ s.EndsNewest 0 := by
  refine ⟨_, rfl, by decide, fun h => ?_⟩
  exact absurd (h 0 rfl 1 (by decide)) (by decide)

def twoPasses : List (DeliveryAct ℚ) :=
  [.sendTo 0 .zero, .sendTo 1 .zero, .sendTo 0 .zero, .sendTo 1 .zero, .update 0, .update 3,
    .update 2]

theorem twoPasses_inOrder : ∃ s : Delivery ℚ,
    run (Delivery.next [plainService .mysql, plainService .cwop]) .initial twoPasses = some s ∧
    s.Once ∧ (s.Prefix 0 → s.InOrder 0 ∧ s.EndsNewest 0) ∧
      (s.Prefix 0 ↔ EachStep (Delivery.next [plainService .mysql, plainService .cwop])
        (OldestFirst 0) .initial twoPasses) := ⟨_, rfl, updates_inOrder_iff 0 rfl⟩

end WfPublisher
