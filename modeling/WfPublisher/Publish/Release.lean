import Mathlib
import WfPublisher.Lib.Handles
import WfPublisher.Publish.Independence

/-!
# Who frees the copies

`send_to` makes a copy of the record and a `thread_info` for every call. They are
freed by `invoke_publisher` behind the call of the update function, so by nobody
where the update function ends the thread instead of returning.
-/

namespace WfPublisher

open Transition

section
variable {K : Type}

inductive Progress
  | started
  | uploading
  | returned
  | dataFreed
  | finished
  deriving DecidableEq

structure PublisherThread (K : Type) where
  service : ServiceInfo
  wd : WeatherData K
  /-- The numbers of its copy and of its `thread_info`. -/
  data : Nat
  info : Nat
  progress : Progress

/-- The statics of the CWOP publisher, the threads, and what `send_to` allocated. -/
structure Custody (K : Type) where
  batch : Batch K
  threads : List (PublisherThread K)
  snapshots : Handles
  infos : Handles

inductive CustodyAct (K : Type)
  | sendTo (service : ServiceInfo) (wd : WeatherData K) (outcome : Outcome)
  /-- The update function up to the upload, or to where it ends the thread. -/
  | update (thread : Nat) (time : CallTime)
  | finishUpload (thread : Nat)
  | wdfree (thread : Nat)
  | free (thread : Nat)

def PublisherThread.HoldsData (thread : PublisherThread K) : Prop :=
  thread.progress = .started ∨ thread.progress = .uploading ∨ thread.progress = .returned

def PublisherThread.HoldsInfo (thread : PublisherThread K) : Prop :=
  thread.HoldsData ∨ thread.progress = .dataFreed

instance (thread : PublisherThread K) : Decidable thread.HoldsData :=
  inferInstanceAs (Decidable (_ ∨ _))

instance (thread : PublisherThread K) : Decidable thread.HoldsInfo :=
  inferInstanceAs (Decidable (_ ∨ _))

-- ---------------------------------------------------------------------------
-- Steps
-- ---------------------------------------------------------------------------

section
variable [Field K] [LinearOrder K] [FloorRing K]

def Custody.initial : Custody K := ⟨.empty, [], .empty, .empty⟩

def Custody.sendTo (service : ServiceInfo) (wd : WeatherData K) (outcome : Outcome)
    (s : Custody K) : Custody K :=
  match outcome with
  | .noMemory => s
  | .noThread =>
    { s with
      infos := s.infos.acquire.release s.infos.issued
      snapshots := s.snapshots.acquire.release s.snapshots.issued }
  | .created =>
    { s with
      threads := s.threads ++ [⟨service, wd, s.snapshots.issued, s.infos.issued, .started⟩]
      snapshots := s.snapshots.acquire
      infos := s.infos.acquire }

/-- Of all update functions only `send_to_cwop` has `pthread_exit`, on two of its
three paths. -/
def Custody.update (i : Nat) (thread : PublisherThread K) (time : CallTime) (s : Custody K) :
    Custody K :=
  if thread.service.kind = .cwop then
    match cwop.path time s.batch with
    | .accumulate =>
      let call : Call K := ⟨thread.service.cfg, thread.service.station, time, thread.wd⟩
      { s with
        batch := cwop.accumulate call s.batch
        threads := s.threads.set i { thread with progress := .finished } }
    | .skip => { s with threads := s.threads.set i { thread with progress := .finished } }
    | .send => { s with threads := s.threads.set i { thread with progress := .uploading } }
  else { s with threads := s.threads.set i { thread with progress := .uploading } }

def Custody.next (s : Custody K) : CustodyAct K → Option (Custody K)
  | .sendTo service wd outcome => some (s.sendTo service wd outcome)
  | .update i time => do
    let thread ← s.threads[i]?
    guard (thread.progress = .started)
    return s.update i thread time
  | .finishUpload i => do
    let thread ← s.threads[i]?
    guard (thread.progress = .uploading)
    return { s with
      batch := if thread.service.kind = .cwop then .empty else s.batch
      threads := s.threads.set i { thread with progress := .returned } }
  | .wdfree i => do
    let thread ← s.threads[i]?
    guard (thread.progress = .returned)
    return { s with
      threads := s.threads.set i { thread with progress := .dataFreed }
      snapshots := s.snapshots.release thread.data }
  | .free i => do
    let thread ← s.threads[i]?
    guard (thread.progress = .dataFreed)
    return { s with
      threads := s.threads.set i { thread with progress := .finished }
      infos := s.infos.release thread.info }

end

/-- The copies and the `thread_info` blocks that are not freed are those of
threads that still run, and nothing is freed twice. -/
structure Custody.Balanced (s : Custody K) : Prop where
  snapshots : ∀ n, s.snapshots.Live n ↔ ∃ thread ∈ s.threads,
    thread.data = n ∧ thread.HoldsData
  infos : ∀ n, s.infos.Live n ↔ ∃ thread ∈ s.threads, thread.info = n ∧ thread.HoldsInfo
  once : s.snapshots.released.Nodup ∧ s.infos.released.Nodup
  /-- None outlives its thread. -/
  finished : ∀ thread ∈ s.threads, thread.progress = .finished →
    ¬ s.snapshots.Live thread.data ∧ ¬ s.infos.Live thread.info

def Custody.RunsCwop (s : Custody K) : CustodyAct K → Prop
  | .update i _ =>
    ∃ thread ∈ s.threads[i]?, thread.progress = .started ∧ thread.service.kind = .cwop
  | .sendTo .. | .finishUpload _ | .wdfree _ | .free _ => False

instance (s : Custody K) (a : CustodyAct K) : Decidable (s.RunsCwop a) := by
  cases a <;> unfold Custody.RunsCwop <;> infer_instance

-- ---------------------------------------------------------------------------
-- While no CWOP update runs
-- ---------------------------------------------------------------------------

/-- Each thread that holds a block has one of its own, and the statics are unused. -/
structure Custody.Kept (s : Custody K) : Prop where
  snapshots : s.snapshots.HeldBy PublisherThread.data PublisherThread.HoldsData s.threads
  infos : s.infos.HeldBy PublisherThread.info PublisherThread.HoldsInfo s.threads
  unused : s.batch.count = 0

theorem Custody.Kept.balanced {s : Custody K} (h : s.Kept) : s.Balanced where
  snapshots := h.snapshots.live
  infos := h.infos.live
  once := ⟨h.snapshots.proper.once, h.infos.proper.once⟩
  finished thread hmem hfinished :=
    ⟨h.snapshots.not_live hmem (by simp [PublisherThread.HoldsData, hfinished]),
      h.infos.not_live hmem (by
        simp [PublisherThread.HoldsInfo, PublisherThread.HoldsData, hfinished])⟩

section
variable [Field K] [LinearOrder K] [FloorRing K] {s t : Custody K} {a : CustodyAct K} {i : Nat}
  {thread : PublisherThread K} {time : CallTime}

theorem next_update : s.next (.update i time) = some t ↔
    ∃ thread, s.threads[i]? = some thread ∧ thread.progress = .started ∧
      s.update i thread time = t := by
  simp [Custody.next, Option.bind_eq_some_iff, guard]

theorem next_finishUpload : s.next (.finishUpload i) = some t ↔
    ∃ thread, s.threads[i]? = some thread ∧ thread.progress = .uploading ∧
      { s with
        batch := if thread.service.kind = .cwop then .empty else s.batch
        threads := s.threads.set i { thread with progress := .returned } } = t := by
  simp [Custody.next, Option.bind_eq_some_iff, guard]

theorem next_wdfree : s.next (.wdfree i) = some t ↔
    ∃ thread, s.threads[i]? = some thread ∧ thread.progress = .returned ∧
      { s with
        threads := s.threads.set i { thread with progress := .dataFreed }
        snapshots := s.snapshots.release thread.data } = t := by
  simp [Custody.next, Option.bind_eq_some_iff, guard]

theorem next_free : s.next (.free i) = some t ↔
    ∃ thread, s.threads[i]? = some thread ∧ thread.progress = .dataFreed ∧
      { s with
        threads := s.threads.set i { thread with progress := .finished }
        infos := s.infos.release thread.info } = t := by
  simp [Custody.next, Option.bind_eq_some_iff, guard]

omit [LinearOrder K] [FloorRing K] in
theorem initial_kept : (Custody.initial : Custody K).Kept :=
  ⟨.empty, .empty, rfl⟩

omit [Field K] [LinearOrder K] [FloorRing K] in
theorem Custody.Kept.sendTo (h : s.Kept) (service : ServiceInfo) (wd : WeatherData K)
    (outcome : Outcome) : (s.sendTo service wd outcome).Kept := by
  cases outcome with
  | noMemory => exact h
  | noThread => exact ⟨h.snapshots.acquire_release, h.infos.acquire_release, h.unused⟩
  | created =>
    exact ⟨h.snapshots.acquire rfl (.inl rfl), h.infos.acquire rfl (.inl (.inl rfl)), h.unused⟩

theorem Custody.Kept.step (h : s.Kept) (hother : ¬ s.RunsCwop a) (hstep : s.next a = some t) :
    t.Kept := by
  cases a with
  | sendTo service wd outcome =>
    cases hstep
    exact h.sendTo service wd outcome
  | update i time =>
    obtain ⟨thread, hi, hstarted, rfl⟩ := next_update.mp hstep
    have hkind : thread.service.kind ≠ .cwop := fun hkind => hother ⟨thread, hi, hstarted, hkind⟩
    rw [Custody.update, if_neg hkind]
    refine ⟨h.snapshots.replace hi rfl ?_, h.infos.replace hi rfl ?_, h.unused⟩
    · simp [PublisherThread.HoldsData, hstarted]
    · simp [PublisherThread.HoldsInfo, PublisherThread.HoldsData, hstarted]
  | finishUpload i =>
    obtain ⟨thread, hi, huploading, rfl⟩ := next_finishUpload.mp hstep
    refine ⟨h.snapshots.replace hi rfl ?_, h.infos.replace hi rfl ?_, ?_⟩
    · simp [PublisherThread.HoldsData, huploading]
    · simp [PublisherThread.HoldsInfo, PublisherThread.HoldsData, huploading]
    · rw [apply_ite Batch.count, h.unused]
      exact ite_self 0
  | wdfree i =>
    obtain ⟨thread, hi, hreturned, rfl⟩ := next_wdfree.mp hstep
    refine ⟨h.snapshots.release hi rfl ?_ ?_, h.infos.replace hi rfl ?_, h.unused⟩
    · simp [PublisherThread.HoldsData, hreturned]
    · simp [PublisherThread.HoldsData]
    · simp [PublisherThread.HoldsInfo, PublisherThread.HoldsData, hreturned]
  | free i =>
    obtain ⟨thread, hi, hfreed, rfl⟩ := next_free.mp hstep
    refine ⟨h.snapshots.replace hi rfl ?_, h.infos.release hi rfl ?_ ?_, h.unused⟩
    · simp [PublisherThread.HoldsData, hfreed]
    · simp [PublisherThread.HoldsInfo, hfreed]
    · simp [PublisherThread.HoldsInfo, PublisherThread.HoldsData]

omit [Field K] [LinearOrder K] [FloorRing K] in
theorem not_balanced_of_finished (h : s.Kept) (hi : s.threads[i]? = some thread)
    (hstarted : thread.progress = .started) (batch : Batch K) :
    ¬ Custody.Balanced { s with
      batch, threads := s.threads.set i { thread with progress := .finished } } := by
  intro hbalanced
  have hmem := List.mem_of_getElem? hi
  have hlive : s.snapshots.Live thread.data := by
    exact (h.snapshots.live _).mpr ⟨thread, hmem, rfl, .inl hstarted⟩
  have hlt : i < s.threads.length := (List.getElem?_eq_some_iff.mp hi).1
  exact (hbalanced.finished _ (List.mem_set hlt _) rfl).1 hlive

omit [Field K] [LinearOrder K] [FloorRing K] in
theorem path_ne_send {Request : Type} {p : BatchPublisher K Request} {b : Batch K}
    (h : b.count = 0) : p.path time b ≠ .send := by
  rw [BatchPublisher.path, if_pos h]
  split <;> simp

theorem Custody.Kept.leak (h : s.Kept) (hcwop : s.RunsCwop a) (hstep : s.next a = some t) :
    ¬ t.Balanced := by
  cases a with
  | sendTo | finishUpload | wdfree | free => exact hcwop.elim
  | update i time =>
    obtain ⟨thread, hi, hstarted, hkind⟩ := hcwop
    obtain ⟨_, hi', -, rfl⟩ := next_update.mp hstep
    cases hi.symm.trans hi'
    rw [Custody.update, if_pos hkind]
    cases hpath : (cwop (K := K)).path time s.batch with
    | accumulate => exact not_balanced_of_finished h hi hstarted _
    | skip => exact not_balanced_of_finished h hi hstarted s.batch
    | send => exact absurd hpath (path_ne_send h.unused)

-- ---------------------------------------------------------------------------
-- A run
-- ---------------------------------------------------------------------------

theorem kept_of_run {actions : List (CustodyAct K)}
    (hrun : run Custody.next .initial actions = some s)
    (hother : EachStep Custody.next (fun m a => ¬ m.RunsCwop a) .initial actions) : s.Kept :=
  run_induction_of initial_kept (fun _ _ _ h => h.step) hrun hother

/-- In every state of the run what is allocated is what the threads hold, if and
only if no call of the run is one of `send_to_cwop`. -/
theorem custody_balanced_iff {actions : List (CustodyAct K)}
    (hrun : run Custody.next .initial actions = some s) :
    (∀ past m, past <+: actions → run Custody.next .initial past = some m → m.Balanced) ↔
      EachStep Custody.next (fun m a => ¬ m.RunsCwop a) .initial actions := by
  constructor
  · intro hbalanced
    induction actions using List.reverseRecOn generalizing s with
    | nil => exact eachStep_nil
    | append_singleton actions a ih =>
      obtain ⟨m, hm, hlast⟩ := run_concat.mp hrun
      have hbefore := ih hm fun past t hp => hbalanced past t (hp.trans (List.prefix_append _ _))
      refine (eachStep_concat hm).mpr ⟨hbefore, fun hcwop => ?_⟩
      exact (kept_of_run hm hbefore).leak hcwop hlast (hbalanced _ s List.prefix_rfl hrun)
  · rintro hother past m ⟨rest, rfl⟩ hpast
    refine (kept_of_run hpast ?_).balanced
    exact fun earlier a t hp => hother earlier a t (hp.trans (List.prefix_append _ _))

end

end

-- ---------------------------------------------------------------------------
-- A CWOP entry
-- ---------------------------------------------------------------------------

theorem firstCwopCall_leaks : ∃ s : Custody ℚ, run Custody.next .initial
    [.sendTo (plainService .cwop) .zero .created, .update 0 (minuteTime 1)] = some s ∧
      ¬ s.Balanced := by
  refine ⟨_, rfl, fun h => ?_⟩
  exact (h.finished _ (List.mem_singleton_self _) rfl).1 (by decide)

def loggedRun : List (CustodyAct ℚ) :=
  [.sendTo (plainService .logfile) .zero .created, .sendTo (plainService .mysql) .zero .noThread,
    .update 0 (minuteTime 1), .finishUpload 0, .wdfree 0, .free 0]

theorem loggedRun_balanced : ∃ s, run Custody.next .initial loggedRun = some s ∧ s.Balanced := by
  have balanced (s) (hrun : run Custody.next .initial loggedRun = some s) : s.Balanced := by
    refine (custody_balanced_iff hrun).mpr ?_ loggedRun s List.prefix_rfl hrun
    decide +kernel
  exact ⟨_, rfl, balanced _ rfl⟩

end WfPublisher
