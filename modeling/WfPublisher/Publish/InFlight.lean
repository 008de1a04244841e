import Mathlib
import WfPublisher.Lib.Transition
import WfPublisher.Publish.Conservation

/-!
# Reports in flight

Every call runs in a thread of its own. A call that sends a report reads the
statics, waits for the network, and clears the statics afterwards; nothing keeps
the other threads from the statics in between.
-/

namespace WfPublisher

open Transition

section
variable {K Request : Type}

-- ---------------------------------------------------------------------------
-- Threads
-- ---------------------------------------------------------------------------

inductive Stage (Request : Type)
  | ready
  | built (request : Request)
  | sent
  | done

structure Thread (K Request : Type) where
  call : Call K
  stage : Stage Request

/-- A request that was built, and the threads whose records the statics held then. -/
structure BuiltReport (K Request : Type) where
  call : Call K
  covers : List Nat
  request : Request

/-- The statics and the threads; by their numbers, the threads that added their
record, those of them whose record the statics hold, and the reports. -/
structure Flight (K Request : Type) where
  batch : Batch K
  threads : List (Thread K Request)
  accumulated : List Nat
  held : List Nat
  reports : List (BuiltReport K Request)

inductive FlightAct (K : Type)
  | start (call : Call K)
  | step (thread : Nat)

variable [Field K]

def Flight.initial : Flight K Request := ⟨.empty, [], [], [], []⟩

variable (p : BatchPublisher K Request)

def Flight.next (s : Flight K Request) : FlightAct K → Option (Flight K Request)
  | .start call => some { s with threads := s.threads ++ [⟨call, .ready⟩] }
  | .step i =>
    match s.threads[i]? with
    | none => none
    | some ⟨call, .ready⟩ =>
      match p.path call.time s.batch with
      | .accumulate =>
        some { s with
          batch := p.accumulate call s.batch
          threads := s.threads.set i ⟨call, .done⟩
          accumulated := s.accumulated ++ [i], held := s.held ++ [i] }
      | .skip => some { s with threads := s.threads.set i ⟨call, .done⟩ }
      | .send =>
        let request := p.request call s.batch
        some { s with
          threads := s.threads.set i ⟨call, .built request⟩
          reports := s.reports ++ [⟨call, s.held, request⟩] }
    | some ⟨call, .built _⟩ => some { s with threads := s.threads.set i ⟨call, .sent⟩ }
    | some ⟨call, .sent⟩ =>
      some { s with
        batch := .empty, threads := s.threads.set i ⟨call, .done⟩, held := [] }
    | some ⟨_, .done⟩ => none

inductive Flight.Step (s : Flight K Request) : FlightAct K → Flight K Request → Prop
  | start (call : Call K) :
    Step s (.start call) { s with threads := s.threads ++ [⟨call, .ready⟩] }
  | accumulate {i : Nat} {call : Call K} (hthread : s.threads[i]? = some ⟨call, .ready⟩)
    (hpath : p.path call.time s.batch = .accumulate) :
    Step s (.step i) { s with
      batch := p.accumulate call s.batch
      threads := s.threads.set i ⟨call, .done⟩
      accumulated := s.accumulated ++ [i], held := s.held ++ [i] }
  | skip {i : Nat} {call : Call K} (hthread : s.threads[i]? = some ⟨call, .ready⟩)
    (hpath : p.path call.time s.batch = .skip) :
    Step s (.step i) { s with threads := s.threads.set i ⟨call, .done⟩ }
  | build {i : Nat} {call : Call K} (hthread : s.threads[i]? = some ⟨call, .ready⟩)
    (hpath : p.path call.time s.batch = .send) :
    Step s (.step i) { s with
      threads := s.threads.set i ⟨call, .built (p.request call s.batch)⟩
      reports := s.reports ++ [⟨call, s.held, p.request call s.batch⟩] }
  | send {i : Nat} {call : Call K} {request : Request}
    (hthread : s.threads[i]? = some ⟨call, .built request⟩) :
    Step s (.step i) { s with threads := s.threads.set i ⟨call, .sent⟩ }
  | clear {i : Nat} {call : Call K} (hthread : s.threads[i]? = some ⟨call, .sent⟩) :
    Step s (.step i) { s with
      batch := .empty, threads := s.threads.set i ⟨call, .done⟩, held := [] }

variable {p} {s t : Flight K Request} {a : FlightAct K}

theorem Flight.step_of_next (h : s.next p a = some t) : s.Step p a t := by
  cases a with
  | start call =>
    cases h
    exact .start call
  | step i =>
    unfold Flight.next at h
    dsimp only at h
    split at h
    · cases h
    · rename_i call hthread
      split at h
      · rename_i hpath
        cases h
        exact .accumulate hthread hpath
      · rename_i hpath
        cases h
        exact .skip hthread hpath
      · rename_i hpath
        cases h
        exact .build hthread hpath
    · rename_i call request hthread
      cases h
      exact .send hthread
    · rename_i call hthread
      cases h
      exact .clear hthread
    · cases h

theorem Flight.next_of_step (h : s.Step p a t) : s.next p a = some t := by
  cases h with
  | start call => rfl
  | accumulate hthread hpath => simp only [Flight.next, hthread, hpath]
  | skip hthread hpath => simp only [Flight.next, hthread, hpath]
  | build hthread hpath => simp only [Flight.next, hthread, hpath]
  | send hthread => simp only [Flight.next, hthread]
  | clear hthread => simp only [Flight.next, hthread]

section
variable {i : Nat} {call : Call K}

omit [Field K] in
theorem getElem?_set_of_some {threads : List (Thread K Request)} {thread new : Thread K Request}
    (h : threads[i]? = some thread) : (threads.set i new)[i]? = some new := by
  obtain ⟨hlt, -⟩ := List.getElem?_eq_some_iff.mp h
  simp [hlt]

theorem exists_next_built {request : Request} (h : s.threads[i]? = some ⟨call, .built request⟩) :
    ∃ t, s.next p (.step i) = some t ∧ t.threads[i]? = some ⟨call, .sent⟩ ∧
      t.reports = s.reports :=
  ⟨_, Flight.next_of_step (.send h), getElem?_set_of_some h, rfl⟩

theorem exists_next_sent (h : s.threads[i]? = some ⟨call, .sent⟩) :
    ∃ t, s.next p (.step i) = some t ∧ t.threads[i]? = some ⟨call, .done⟩ ∧
      t.batch = .empty ∧ t.reports = s.reports :=
  ⟨_, Flight.next_of_step (.clear h), getElem?_set_of_some h, rfl, rfl⟩

theorem exists_run_alone (hthread : s.threads[i]? = some ⟨call, .ready⟩) :
    ∃ steps t, run (Flight.next p) s (List.replicate steps (.step i)) = some t ∧
      t.threads[i]? = some ⟨call, .done⟩ ∧ t.batch = (p.update call s.batch).1 ∧
      t.reports.map BuiltReport.request =
        s.reports.map BuiltReport.request ++ (p.update call s.batch).2.toList := by
  obtain ⟨-, hpath, hupdate⟩ | ⟨-, -, hpath, hupdate⟩ | ⟨-, -, hpath, hupdate⟩ :=
    BatchPublisher.update_cases (p := p) call s.batch
  · have hnext := Flight.next_of_step (.accumulate hthread hpath)
    exact ⟨1, _, by simpa [run] using hnext, getElem?_set_of_some hthread, by simp [hupdate],
      by simp [hupdate]⟩
  · have hnext := Flight.next_of_step (.skip hthread hpath)
    exact ⟨1, _, by simpa [run] using hnext, getElem?_set_of_some hthread, by simp [hupdate],
      by simp [hupdate]⟩
  · have hnext := Flight.next_of_step (.build hthread hpath)
    obtain ⟨t, ht, hsent, hreports⟩ :=
      exists_next_built (p := p) (s := { s with
        threads := s.threads.set i ⟨call, .built (p.request call s.batch)⟩
        reports := s.reports ++ [⟨call, s.held, p.request call s.batch⟩] })
        (getElem?_set_of_some hthread)
    obtain ⟨t', ht', hdone, hbatch, hreports'⟩ := exists_next_sent (p := p) hsent
    refine ⟨3, t', by simp [run, List.replicate, hnext, ht, ht'], hdone, ?_, ?_⟩
    · simp [hupdate, hbatch]
    · simp [hupdate, hreports, hreports']

end

end

-- ---------------------------------------------------------------------------
-- What has become of the records
-- ---------------------------------------------------------------------------

section
variable {K Request : Type}

def Stage.inFlight : Stage Request → Bool
  | .built _ | .sent => true
  | .ready | .done => false

def Flight.Flies (s : Flight K Request) (i : Nat) : Prop :=
  ∃ thread, s.threads[i]? = some thread ∧ thread.stage.inFlight = true

def timesReported (reports : List (BuiltReport K Request)) (i : Nat) : Nat :=
  reports.countP fun r => i ∈ r.covers

/-- Every record that was added is in one report, or in none and still in the
statics. -/
def Flight.Accounted (s : Flight K Request) : Prop :=
  ∀ i ∈ s.accumulated,
    timesReported s.reports i = 1 ∨ timesReported s.reports i = 0 ∧ i ∈ s.held

instance (s : Flight K Request) : Decidable s.Accounted := inferInstanceAs (Decidable (∀ _ ∈ _, _))

def Flight.readsStatics [Field K] (p : BatchPublisher K Request) (s : Flight K Request) (i : Nat) :
    Bool :=
  match s.threads[i]? with
  | some ⟨call, .ready⟩ => p.path call.time s.batch ≠ .skip
  | _ => false

/-- No call adds its record or builds a report while a report is in flight. -/
def Quiet [Field K] (p : BatchPublisher K Request) (s : Flight K Request) : FlightAct K → Prop
  | .start _ => True
  | .step i => s.readsStatics p i = true → ∀ thread ∈ s.threads, thread.stage.inFlight = false

instance [Field K] (p : BatchPublisher K Request) :
    (s : Flight K Request) → (a : FlightAct K) → Decidable (Quiet p s a)
  | _, .start _ => isTrue trivial
  | _, .step _ => inferInstanceAs (Decidable (_ → _))

theorem Quiet.not_flies [Field K] {p : BatchPublisher K Request} {s : Flight K Request} {i : Nat}
    {call : Call K} (h : Quiet p s (.step i)) (hthread : s.threads[i]? = some ⟨call, .ready⟩)
    (hpath : p.path call.time s.batch ≠ .skip) (j : Nat) : ¬ s.Flies j := by
  have hreads : s.readsStatics p i = true := by simp [Flight.readsStatics, hthread, hpath]
  rintro ⟨thread, hj, hstage⟩
  rw [h hreads thread (List.mem_of_getElem? hj)] at hstage
  cases hstage

variable {s t : Flight K Request}

theorem timesReported_concat (reports : List (BuiltReport K Request))
    (r : BuiltReport K Request) (i : Nat) :
    timesReported (reports ++ [r]) i = timesReported reports i + if i ∈ r.covers then 1 else 0 := by
  simp [timesReported, List.countP_append, List.countP_singleton]

theorem timesReported_eq_zero {reports : List (BuiltReport K Request)} {i : Nat}
    (h : ∀ r ∈ reports, i ∉ r.covers) : timesReported reports i = 0 := by
  rw [timesReported, List.countP_eq_zero]
  intro r hr hmem
  exact h r hr (of_decide_eq_true hmem)

-- ---------------------------------------------------------------------------
-- Threads and their numbers
-- ---------------------------------------------------------------------------

theorem getElem?_start {threads : List (Thread K Request)} {thread new : Thread K Request}
    {i : Nat} (h : threads[i]? = some thread) : (threads ++ [new])[i]? = some thread := by
  obtain ⟨hlt, -⟩ := List.getElem?_eq_some_iff.mp h
  rw [List.getElem?_append_left hlt]
  exact h

theorem getElem?_become {threads : List (Thread K Request)} {thread new : Thread K Request}
    {i : Nat} (h : threads[i]? = some thread) (j : Nat) :
    (threads.set i new)[j]? = if j = i then some new else threads[j]? := by
  obtain ⟨hlt, -⟩ := List.getElem?_eq_some_iff.mp h
  rw [List.getElem?_set]
  by_cases hj : j = i
  · subst hj
    simp [hlt]
  · simp [hj, Ne.symm hj]

theorem flies_start (call : Call K) (j : Nat) :
    Flight.Flies { s with threads := s.threads ++ [⟨call, .ready⟩] } j ↔ s.Flies j := by
  constructor
  · rintro ⟨thread, hthread, hstage⟩
    obtain hlt | hle := Nat.lt_or_ge j s.threads.length
    · rw [List.getElem?_append_left hlt] at hthread
      exact ⟨thread, hthread, hstage⟩
    · rw [List.getElem?_append_right hle] at hthread
      cases List.mem_singleton.mp (List.mem_of_getElem? hthread)
      cases hstage
  · rintro ⟨thread, hthread, hstage⟩
    exact ⟨thread, getElem?_start hthread, hstage⟩

theorem flies_become {i : Nat} {old new : Thread K Request} (h : s.threads[i]? = some old)
    {s' : Flight K Request} (hs' : s'.threads = s.threads.set i new) (j : Nat) :
    s'.Flies j ↔ if j = i then new.stage.inFlight = true else s.Flies j := by
  unfold Flight.Flies
  rw [hs', getElem?_become h]
  by_cases hj : j = i <;> simp [hj]

theorem flies_move {i : Nat} {old new : Thread K Request} (h : s.threads[i]? = some old)
    (hsame : new.stage.inFlight = old.stage.inFlight) (j : Nat) :
    Flight.Flies { s with threads := s.threads.set i new } j ↔ s.Flies j := by
  rw [flies_become h rfl]
  split
  · rename_i heq
    subst heq
    rw [hsame]
    constructor
    · intro hstage
      exact ⟨old, h, hstage⟩
    · rintro ⟨thread, hthread, hstage⟩
      cases h.symm.trans hthread
      exact hstage
  · exact Iff.rfl

-- ---------------------------------------------------------------------------
-- What the statics and the reports are made of
-- ---------------------------------------------------------------------------

def callsOf (threads : List (Thread K Request)) (numbers : List Nat) : List (Call K) :=
  numbers.filterMap fun i => threads[i]?.map Thread.call

theorem callsOf_start {threads : List (Thread K Request)} {new : Thread K Request}
    {numbers : List Nat} (h : ∀ i ∈ numbers, i < threads.length) :
    callsOf (threads ++ [new]) numbers = callsOf threads numbers := by
  apply List.filterMap_congr
  intro i hi
  rw [List.getElem?_append_left (h i hi)]

theorem callsOf_become {threads : List (Thread K Request)} {i : Nat} {call : Call K}
    {old new : Stage Request} (h : threads[i]? = some ⟨call, old⟩) (numbers : List Nat) :
    callsOf (threads.set i ⟨call, new⟩) numbers = callsOf threads numbers := by
  apply List.filterMap_congr
  intro j _
  rw [getElem?_become h]
  split
  · rename_i heq
    rw [heq, h]
    rfl
  · rfl

/-- The statics are the batch of the calls they hold, and a report is the request
for the batch of those it covers. -/
structure Flight.Sound [Field K] (p : BatchPublisher K Request) (s : Flight K Request) : Prop where
  started : ∀ i ∈ s.held, i < s.threads.length
  covered : ∀ r ∈ s.reports, ∀ i ∈ r.covers, i < s.threads.length
  batch : s.batch = p.batchOf (callsOf s.threads s.held)
  reports : ∀ r ∈ s.reports, r.request = p.request r.call (p.batchOf (callsOf s.threads r.covers))

theorem Flight.Sound.move [Field K] {p : BatchPublisher K Request} (h : s.Sound p) {i : Nat}
    {call : Call K} {old new : Stage Request} (hthread : s.threads[i]? = some ⟨call, old⟩) :
    Flight.Sound p { s with threads := s.threads.set i ⟨call, new⟩ } := by
  refine ⟨by simpa using h.started, by simpa using h.covered, ?_, ?_⟩
  · simpa only [callsOf_become hthread] using h.batch
  · simpa only [callsOf_become hthread] using h.reports

theorem Flight.Sound.step [Field K] {p : BatchPublisher K Request} {a : FlightAct K}
    (h : s.Sound p) (hstep : s.Step p a t) : t.Sound p := by
  have ⟨hstarted, hcovered, hbatch, hreports⟩ := h
  cases hstep with
  | start call =>
    refine ⟨fun i hi => ?_, fun r hr i hi => ?_, ?_, fun r hr => ?_⟩
    · exact (hstarted i hi).trans_le (by simp)
    · exact (hcovered r hr i hi).trans_le (by simp)
    · simpa only [callsOf_start hstarted] using hbatch
    · simpa only [callsOf_start (hcovered r hr)] using hreports r hr
  | @accumulate i call hthread hpath =>
    have hlt : i < s.threads.length := (List.getElem?_eq_some_iff.mp hthread).1
    have hcalls : callsOf s.threads (s.held ++ [i]) = callsOf s.threads s.held ++ [call] := by
      simp [callsOf, hthread]
    refine ⟨fun j hj => ?_, by simpa using hcovered, ?_, ?_⟩
    · obtain hj | hj := List.mem_append.mp hj
      · simpa using hstarted j hj
      · cases List.mem_singleton.mp hj
        simpa using hlt
    · simp only [callsOf_become hthread, hcalls, BatchPublisher.batchOf_concat, ← hbatch]
    · simpa only [callsOf_become hthread] using hreports
  | skip hthread hpath => exact h.move hthread
  | @build i call hthread hpath =>
    refine ⟨by simpa using hstarted, fun r hr j hj => ?_, ?_, fun r hr => ?_⟩
    · obtain hr | hr := List.mem_append.mp hr
      · simpa using hcovered r hr j hj
      · cases List.mem_singleton.mp hr
        simpa using hstarted j hj
    · simpa only [callsOf_become hthread] using hbatch
    · simp only [callsOf_become hthread]
      obtain hr | hr := List.mem_append.mp hr
      · exact hreports r hr
      · cases List.mem_singleton.mp hr
        exact congrArg (p.request call) hbatch
  | send hthread => exact h.move hthread
  | @clear i call hthread =>
    refine ⟨fun j hj => ?_, by simpa using hcovered, rfl, ?_⟩
    · cases hj
    · simpa only [callsOf_become hthread] using hreports

theorem flight_sound [Field K] {p : BatchPublisher K Request} {actions : List (FlightAct K)}
    (hrun : run (Flight.next p) .initial actions = some s) : s.Sound p := by
  refine run_induction (P := Flight.Sound p) ?_ (fun m a t hm hnext => ?_) hrun
  · refine ⟨fun i hi => ?_, fun r hr => ?_, rfl, fun r hr => ?_⟩
    · cases hi
    · cases hr
    · cases hr
  · exact hm.step (Flight.step_of_next hnext)

-- ---------------------------------------------------------------------------
-- Undisturbed reports
-- ---------------------------------------------------------------------------

/-- What holds as long as every step is quiet: what the statics hold is either in
no report and none is in flight, or in the one report that is. -/
structure Flight.Undisturbed (s : Flight K Request) : Prop where
  finished : ∀ i ∈ s.accumulated, ∃ call, s.threads[i]? = some ⟨call, .done⟩
  held : ∀ i ∈ s.held, i ∈ s.accumulated
  covers : ∀ r ∈ s.reports, ∀ i ∈ r.covers, i ∈ s.accumulated
  phase : (∀ i, ¬ s.Flies i) ∧ (∀ i ∈ s.held, timesReported s.reports i = 0) ∨
    ∃ flying, (∀ i, s.Flies i ↔ i = flying) ∧ ∀ i ∈ s.held, timesReported s.reports i = 1
  wiped : ∀ i ∈ s.accumulated, i ∉ s.held → timesReported s.reports i = 1

theorem Flight.Undisturbed.accounted (h : s.Undisturbed) : s.Accounted := by
  intro i hi
  by_cases hheld : i ∈ s.held
  · obtain ⟨-, hphase⟩ | ⟨-, -, hphase⟩ := h.phase
    · exact .inr ⟨hphase i hheld, hheld⟩
    · exact .inl (hphase i hheld)
  · exact .inl (h.wiped i hi hheld)

theorem Flight.Undisturbed.not_mem (h : s.Undisturbed) {i : Nat} {thread : Thread K Request}
    (hthread : s.threads[i]? = some thread) (hstage : thread.stage ≠ .done) :
    i ∉ s.accumulated := by
  intro hmem
  obtain ⟨call, hdone⟩ := h.finished i hmem
  cases hthread.symm.trans hdone
  exact hstage rfl

theorem Flight.Undisturbed.finished_become (h : s.Undisturbed) {i : Nat}
    {thread new : Thread K Request} (hthread : s.threads[i]? = some thread)
    (hstage : thread.stage ≠ .done) :
    ∀ j ∈ s.accumulated, ∃ call, (s.threads.set i new)[j]? = some ⟨call, .done⟩ := by
  intro j hj
  obtain ⟨call, hdone⟩ := h.finished j hj
  have hne : j ≠ i := by
    rintro rfl
    exact h.not_mem hthread hstage hj
  refine ⟨call, ?_⟩
  rw [getElem?_become hthread, if_neg hne]
  exact hdone

theorem Flight.Undisturbed.not_reported (h : s.Undisturbed) {i : Nat} (hi : i ∉ s.accumulated) :
    timesReported s.reports i = 0 :=
  timesReported_eq_zero fun r hr hmem => hi (h.covers r hr i hmem)

theorem Flight.Undisturbed.idle (h : s.Undisturbed) (hnone : ∀ i, ¬ s.Flies i) :
    ∀ i ∈ s.held, timesReported s.reports i = 0 := by
  obtain ⟨-, hidle⟩ | ⟨flying, hflying, -⟩ := h.phase
  · exact hidle
  · exact absurd ((hflying flying).mpr rfl) (hnone flying)

theorem Flight.Undisturbed.start (h : s.Undisturbed) (call : Call K) :
    Flight.Undisturbed { s with threads := s.threads ++ [⟨call, .ready⟩] } := by
  refine ⟨fun i hi => ?_, h.held, h.covers, ?_, h.wiped⟩
  · obtain ⟨done, hdone⟩ := h.finished i hi
    exact ⟨done, getElem?_start hdone⟩
  · simpa only [flies_start] using h.phase

theorem Flight.Undisturbed.move (h : s.Undisturbed) {i : Nat} {old new : Thread K Request}
    (hthread : s.threads[i]? = some old) (hstage : old.stage ≠ .done)
    (hsame : new.stage.inFlight = old.stage.inFlight) :
    Flight.Undisturbed { s with threads := s.threads.set i new } := by
  refine ⟨h.finished_become hthread hstage, h.held, h.covers, ?_, h.wiped⟩
  simpa only [flies_move hthread hsame] using h.phase

theorem Flight.Undisturbed.accumulate (h : s.Undisturbed) {i : Nat} {call : Call K}
    (hthread : s.threads[i]? = some ⟨call, .ready⟩) (hnone : ∀ j, ¬ s.Flies j) (batch : Batch K) :
    Flight.Undisturbed { s with
      batch := batch, threads := s.threads.set i ⟨call, .done⟩
      accumulated := s.accumulated ++ [i], held := s.held ++ [i] } := by
  refine ⟨fun j hj => ?_, fun j hj => ?_, fun r hr j hj => ?_,
    .inl ⟨fun j => ?_, fun j hj => ?_⟩, fun j hj hheld => ?_⟩
  · obtain hj | hj := List.mem_append.mp hj
    · exact h.finished_become hthread nofun j hj
    · cases List.mem_singleton.mp hj
      exact ⟨call, by simp [getElem?_become hthread]⟩
  · obtain hj | hj := List.mem_append.mp hj
    · exact List.mem_append_left _ (h.held j hj)
    · exact List.mem_append_right _ hj
  · exact List.mem_append_left _ (h.covers r hr j hj)
  · rw [flies_become hthread rfl]
    split
    · exact nofun
    · exact hnone j
  · obtain hj | hj := List.mem_append.mp hj
    · exact h.idle hnone j hj
    · cases List.mem_singleton.mp hj
      exact h.not_reported (h.not_mem hthread nofun)
  · obtain hj | hj := List.mem_append.mp hj
    · exact h.wiped j hj fun hmem => hheld (List.mem_append_left _ hmem)
    · exact absurd (List.mem_append_right _ hj) hheld

theorem Flight.Undisturbed.build (h : s.Undisturbed) {i : Nat} {call : Call K}
    (hthread : s.threads[i]? = some ⟨call, .ready⟩) (hnone : ∀ j, ¬ s.Flies j)
    (request : Request) :
    Flight.Undisturbed { s with
      threads := s.threads.set i ⟨call, .built request⟩
      reports := s.reports ++ [⟨call, s.held, request⟩] } := by
  refine ⟨h.finished_become hthread nofun, h.held, fun r hr j hj => ?_,
    .inr ⟨i, fun j => ?_, fun j hj => ?_⟩, fun j hj hheld => ?_⟩
  · obtain hr | hr := List.mem_append.mp hr
    · exact h.covers r hr j hj
    · cases List.mem_singleton.mp hr
      exact h.held j hj
  · rw [flies_become hthread rfl]
    split
    · rename_i heq
      exact iff_of_true rfl heq
    · rename_i hne
      exact iff_of_false (hnone j) hne
  · rw [timesReported_concat, h.idle hnone j hj, if_pos hj]
  · rw [timesReported_concat, h.wiped j hj hheld, if_neg hheld]

theorem Flight.Undisturbed.clear (h : s.Undisturbed) {i : Nat} {call : Call K}
    (hthread : s.threads[i]? = some ⟨call, .sent⟩) (batch : Batch K) :
    Flight.Undisturbed { s with
      batch := batch, threads := s.threads.set i ⟨call, .done⟩, held := [] } := by
  have hflies : s.Flies i := ⟨_, hthread, rfl⟩
  obtain ⟨hnone, -⟩ | ⟨flying, hflying, hreported⟩ := h.phase
  · exact absurd hflies (hnone i)
  refine ⟨h.finished_become hthread nofun, nofun, h.covers, .inl ⟨fun j => ?_, nofun⟩,
    fun j hj _ => ?_⟩
  · rw [flies_become hthread rfl]
    split
    · exact nofun
    · rename_i hne
      intro hfly
      exact hne (((hflying j).mp hfly).trans ((hflying i).mp hflies).symm)
  · by_cases hheld : j ∈ s.held
    · exact hreported j hheld
    · exact h.wiped j hj hheld

variable [Field K] {p : BatchPublisher K Request} {a : FlightAct K}

theorem Flight.undisturbed_initial : (Flight.initial : Flight K Request).Undisturbed := by
  refine ⟨fun i hi => ?_, fun i hi => ?_, fun r hr => ?_, .inl ⟨?_, fun i hi => ?_⟩,
    fun i hi => ?_⟩
  · cases hi
  · cases hi
  · cases hr
  · rintro i ⟨thread, hthread, -⟩
    cases hthread
  · cases hi
  · cases hi

theorem Flight.Undisturbed.step (h : s.Undisturbed) (hquiet : Quiet p s a)
    (hstep : s.Step p a t) : t.Undisturbed := by
  cases hstep with
  | start call => exact h.start call
  | accumulate hthread hpath =>
    exact h.accumulate hthread (hquiet.not_flies hthread (by simp [hpath])) _
  | skip hthread hpath => exact h.move hthread nofun rfl
  | build hthread hpath =>
    exact h.build hthread (hquiet.not_flies hthread (by simp [hpath])) _
  | send hthread => exact h.move hthread nofun rfl
  | clear hthread => exact h.clear hthread _

/-- In a run whose steps are all quiet, no record is wiped without being reported
and none is reported twice. -/
theorem quietRun_accounted {actions : List (FlightAct K)}
    (hrun : run (Flight.next p) .initial actions = some s)
    (hquiet : EachStep (Flight.next p) (Quiet p) .initial actions) : s.Accounted := by
  refine Flight.Undisturbed.accounted (run_induction_of (P := Flight.Undisturbed)
    Flight.undisturbed_initial (fun m a t hm hcond hnext => ?_) hrun hquiet)
  exact hm.step hcond (Flight.step_of_next hnext)

end

-- ---------------------------------------------------------------------------
-- A record in the wrong moment
-- ---------------------------------------------------------------------------

def disturbedRun : List (FlightAct ℚ) :=
  [.start (gustAt 9 1), .step 0, .start (gustAt 10 2), .step 1, .start (gustAt 11 30), .step 2,
    .step 1, .step 1]

theorem disturbedRun_wipes :
    (∃ s, run (Flight.next cwop) .initial disturbedRun = some s ∧ ¬ s.Accounted) ∧
    (∃ s, run (Flight.next (weatherbug false)) .initial disturbedRun = some s ∧ ¬ s.Accounted) ∧
    ∃ s, run (Flight.next (pws false)) .initial disturbedRun = some s ∧ ¬ s.Accounted := by
  refine ⟨⟨_, rfl, ?_⟩, ⟨_, rfl, ?_⟩, ⟨_, rfl, ?_⟩⟩ <;> decide +kernel

theorem undisturbedRun_accounted : ∃ s, run (Flight.next (cwop (K := ℚ))) .initial
    [.start (gustAt 9 1), .step 0, .start (gustAt 10 2), .step 1, .start (gustAt 11 30), .step 1,
      .step 1, .step 2] = some s ∧ s.Accounted := by
  have accounted (s) (hrun : run (Flight.next (cwop (K := ℚ))) .initial
      [.start (gustAt 9 1), .step 0, .start (gustAt 10 2), .step 1, .start (gustAt 11 30), .step 1,
        .step 1, .step 2] = some s) : s.Accounted :=
    quietRun_accounted hrun (by decide +kernel)
  exact ⟨_, rfl, accounted _ rfl⟩

end WfPublisher
