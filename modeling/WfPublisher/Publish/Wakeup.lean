import WfPublisher.Lib.Transition
import WfPublisher.Publish.Copies
import WfPublisher.Receive.Gating

/-!
# The receive loop and the publisher

The two threads around `data_event_trigger`. The receive loop locks, signals and
unlocks; the publisher waits, which gives the mutex back, and serves the services
with the mutex held. It is not held at the first wait, and a wait may come back
without a signal.
-/

namespace WfPublisher

open Fallible Transition

inductive Party
  | main
  | publisher

/-- Where `main` is: in the loop, or on its way through lock, signal and unlock. -/
inductive Receiver
  | reading
  | locking
  | signalling
  | unlocking

/-- Where `publish` is. Behind the wait it needs the mutex again; what woke it up
is the record as it was at the signal, if there was one. -/
inductive Publisher (K : Type)
  | starting
  | waiting
  | waking (cause : Option (WeatherData K))
  | serving (rest : List ServiceInfo)

structure Pass (K : Type) where
  cause : Option (WeatherData K)
  copies : List (ServiceInfo × WeatherData K)

/-- The passes are those begun so far, the newest first. A signal that nobody waits
for is lost. -/
structure System (K : Type) where
  loop : LoopState K
  receiver : Receiver
  publisher : Publisher K
  mutex : Option Party
  signals : Nat
  lost : Nat
  spurious : Nat
  passes : List (Pass K)

inductive SystemAct
  | receive (a : Arrival)
  | lock
  | signal
  | unlock
  | wait
  | spurious
  | resume
  | serve

section
variable {K : Type}

def System.initial (loop : LoopState K) : System K :=
  ⟨loop, .reading, .starting, none, 0, 0, 0, []⟩

-- ---------------------------------------------------------------------------
-- The steps
-- ---------------------------------------------------------------------------

namespace System

variable (s : System K)

def signal : System K :=
  match s.publisher with
  | .waiting =>
    { s with
      receiver := .unlocking, signals := s.signals + 1
      publisher := .waking (some s.loop.globals.wd) }
  | _ => { s with receiver := .unlocking, signals := s.signals + 1, lost := s.lost + 1 }

def serve (service : ServiceInfo) (rest : List ServiceInfo) : System K :=
  { s with
    publisher := .serving rest
    passes :=
      if service.enabled = 0 then s.passes
      else s.passes.modifyHead fun pass =>
        { pass with copies := pass.copies ++ [(service, s.loop.globals.wd.reversed)] } }

variable {s}

theorem signal_of_waiting (h : s.publisher = .waiting) : s.signal =
    { s with
      receiver := .unlocking, signals := s.signals + 1
      publisher := .waking (some s.loop.globals.wd) } := by
  unfold signal
  rw [h]

theorem signal_of_ne (h : s.publisher ≠ .waiting) : s.signal =
    { s with receiver := .unlocking, signals := s.signals + 1, lost := s.lost + 1 } := by
  unfold signal
  split
  · rename_i hwaiting
    exact absurd hwaiting h
  · rfl

theorem length_serve {service : ServiceInfo} {rest : List ServiceInfo} :
    (s.serve service rest).passes.length = s.passes.length := by
  unfold serve
  dsimp only
  split
  · rfl
  · exact List.length_modifyHead

end System

variable [Field K] [LinearOrder K] [FloorRing K] (host : Host K) (config : Config K)
  (services : List ServiceInfo)

/-- A step of one of the threads, or none where it cannot take it. Waiting unlocks
the mutex whoever has locked it. -/
def System.next (s : System K) : SystemAct → Option (System K)
  | .receive a =>
    match s.receiver, loopBody host config a s.loop with
    | .reading, .ok (loop, signal) =>
      some { s with loop, receiver := if signal then .locking else .reading }
    | _, _ => none
  | .lock =>
    match s.receiver, s.mutex with
    | .locking, none => some { s with receiver := .signalling, mutex := some .main }
    | _, _ => none
  | .signal =>
    match s.receiver with
    | .signalling => some s.signal
    | _ => none
  | .unlock =>
    match s.receiver with
    | .unlocking => some { s with receiver := .reading, mutex := none }
    | _ => none
  | .wait =>
    match s.publisher with
    | .starting | .serving [] => some { s with publisher := .waiting, mutex := none }
    | _ => none
  | .spurious =>
    match s.publisher with
    | .waiting => some { s with publisher := .waking none, spurious := s.spurious + 1 }
    | _ => none
  | .resume =>
    match s.publisher, s.mutex with
    | .waking cause, none =>
      some { s with
        mutex := some .publisher, publisher := .serving services
        passes := ⟨cause, []⟩ :: s.passes }
    | _, _ => none
  | .serve =>
    match s.publisher with
    | .serving (service :: rest) => some (s.serve service rest)
    | _ => none

inductive System.Step (s : System K) : SystemAct → System K → Prop
  | receive {a loop signal} : s.receiver = .reading →
    loopBody host config a s.loop = .ok (loop, signal) →
    s.Step (.receive a) { s with loop, receiver := if signal then .locking else .reading }
  | lock : s.receiver = .locking → s.mutex = none →
    s.Step .lock { s with receiver := .signalling, mutex := some .main }
  | signal : s.receiver = .signalling → s.Step .signal s.signal
  | unlock : s.receiver = .unlocking →
    s.Step .unlock { s with receiver := .reading, mutex := none }
  | wait : s.publisher = .starting ∨ s.publisher = .serving [] →
    s.Step .wait { s with publisher := .waiting, mutex := none }
  | spurious : s.publisher = .waiting →
    s.Step .spurious { s with publisher := .waking none, spurious := s.spurious + 1 }
  | resume {cause} : s.publisher = .waking cause → s.mutex = none →
    s.Step .resume { s with
      mutex := some .publisher, publisher := .serving services
      passes := ⟨cause, []⟩ :: s.passes }
  | serve {service rest} : s.publisher = .serving (service :: rest) →
    s.Step .serve (s.serve service rest)

variable {host config services} {s t : System K} {a : SystemAct}

theorem System.step_of_next (h : s.next host config services a = some t) :
    s.Step host config services a t := by
  cases a with
  | receive a =>
    simp only [next] at h
    split at h
    · rename_i hreceiver hbody
      cases h
      exact .receive hreceiver hbody
    · cases h
  | lock =>
    simp only [next] at h
    split at h
    · rename_i hreceiver hmutex
      cases h
      exact .lock hreceiver hmutex
    · cases h
  | signal =>
    simp only [next] at h
    split at h
    · rename_i hreceiver
      cases h
      exact .signal hreceiver
    · cases h
  | unlock =>
    simp only [next] at h
    split at h
    · rename_i hreceiver
      cases h
      exact .unlock hreceiver
    · cases h
  | wait =>
    simp only [next] at h
    split at h
    · rename_i hpublisher
      cases h
      exact .wait (.inl hpublisher)
    · rename_i hpublisher
      cases h
      exact .wait (.inr hpublisher)
    · cases h
  | spurious =>
    simp only [next] at h
    split at h
    · rename_i hpublisher
      cases h
      exact .spurious hpublisher
    · cases h
  | resume =>
    simp only [next] at h
    split at h
    · rename_i hpublisher hmutex
      cases h
      exact .resume hpublisher hmutex
    · cases h
  | serve =>
    simp only [next] at h
    split at h
    · rename_i hpublisher
      cases h
      exact .serve hpublisher
    · cases h

-- ---------------------------------------------------------------------------
-- Signals and passes
-- ---------------------------------------------------------------------------

def Publisher.pending : Publisher K → Nat
  | .waking _ => 1
  | _ => 0

/-- What wakes the publisher up are the signals that are not lost and the spurious
wake-ups, and each is a pass or pending. -/
def System.Counted (s : System K) : Prop :=
  s.signals + s.spurious = s.passes.length + s.publisher.pending + s.lost

omit [Field K] [LinearOrder K] [FloorRing K] in
theorem System.counted_initial (loop : LoopState K) : (System.initial loop).Counted := rfl

theorem System.Counted.step (h : s.Counted) (hstep : s.Step host config services a t) :
    t.Counted := by
  cases hstep with
  | receive | lock | unlock => exact h
  | signal =>
    by_cases hwaiting : s.publisher = .waiting
    · rw [System.signal_of_waiting hwaiting]
      simp only [System.Counted, hwaiting, Publisher.pending] at h ⊢
      omega
    · rw [System.signal_of_ne hwaiting]
      simp only [System.Counted] at h ⊢
      omega
  | wait hpublisher =>
    obtain hpublisher | hpublisher := hpublisher
    · simpa only [System.Counted, hpublisher, Publisher.pending] using h
    · simpa only [System.Counted, hpublisher, Publisher.pending] using h
  | spurious hpublisher =>
    simp only [System.Counted, hpublisher, Publisher.pending] at h ⊢
    omega
  | resume hpublisher =>
    simp only [System.Counted, hpublisher, Publisher.pending, List.length_cons] at h ⊢
    omega
  | serve hpublisher =>
    simp only [System.Counted, hpublisher, Publisher.pending] at h
    rw [System.Counted, System.length_serve]
    exact h

theorem system_counted {loop : LoopState K} {actions : List SystemAct}
    (hrun : run (System.next host config services) (.initial loop) actions = some s) :
    s.Counted :=
  run_induction (P := System.Counted) (System.counted_initial loop)
    (fun _ _ _ hs hnext => hs.step (System.step_of_next hnext)) hrun

/-- Each signal is raised while the publisher waits, and nothing else wakes it up. -/
def Answered (s : System K) : SystemAct → Prop
  | .signal => s.publisher = .waiting
  | .spurious => False
  | _ => True

instance (p : Publisher K) : Decidable (p = .waiting) :=
  match p with
  | .waiting => isTrue rfl
  | .starting | .waking _ | .serving _ => isFalse nofun

instance : ∀ (s : System K) (a : SystemAct), Decidable (Answered s a)
  | s, .signal => inferInstanceAs (Decidable (s.publisher = .waiting))
  | _, .spurious => inferInstanceAs (Decidable False)
  | _, .receive _ | _, .lock | _, .unlock | _, .wait | _, .resume | _, .serve =>
    inferInstanceAs (Decidable True)

structure System.EachAnswered (s : System K) : Prop where
  le : s.passes.length ≤ s.signals
  eq : s.publisher = .waiting → s.passes.length = s.signals

def System.Faithful (s : System K) : Prop := s.lost = 0 ∧ s.spurious = 0

theorem System.Faithful.step (h : s.Faithful) (ha : Answered s a)
    (hstep : s.Step host config services a t) : t.Faithful := by
  cases hstep with
  | signal =>
    have hwaiting : s.publisher = .waiting := ha
    unfold System.signal
    rw [hwaiting]
    exact h
  | spurious => exact ha.elim
  | receive | lock | unlock | wait | resume | serve => exact h

/-- In a run whose signals are all raised while the publisher waits, and without
spurious wake-ups, each signal is answered by one pass. -/
theorem signals_answered {loop : LoopState K} {actions : List SystemAct}
    (hrun : run (System.next host config services) (.initial loop) actions = some s)
    (hanswered : EachStep (System.next host config services) Answered (.initial loop) actions) :
    s.EachAnswered := by
  have hcounted : s.Counted := system_counted hrun
  have hfaithful : s.Faithful := run_induction_of (P := System.Faithful) ⟨rfl, rfl⟩
    (fun _ _ _ hs hcond hnext => hs.step hcond (System.step_of_next hnext)) hrun hanswered
  obtain ⟨hlost, hspurious⟩ := hfaithful
  have heq : s.signals = s.passes.length + s.publisher.pending := by
    simpa [System.Counted, hlost, hspurious] using hcounted
  refine ⟨heq ▸ Nat.le_add_right _ _, fun hwaiting => ?_⟩
  rw [heq, hwaiting]
  rfl

end

-- ---------------------------------------------------------------------------
-- A signal before the first wait
-- ---------------------------------------------------------------------------

def pairReceived : List SystemAct :=
  [.receive rowlessAir, .receive rowlessSky, .lock, .signal, .unlock]

def calmSystem (services : List ServiceInfo) : System ℚ → SystemAct → Option (System ℚ) :=
  System.next calmHost quietConfig services

def calmStart : System ℚ := .initial (.initial (utc 0) .zero none)

theorem startup_loses :
    (∃ s, run (calmSystem []) calmStart (pairReceived ++ [.wait]) = some s ∧ ¬ s.EachAnswered) ∧
    (∃ s, run (calmSystem []) calmStart [.wait, .spurious, .resume] = some s ∧
      ¬ s.EachAnswered) ∧
    ∃ s, run (calmSystem []) calmStart
      ([.wait] ++ pairReceived ++ pairReceived ++ [.resume, .wait]) = some s ∧
      ¬ s.EachAnswered := by
  refine ⟨⟨_, rfl, fun h => ?_⟩, ⟨_, rfl, fun h => ?_⟩, ⟨_, rfl, fun h => ?_⟩⟩
  · cases h.eq rfl
  · cases h.le
  · cases h.eq rfl

theorem pairs_answered : ∃ s, run (calmSystem []) calmStart
    ([.wait] ++ pairReceived ++ [.resume, .wait] ++ pairReceived ++ [.resume]) = some s ∧
    s.EachAnswered := by
  have answered (s) (hrun : run (calmSystem []) calmStart
      ([.wait] ++ pairReceived ++ [.resume, .wait] ++ pairReceived ++ [.resume]) = some s) :
      s.EachAnswered := signals_answered hrun (by decide +kernel)
  exact ⟨_, rfl, answered _ rfl⟩

end WfPublisher
