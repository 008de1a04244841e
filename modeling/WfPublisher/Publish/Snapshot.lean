import WfPublisher.Publish.Isolation
import WfPublisher.Publish.Wakeup

/-!
# The snapshot of a pass

The receive loop stores into `wd` without the mutex, so what a service is given
is the record at the moment of its own copy. It is the record at the signal as
long as no datagram comes in between.
-/

namespace WfPublisher

open Transition

section
variable {K : Type}

/-- The services of a pass are given the record as it was at the signal for it. -/
def System.OneSnapshot (s : System K) : Prop :=
  ∀ pass ∈ s.passes, ∀ copy ∈ pass.copies,
    ∃ wd, pass.cause = some wd ∧ copy.2 = wd.reversed

def Publisher.remaining (services : List ServiceInfo) : Publisher K → List ServiceInfo
  | .waking _ => services
  | .serving rest => rest
  | .starting | .waiting => []

def Served (services : List ServiceInfo) : Prop := ∀ service ∈ services, service.enabled = 0

instance (services : List ServiceInfo) : Decidable (Served services) :=
  inferInstanceAs (Decidable (∀ service ∈ services, service.enabled = 0))

section
variable [Field K] [LinearOrder K] [FloorRing K]

/-- The datagram writes to the record, or the first round of a day does. -/
def Stores (host : Host K) (s : System K) (a : Arrival) : Prop :=
  (a.observations : List (Observation K)) ≠ [] ∨
    (localtime (host.zone a.time)).tmMday ≠ s.loop.start.tmMday

instance (host : Host K) (s : System K) (a : Arrival) : Decidable (Stores host s a) :=
  inferInstanceAs (Decidable (_ ∨ _))

/-- Datagrams that are stored come in when nobody is left to be served, and no wake-up is
spurious. -/
def Undelayed (host : Host K) (services : List ServiceInfo) (s : System K) : SystemAct → Prop
  | .receive a => Served (s.publisher.remaining services) ∨ ¬ Stores host s a
  | .spurious => Served services
  | _ => True

instance (host : Host K) (services : List ServiceInfo) :
    ∀ (s : System K) (a : SystemAct), Decidable (Undelayed host services s a)
  | _, .receive _ => inferInstanceAs (Decidable (_ ∨ _))
  | _, .spurious => inferInstanceAs (Decidable (Served services))
  | _, .lock | _, .signal | _, .unlock | _, .wait | _, .resume | _, .serve =>
    inferInstanceAs (Decidable True)

end

def System.Unchanged (services : List ServiceInfo) (s : System K) : Prop :=
  match s.publisher with
  | .waking cause => cause = some s.loop.globals.wd ∨ Served services
  | .serving rest =>
    (∃ pass ∈ s.passes.head?, pass.cause = some s.loop.globals.wd) ∨ Served rest
  | .starting | .waiting => True

theorem System.unchanged_of_served {services : List ServiceInfo} {s : System K}
    (h : Served (s.publisher.remaining services)) : s.Unchanged services := by
  unfold System.Unchanged
  cases hpublisher : s.publisher with
  | starting | waiting => trivial
  | waking cause => exact .inr (by simpa only [hpublisher, Publisher.remaining] using h)
  | serving rest => exact .inr (by simpa only [hpublisher, Publisher.remaining] using h)

variable [Field K] [LinearOrder K] [FloorRing K] {host : Host K} {config : Config K}
  {services : List ServiceInfo} {s t : System K} {a : SystemAct}

omit [Field K] [LinearOrder K] [FloorRing K] in
theorem System.oneSnapshot_initial (loop : LoopState K) : (System.initial loop).OneSnapshot := by
  intro pass hpass
  cases hpass

theorem System.OneSnapshot.step (h : s.OneSnapshot) (hunchanged : s.Unchanged services)
    (hstep : s.Step host config services a t) : t.OneSnapshot := by
  cases hstep with
  | receive | lock | unlock | wait | spurious => exact h
  | signal =>
    by_cases hwaiting : s.publisher = .waiting
    · rw [System.signal_of_waiting hwaiting]
      exact h
    · rw [System.signal_of_ne hwaiting]
      exact h
  | resume =>
    refine List.forall_mem_cons.mpr ⟨fun copy hcopy => ?_, h⟩
    cases hcopy
  | @serve service rest hpublisher =>
    by_cases henabled : service.enabled = 0
    · simpa only [System.OneSnapshot, System.serve, if_pos henabled] using h
    · simp only [System.Unchanged, hpublisher] at hunchanged
      obtain ⟨pass, hpass, hcause⟩ | hserved := hunchanged
      · obtain ⟨older, hpasses⟩ : ∃ older, s.passes = pass :: older :=
          List.head?_eq_some_iff.mp hpass
        rw [System.OneSnapshot, hpasses, List.forall_mem_cons] at h
        simp only [System.OneSnapshot, System.serve, if_neg henabled, hpasses,
          List.modifyHead_cons]
        refine List.forall_mem_cons.mpr ⟨List.forall_mem_append.mpr ⟨h.1, ?_⟩, h.2⟩
        exact List.forall_mem_singleton.mpr ⟨s.loop.globals.wd, hcause, rfl⟩
      · exact absurd (hserved service (List.mem_cons_self ..)) henabled

omit [LinearOrder K] [FloorRing K] in
theorem checkDay_of_same {time : Int} {loop : LoopState K}
    (h : (localtime (host.zone time)).tmMday = loop.start.tmMday) :
    checkDay host time loop = loop :=
  if_neg (not_not_intro h)

theorem globals_of_not_stores {arrival : Arrival} {loop : LoopState K} {signal : Bool}
    (h : ¬ Stores host s arrival)
    (hbody : loopBody host config arrival s.loop = .ok (loop, signal)) :
    loop.globals = s.loop.globals := by
  obtain ⟨hnothing, hday⟩ := not_or.mp h
  rw [(loopBody_round hbody).globals, not_not.mp hnothing, checkDay_of_same (not_not.mp hday)]
  rfl

theorem System.Unchanged.step (h : s.Unchanged services) (hundelayed : Undelayed host services s a)
    (hstep : s.Step host config services a t) : t.Unchanged services := by
  cases hstep with
  | receive _ hbody =>
    obtain hserved | hstores := hundelayed
    · exact System.unchanged_of_served hserved
    · have hglobals := globals_of_not_stores hstores hbody
      unfold System.Unchanged at h ⊢
      simpa only [hglobals] using h
  | lock | unlock => exact h
  | signal =>
    by_cases hwaiting : s.publisher = .waiting
    · rw [System.signal_of_waiting hwaiting]
      exact .inl rfl
    · rw [System.signal_of_ne hwaiting]
      exact h
  | wait => trivial
  | spurious => exact .inr hundelayed
  | resume hpublisher =>
    simp only [System.Unchanged, hpublisher] at h
    obtain rfl | hserved := h
    · exact .inl ⟨_, rfl, rfl⟩
    · exact .inr hserved
  | @serve service rest hpublisher =>
    simp only [System.Unchanged, hpublisher] at h
    obtain ⟨pass, hpass, hcause⟩ | hserved := h
    · obtain ⟨older, hpasses⟩ : ∃ older, s.passes = pass :: older :=
        List.head?_eq_some_iff.mp hpass
      refine .inl ?_
      by_cases henabled : service.enabled = 0
      · exact ⟨pass, by simp [System.serve, henabled, hpasses], hcause⟩
      · exact ⟨{ pass with copies := pass.copies ++ [(service, s.loop.globals.wd.reversed)] },
          by simp [System.serve, henabled, hpasses], hcause⟩
    · exact .inr fun service hmem => hserved service (List.mem_cons_of_mem _ hmem)

/-- In a run where nothing is stored between a signal and the last copy of its pass, and
without spurious wake-ups, each pass serves the record of its signal. -/
theorem passes_oneSnapshot {loop : LoopState K} {actions : List SystemAct}
    (hrun : run (System.next host config services) (.initial loop) actions = some s)
    (hundelayed : EachStep (System.next host config services) (Undelayed host services)
      (.initial loop) actions) : s.OneSnapshot := by
  refine (run_induction_of (P := fun s => System.OneSnapshot s ∧ s.Unchanged services)
    ⟨System.oneSnapshot_initial loop, trivial⟩ (fun s a t hs hcond hnext => ?_) hrun hundelayed).1
  have hstep := System.step_of_next hnext
  exact ⟨hs.1.step hs.2 hstep, hs.2.step hcond hstep⟩

omit [Field K] [LinearOrder K] [FloorRing K] in
theorem System.OneSnapshot.temperature {s : System K} (h : s.OneSnapshot) :
    ∀ pass ∈ s.passes, ∀ copy ∈ pass.copies,
      pass.cause.map WeatherData.temperature = some copy.2.temperature := by
  intro pass hpass copy hcopy
  obtain ⟨wd, hcause, hvalue⟩ := h pass hpass copy hcopy
  rw [hcause, hvalue]
  rfl

end

-- ---------------------------------------------------------------------------
-- A datagram between two copies
-- ---------------------------------------------------------------------------

def twoServices : List ServiceInfo := [plainService .mqtt, plainService .display]

theorem lateDatagram_differs :
    (∃ s, run (calmSystem twoServices) calmStart
      ([.wait] ++ pairReceived ++ [.receive (airRows 0), .resume, .serve]) = some s ∧
      ¬ s.OneSnapshot) ∧
    ∃ s, run (calmSystem twoServices) calmStart
      ([.wait] ++ pairReceived ++ [.resume, .serve, .receive (airRows 0), .serve]) = some s ∧
      ¬ s.OneSnapshot := by
  refine ⟨⟨_, rfl, fun h => ?_⟩, ⟨_, rfl, fun h => ?_⟩⟩
  · exact absurd h.temperature (by decide +kernel)
  · exact absurd h.temperature (by decide +kernel)

def hubStatus : Arrival := ⟨0, "\x7b\"type\":\"hub_status\",\"uptime\":9\x7d".toList, by simp⟩

theorem pairPass_oneSnapshot : ∃ s, run (calmSystem twoServices) calmStart
    ([.wait] ++ pairReceived ++ [.resume, .serve, .receive hubStatus, .serve,
      .receive (airRows 0)]) = some s ∧ s.OneSnapshot := by
  have oneSnapshot (s) (hrun : run (calmSystem twoServices) calmStart
      ([.wait] ++ pairReceived ++ [.resume, .serve, .receive hubStatus, .serve,
        .receive (airRows 0)]) = some s) :
      s.OneSnapshot := passes_oneSnapshot hrun (by decide +kernel)
  exact ⟨_, rfl, oneSnapshot _ rfl⟩

end WfPublisher
