import WfPublisher.Hostile

/-!
# The receive loop

The body of the loop in `main`, once per datagram. It is run over the datagrams
that arrive; a null pointer stops the program, and the run with it. The numbers
are those of a field with an order: they are read, added and compared exactly.
-/

namespace WfPublisher

open Fallible

/-- A `read` that returned: the clock behind it and the bytes it put into `line`. -/
structure Arrival where
  time : Int
  line : CString
  received : line ≠ [] ∧ line.length ≤ 1024

/-- The bytes up to the first NUL, which is written behind the last one. -/
def Arrival.text (a : Arrival) : CString := a.line.takeWhile (· ≠ Char.ofNat 0)

structure LoopState (K : Type) where
  globals : Globals K
  start : Tm
  st : Nat

section
variable {K : Type} [Field K] [LinearOrder K] [FloorRing K]

def LoopState.initial (t : LocalTime) (totals : RainTotals K) (rainfallJson : Option (CJson K)) :
    LoopState K where
  globals := .initial totals rainfallJson
  start := localtime t
  st := 0

variable (host : Host K) (config : Config K)

def checkDay (time : Int) (s : LoopState K) : LoopState K :=
  let now := localtime (host.zone time)
  if now.tmMday ≠ s.start.tmMday then
    { s with
      globals := { s.globals with
        wd := { s.globals.wd with temperatureHigh := -100.0, temperatureLow := 150.0 } }
      start := now }
  else s

/-- What follows `wf_message_parse`: the message's flag is raised, and both are a signal
to the publisher. -/
def LoopState.raise {K : Type} (s : LoopState K) (ret : Nat) (globals : Globals K) :
    LoopState K × Bool :=
  let st := s.st ||| ret
  if st = airData ||| skyData then ({ s with globals, st := 0 }, true)
  else ({ s with globals, st }, false)

/-- One round of the loop with `text` in `line`. -/
def roundOn (time : Int) (text : CString) (s : LoopState K) :
    Except Fault (LoopState K × Bool) := do
  let s := checkDay host time s
  let (ret, globals) ← wfMessageParse host config time text s.globals
  return s.raise ret globals

def loopBody (a : Arrival) (s : LoopState K) : Except Fault (LoopState K × Bool) :=
  roundOn host config a.time a.text s

def loop (s : LoopState K) (arrivals : List Arrival) : Except Fault (LoopState K) :=
  arrivals.foldlM (fun s a => do
    let (s, _) ← loopBody host config a s
    return s) s

-- ---------------------------------------------------------------------------
-- One round
-- ---------------------------------------------------------------------------

variable (K) in
def Arrival.message (a : Arrival) : Message K := WfPublisher.message a.text

def Arrival.observations (a : Arrival) : List (Observation K) :=
  (a.message K).observations.getD []

inductive Shape : Nat → List (Observation K) → Prop
  | air (rows : List (AirObs K)) : Shape airData (rows.map .air)
  | sky (rows : List (SkyObs K)) : Shape skyData (rows.map .sky)
  | wind (o : WindObs K) : Shape 0 [.wind o]
  | tower (sensorId : CString) (rows : List (TowerObs K)) :
      Shape 0 (.sensor sensorId :: rows.map (.tower sensorId))
  | nothing : Shape 0 []

theorem Arrival.shape (a : Arrival) :
    Shape (a.message K).flag (a.observations : List (Observation K)) := by
  unfold Arrival.observations
  cases a.message K with
  | air serialNumber obs =>
    cases h : (items obs).mapM AirObs.read with
    | none => simpa [Message.flag, Message.observations, h] using Shape.air []
    | some rows => simpa [Message.flag, Message.observations, h] using Shape.air rows
  | sky serialNumber obs =>
    cases h : (items obs).mapM SkyObs.read with
    | none => simpa [Message.flag, Message.observations, h] using Shape.sky []
    | some rows => simpa [Message.flag, Message.observations, h] using Shape.sky rows
  | wind ob =>
    cases h : WindObs.read ob with
    | none => simpa [Message.flag, Message.observations, h] using Shape.nothing
    | some o => simpa [Message.flag, Message.observations, h] using Shape.wind o
  | tower serialNumber obs =>
    cases h : serialNumber.bind CJson.valuestring with
    | none => simpa [Message.flag, Message.observations, h] using Shape.nothing
    | some sensorId =>
      cases hrows : (items obs).mapM TowerObs.read with
      | none => simpa [Message.flag, Message.observations, h, hrows] using Shape.nothing
      | some rows =>
        simpa [Message.flag, Message.observations, h, hrows] using Shape.tower sensorId rows
  | ignored => exact .nothing
  | unnamed => exact .nothing

variable {host config} {a : Arrival} {s s' : LoopState K} {signal : Bool}

/-- What a round does: the extremes may be reset, the observations are stored,
the flag of the message is raised, and both flags together are a signal. -/
structure Round (host : Host K) (config : Config K) (a : Arrival) (s s' : LoopState K)
    (signal : Bool) : Prop where
  globals : s'.globals =
    a.observations.foldl (Globals.store host config a.time) (checkDay host a.time s).globals
  start : s'.start = (checkDay host a.time s).start
  signal_iff : signal = true ↔ (s.st ||| (a.message K).flag) = airData ||| skyData
  st : s'.st = if signal then 0 else s.st ||| (a.message K).flag

omit [LinearOrder K] [FloorRing K] in
theorem checkDay_st (time : Int) : (checkDay host time s).st = s.st := by
  unfold checkDay
  dsimp only
  split <;> rfl

theorem loopBody_round (h : loopBody host config a s = .ok (s', signal)) :
    Round host config a s s' signal := by
  simp only [loopBody, roundOn, LoopState.raise, bind_ok, Prod.exists, wfMessageParse_ok,
    checkDay_st, pure_eq_ok, Except.ok.injEq] at h
  obtain ⟨_, _, ⟨_, rfl, os, hos, rfl⟩, h⟩ := h
  have hobservations : a.observations = os := by
    rw [Arrival.observations, Arrival.message, hos, Option.getD_some]
  rw [← hobservations] at h
  split at h
  · rename_i hst
    cases h
    exact ⟨rfl, rfl, iff_of_true rfl hst, rfl⟩
  · rename_i hst
    cases h
    exact ⟨rfl, rfl, iff_of_false nofun hst, rfl⟩

theorem loopBody_admitted (h : loopBody host config a s = .ok (s', signal)) :
    (a.message K).Admitted host config a.time (checkDay host a.time s).globals := by
  simp only [loopBody, roundOn, bind_ok, Prod.exists, wfMessageParse_ok] at h
  obtain ⟨_, _, ⟨hadmitted, -⟩, -⟩ := h
  exact hadmitted

theorem exists_loopBody (host : Host K) (ha : (a.message K).Tame host config a.time)
    (s : LoopState K) :
    ∃ s' signal, loopBody host config a s = .ok (s', signal) := by
  obtain ⟨hadmitted, os, hos, -⟩ := ha.stores host config a.time (checkDay host a.time s).globals
  have hparse := (wfMessageParse_ok host config a.time).mpr ⟨hadmitted, rfl, os, hos, rfl⟩
  simp only [loopBody, roundOn, hparse, ok_bind]
  exact ⟨_, _, rfl⟩

-- ---------------------------------------------------------------------------
-- A whole run
-- ---------------------------------------------------------------------------

theorem loop_concat {past : List Arrival} : loop host config s (past ++ [a]) = .ok s' ↔
    ∃ m signal, loop host config s past = .ok m ∧ loopBody host config a m = .ok (s', signal) := by
  unfold loop
  rw [foldlM_concat_ok]
  simp only [bind_ok, Prod.exists, pure_eq_ok, Except.ok.injEq]
  constructor
  · rintro ⟨m, hm, _, signal, hbody, rfl⟩
    exact ⟨m, signal, hm, hbody⟩
  · rintro ⟨m, signal, hm, hbody⟩
    exact ⟨m, hm, _, signal, hbody, rfl⟩

theorem exists_loop (host : Host K) {arrivals : List Arrival}
    (h : ∀ a ∈ arrivals, (a.message K).Tame host config a.time) (s : LoopState K) :
    ∃ s', loop host config s arrivals = .ok s' := by
  induction arrivals using List.reverseRecOn with
  | nil => exact ⟨s, rfl⟩
  | append_singleton past a ih =>
    obtain ⟨m, hm⟩ := ih fun b hb => h b (List.mem_append_left _ hb)
    obtain ⟨s', signal, hbody⟩ := exists_loopBody host (h a (by simp)) m
    exact ⟨s', loop_concat.mpr ⟨m, signal, hm, hbody⟩⟩

/-- What holds at the start and after every round of a run, holds after the run;
`P` may look at the datagrams so far. -/
theorem loop_induction {P : List Arrival → LoopState K → Prop} {init : LoopState K}
    (hinit : P [] init)
    (hround : ∀ past a m s' signal, P past m → Round host config a m s' signal →
      P (past ++ [a]) s')
    {arrivals : List Arrival} (h : loop host config init arrivals = .ok s) : P arrivals s := by
  induction arrivals using List.reverseRecOn generalizing s with
  | nil =>
    cases h
    exact hinit
  | append_singleton past a ih =>
    obtain ⟨m, signal, hm, hbody⟩ := loop_concat.mp h
    exact hround past a m s signal (ih hm) (loopBody_round hbody)

end

end WfPublisher
