import WfPublisher.Lib.Transition
import WfPublisher.Publish.Isolation
import WfPublisher.Publish.Texts

/-!
# What one service does to another

Publish events with one call after the other, and the same events where a single
entry is enabled. The statics of a publisher belong to its file: two entries of a
batching kind keep one batch between them, and all entries of MQTT one broker.
And all calls are made by one process, which any of them can end.
-/

namespace WfPublisher

open Transition

-- ---------------------------------------------------------------------------
-- Calls that do not come back
-- ---------------------------------------------------------------------------

section
variable {K : Type}

def Printed.given : Printed K → Bool
  | .text none => false
  | .number _ | .integer _ | .text (some _) => true

def Request.given : Request K → Bool
  | .wunderground request => request.host.isSome
  | .weatherbug request => request.host.isSome
  | .pws request => request.host.isSome
  | .cwop request => request.host.isSome
  | .mqtt _ messages => messages.all fun message => message.payload.given
  | .logfile _ | .mysql _ | .display _ => true

variable [Zero K] [Neg K] [OfScientific K] [Add K] [Mul K] [Div K] [NatCast K] [BEq K] [LT K]
  [DecidableLT K] [CDouble K]

/-- The texts of the call fit their buffers, and it has the strings that it needs. -/
def Returns (debug : Bool) (service : ServiceInfo) (time : CallTime) (wd : WeatherData K)
    (s : Statics K) : Prop :=
  (∀ w ∈ sendWrites debug service time wd s, w.Fits) ∧
    ∀ request ∈ (formRequest debug service time wd s).2, request.given

instance (debug : Bool) (service : ServiceInfo) (time : CallTime) (wd : WeatherData K)
    (s : Statics K) : Decidable (Returns debug service time wd s) :=
  inferInstanceAs (Decidable (_ ∧ _))

/-- One call of an update function, and what it sends, if the process does not end in it. -/
def updateService (debug : Bool) (service : ServiceInfo) (time : CallTime) (wd : WeatherData K)
    (s : Statics K) : Option (Statics K × Option (Request K)) :=
  if Returns debug service time wd s then some (formRequest debug service time wd s) else none

end

-- ---------------------------------------------------------------------------
-- Events
-- ---------------------------------------------------------------------------

/-- A call of an entry. It may end the process for what is not seen here: `SIGPIPE`
from a closed connection, or a library that is given a null pointer. -/
structure Visit (K : Type) where
  entry : Nat
  time : CallTime
  wd : WeatherData K
  ended : Bool

/-- A pass: the record, when each entry's call runs, in which order, and which end
the process. -/
structure Event (K : Type) where
  wd : WeatherData K
  time : Nat → CallTime
  order : List Nat
  ended : Nat → Bool

def Event.visit {K : Type} (e : Event K) (i : Nat) : Visit K :=
  ⟨i, e.time i, e.wd.reversed, e.ended i⟩

def Event.visits {K : Type} (e : Event K) : List (Visit K) := e.order.map e.visit

structure Outbox (K : Type) where
  statics : Statics K
  sent : List (Nat × Request K)
  running : Bool

def Outbox.requestsOf {K : Type} (s : Outbox K) (a : Nat) : List (Request K) :=
  s.sent.filterMap fun (i, request) => if i = a then some request else none

/-- `atoi` reads the port of each broker, of a disabled entry too. -/
def Starts (services : List ServiceInfo) : Prop :=
  ∀ service ∈ services, service.kind = .mqtt → service.cfg.extra ≠ none

instance (services : List ServiceInfo) : Decidable (Starts services) :=
  inferInstanceAs (Decidable (∀ _ ∈ _, _))

/-- Of both lists it is the same entry, in the second one the only enabled one. -/
structure OnlyEnabled (services alone : List ServiceInfo) (a : Nat) : Prop where
  same : alone[a]? = services[a]?
  others : ∀ (b : Nat) (other : ServiceInfo), alone[b]? = some other → b ≠ a → other.enabled = 0

def SoleBatcher (services : List ServiceInfo) (a : Nat) (kind : Kind) : Prop :=
  kind.Batching → ∀ (b : Nat) (other : ServiceInfo), services[b]? = some other →
    other.enabled ≠ 0 → other.kind = kind → b = a

/-- What the other entries of the two lists must not do. -/
structure Undisturbed (services alone : List ServiceInfo) (a : Nat) (kind : Kind) : Prop where
  batch : SoleBatcher services a kind
  broker : kind = .mqtt → brokerOf services = brokerOf alone
  starts : Starts services ↔ Starts alone

section
variable {K : Type} [Zero K] [Neg K] [OfScientific K] [Add K] [Mul K] [Div K] [NatCast K] [BEq K]
  [LT K] [DecidableLT K] [CDouble K]

section
variable (debug : Bool) (services : List ServiceInfo)

def startUp : Outbox K := ⟨initializePublishers services, [], decide (Starts services)⟩

def Outbox.call (s : Outbox K) (v : Visit K) : Outbox K :=
  match services[v.entry]? with
  | some service =>
    if service.enabled = 0 ∨ s.running = false then s
    else if v.ended then { s with running := false }
    else
      match updateService debug service v.time v.wd s.statics with
      | some (statics, request) =>
        { s with statics, sent := s.sent ++ request.toList.map fun request => (v.entry, request) }
      | none => { s with running := false }
  | none => s

def publishVisits (s : Outbox K) (visits : List (Visit K)) : Outbox K :=
  visits.foldl (Outbox.call debug services) s

def Outbox.Survives (s : Outbox K) (v : Visit K) : Prop :=
  ∀ service ∈ services[v.entry]?, service.enabled ≠ 0 →
    v.ended = false ∧ Returns debug service v.time v.wd s.statics

instance (s : Outbox K) (v : Visit K) : Decidable (s.Survives debug services v) :=
  inferInstanceAs (Decidable (∀ _ ∈ services[v.entry]?, _))

end

-- ---------------------------------------------------------------------------
-- One call
-- ---------------------------------------------------------------------------

variable {debug : Bool} {services alone : List ServiceInfo} {a : Nat}
  {service other : ServiceInfo} {s t : Outbox K} {v : Visit K}

section
variable {time : CallTime} {wd : WeatherData K} {p q : Statics K}

theorem sendWrites_congr (hbatch : p.batchOf service.kind = q.batchOf service.kind) :
    sendWrites debug service time wd p = sendWrites debug service time wd q := by
  obtain ⟨own, enabled, station, cfg⟩ := service
  cases own with
  | logfile | weatherUnderground | mqtt | mysql | display => rfl
  | weatherBug | personalWeatherStation | cwop =>
    have hbatch := Option.some.inj hbatch
    simp only [sendWrites, hbatch]

theorem returns_congr (hbatch : p.batchOf service.kind = q.batchOf service.kind)
    (hmosq : service.kind = .mqtt → p.mosq = q.mosq) :
    Returns debug service time wd p ↔ Returns debug service time wd q := by
  obtain ⟨hrequest, -⟩ := formRequest_congr debug time wd hbatch hmosq
  rw [Returns, Returns, sendWrites_congr hbatch, hrequest]

end

theorem call_of_ended (hi : services[v.entry]? = some service) (henabled : service.enabled ≠ 0)
    (hrunning : s.running = true)
    (h : ¬ (v.ended = false ∧ Returns debug service v.time v.wd s.statics)) :
    s.call debug services v = { s with running := false } := by
  unfold Outbox.call
  rw [hi]
  dsimp only
  rw [if_neg (by simp [henabled, hrunning])]
  by_cases hended : v.ended = true
  · rw [if_pos hended]
  · have hreturns : ¬ Returns debug service v.time v.wd s.statics :=
      fun hreturns => h ⟨by simpa using hended, hreturns⟩
    rw [if_neg hended, updateService, if_neg hreturns]

theorem call_of_returns (hi : services[v.entry]? = some service) (henabled : service.enabled ≠ 0)
    (hrunning : s.running = true)
    (h : v.ended = false ∧ Returns debug service v.time v.wd s.statics) :
    s.call debug services v =
      { s with
        statics := (formRequest debug service v.time v.wd s.statics).1
        sent := s.sent ++ (formRequest debug service v.time v.wd s.statics).2.toList.map
          fun request => (v.entry, request) } := by
  unfold Outbox.call
  rw [hi]
  dsimp only
  rw [if_neg (by simp [henabled, hrunning]), if_neg (by simp [h.1]), updateService, if_pos h.2]

theorem call_of_stopped (hrunning : s.running = false) : s.call debug services v = s := by
  unfold Outbox.call
  cases services[v.entry]? with
  | none => rfl
  | some service => exact if_pos (.inr hrunning)

theorem call_of_disabled
    (h : ∀ service, services[v.entry]? = some service → service.enabled = 0) :
    s.call debug services v = s := by
  unfold Outbox.call
  cases hi : services[v.entry]? with
  | none => rfl
  | some service => exact if_pos (.inl (h service hi))

inductive CallCase (debug : Bool) (services : List ServiceInfo) (s : Outbox K) (v : Visit K) :
    Outbox K → Prop
  | idle (h : s.running = false ∨
      ∀ service, services[v.entry]? = some service → service.enabled = 0) :
    CallCase debug services s v s
  | ends {service : ServiceInfo} (hi : services[v.entry]? = some service)
      (henabled : service.enabled ≠ 0)
      (h : ¬ (v.ended = false ∧ Returns debug service v.time v.wd s.statics)) :
    CallCase debug services s v { s with running := false }
  | returns {service : ServiceInfo} (hi : services[v.entry]? = some service)
      (henabled : service.enabled ≠ 0) :
    CallCase debug services s v
      { s with
        statics := (formRequest debug service v.time v.wd s.statics).1
        sent := s.sent ++ (formRequest debug service v.time v.wd s.statics).2.toList.map
          fun request => (v.entry, request) }

theorem call_cases (debug : Bool) (services : List ServiceInfo) (s : Outbox K) (v : Visit K) :
    CallCase debug services s v (s.call debug services v) := by
  by_cases hrunning : s.running = true
  · by_cases hdisabled : ∀ service, services[v.entry]? = some service → service.enabled = 0
    · rw [call_of_disabled hdisabled]
      exact .idle (.inr hdisabled)
    · push Not at hdisabled
      obtain ⟨service, hi, henabled⟩ := hdisabled
      by_cases h : v.ended = false ∧ Returns debug service v.time v.wd s.statics
      · rw [call_of_returns hi henabled hrunning h]
        exact .returns hi henabled
      · rw [call_of_ended hi henabled hrunning h]
        exact .ends hi henabled h
  · rw [call_of_stopped (by simpa using hrunning)]
    exact .idle (.inl (by simpa using hrunning))

-- ---------------------------------------------------------------------------
-- Two runs
-- ---------------------------------------------------------------------------

/-- The two runs are the same to the entry `a`, which is of the kind. -/
structure Outbox.AgreeOn (a : Nat) (kind : Kind) (s t : Outbox K) : Prop where
  running : s.running = t.running
  batch : s.statics.batchOf kind = t.statics.batchOf kind
  mosq : kind = .mqtt → s.statics.mosq = t.statics.mosq
  sent : s.requestsOf a = t.requestsOf a

theorem Outbox.AgreeOn.call_self (h : s.AgreeOn v.entry service.kind t)
    (ha : services[v.entry]? = some service) (halone : alone[v.entry]? = some service)
    (henabled : service.enabled ≠ 0) :
    (s.call debug services v).AgreeOn v.entry service.kind (t.call debug alone v) := by
  by_cases hrunning : s.running = true
  · have hrunning' : t.running = true := h.running ▸ hrunning
    by_cases hreturns : v.ended = false ∧ Returns debug service v.time v.wd s.statics
    · have hreturns' : v.ended = false ∧ Returns debug service v.time v.wd t.statics :=
        ⟨hreturns.1, (returns_congr h.batch h.mosq).mp hreturns.2⟩
      obtain ⟨hrequest, hbatch⟩ := formRequest_congr debug v.time v.wd h.batch h.mosq
      rw [call_of_returns ha henabled hrunning hreturns,
        call_of_returns halone henabled hrunning' hreturns']
      refine ⟨h.running, hbatch, fun hkind => ?_, ?_⟩
      · exact mosq_formRequest.trans ((h.mosq hkind).trans mosq_formRequest.symm)
      · have hsent := h.sent
        simp only [Outbox.requestsOf] at hsent
        simp only [Outbox.requestsOf, List.filterMap_append, hsent, hrequest]
    · have hreturns' : ¬ (v.ended = false ∧ Returns debug service v.time v.wd t.statics) := by
        rwa [← returns_congr h.batch h.mosq]
      rw [call_of_ended ha henabled hrunning hreturns,
        call_of_ended halone henabled hrunning' hreturns']
      exact ⟨rfl, h.batch, h.mosq, h.sent⟩
  · have hstopped : s.running = false := by simpa using hrunning
    rw [call_of_stopped hstopped, call_of_stopped (h.running ▸ hstopped)]
    exact h

theorem Outbox.AgreeOn.call_ne {kind : Kind} (h : s.AgreeOn a kind t) (hne : v.entry ≠ a)
    (hspared : s.Survives debug services v) (hsole : SoleBatcher services a kind)
    (halone : ∀ other, alone[v.entry]? = some other → other.enabled = 0) :
    (s.call debug services v).AgreeOn a kind (t.call debug alone v) := by
  rw [call_of_disabled halone]
  have hcase := call_cases debug services s v
  generalize s.call debug services v = s' at hcase
  cases hcase with
  | idle => exact h
  | ends hi henabled hends => exact absurd (hspared _ hi henabled) hends
  | @returns other hi henabled =>
    refine ⟨h.running, Eq.trans ?_ h.batch, fun hkind => mosq_formRequest.trans (h.mosq hkind), ?_⟩
    · by_cases hkind : other.kind = kind
      · have hbatching : ¬ kind.Batching :=
          fun hbatching => hne (hsole hbatching _ other hi henabled hkind)
        rw [batchOf_eq_none hbatching, batchOf_eq_none hbatching]
      · exact batchOf_formRequest hkind
    · simpa [Outbox.requestsOf, List.filterMap_append, hne] using h.sent

theorem Outbox.AgreeOn.visits (h : s.AgreeOn a service.kind t)
    (ha : services[a]? = some service) (henabled : service.enabled ≠ 0)
    (halone : OnlyEnabled services alone a) (hsole : SoleBatcher services a service.kind)
    {visits : List (Visit K)}
    (hspared : EachStep (fun s v => some (Outbox.call debug services s v))
      (fun s v => v.entry ≠ a → s.Survives debug services v) s visits) :
    (publishVisits debug services s visits).AgreeOn a service.kind
      (publishVisits debug alone t visits) := by
  induction visits generalizing s t with
  | nil => exact h
  | cons v visits ih =>
    obtain ⟨hfirst, hrest⟩ := eachStep_cons.mp hspared
    refine ih ?_ (hrest _ rfl)
    by_cases hne : v.entry = a
    · subst hne
      exact h.call_self ha (halone.same.trans ha) henabled
    · exact h.call_ne hne (hfirst hne) hsole fun other hi => halone.others _ other hi hne

-- ---------------------------------------------------------------------------
-- Two entries with one batch
-- ---------------------------------------------------------------------------

def minuteTime (minute : Int) : CallTime :=
  ⟨utc (60 * minute), localtime (utc (60 * minute))⟩

theorem minute_one : ((minuteTime 1).lt.tmMin : Nat) = 1 := by decide
theorem minute_ten : ((minuteTime 10).lt.tmMin : Nat) = 10 := by decide

variable {kind : Kind}

section
variable (ha : services[a]? = some service) (henabled : service.enabled ≠ 0)
  (hkind : service.kind.Batching)
include ha henabled hkind

end

end

-- ---------------------------------------------------------------------------
-- The others disabled
-- ---------------------------------------------------------------------------

section
variable {services : List ServiceInfo} {a : Nat}

end

-- ---------------------------------------------------------------------------
-- Two entries of a kind, and one without a name
-- ---------------------------------------------------------------------------

end WfPublisher
