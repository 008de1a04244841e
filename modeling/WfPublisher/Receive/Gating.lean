import WfPublisher.Receive

/-!
# When the publisher is signalled

A flag stands for a message type that has come since the last signal. The
signal is meant to stand for rows, and it does where the two messages that
complete a pair have some.
-/

namespace WfPublisher

open Fallible

section
variable {K : Type} [Field K] [LinearOrder K] [FloorRing K]

-- ---------------------------------------------------------------------------
-- Rows and flags
-- ---------------------------------------------------------------------------

variable (K)

def StoresAir (a : Arrival) : Prop := ∃ o : AirObs K, .air o ∈ a.observations
def StoresSky (a : Arrival) : Prop := ∃ o : SkyObs K, .sky o ∈ a.observations

def Seen (flag : Nat) (recent : List Arrival) : Prop := ∃ b ∈ recent, (b.message K).flag = flag

variable {K}

omit [Field K] [LinearOrder K] [FloorRing K] in
theorem Message.flag_cases (m : Message K) : m.flag = 0 ∨ m.flag = airData ∨ m.flag = skyData := by
  cases m with
  | air => exact .inr (.inl rfl)
  | sky => exact .inr (.inr rfl)
  | _ => exact .inl rfl

omit [Field K] [LinearOrder K] [FloorRing K] in
theorem Shape.flag_air {flag : Nat} {obs : List (Observation K)} (h : Shape flag obs)
    {o : AirObs K} (ho : .air o ∈ obs) : flag = airData := by
  cases h with
  | air rows => rfl
  | sky rows => simp at ho
  | wind o => simp at ho
  | tower sensorId rows => simp at ho
  | nothing => cases ho

omit [Field K] [LinearOrder K] [FloorRing K] in
theorem Shape.flag_sky {flag : Nat} {obs : List (Observation K)} (h : Shape flag obs)
    {o : SkyObs K} (ho : .sky o ∈ obs) : flag = skyData := by
  cases h with
  | air rows => simp at ho
  | sky rows => rfl
  | wind o => simp at ho
  | tower sensorId rows => simp at ho
  | nothing => cases ho

theorem StoresAir.flag {a : Arrival} (h : StoresAir K a) : (a.message K).flag = airData := by
  obtain ⟨o, ho⟩ := h
  exact a.shape.flag_air ho

theorem StoresSky.flag {a : Arrival} (h : StoresSky K a) : (a.message K).flag = skyData := by
  obtain ⟨o, ho⟩ := h
  exact a.shape.flag_sky ho

theorem seen_concat {flag : Nat} {recent : List Arrival} {a : Arrival} :
    Seen K flag (recent ++ [a]) ↔ Seen K flag recent ∨ (a.message K).flag = flag := by
  simp [Seen, or_and_right, exists_or]

/-- `st` is the flags of the messages since the last signal, never both of them. -/
structure FlagsAre (recent : List Arrival) (st : Nat) : Prop where
  lt : st < 3
  air : st = airData ↔ Seen K airData recent
  sky : st = skyData ↔ Seen K skyData recent

theorem FlagsAre.signal_iff {recent : List Arrival} {st : Nat} (h : FlagsAre (K := K) recent st)
    (m : Message K) : (st ||| m.flag) = airData ||| skyData ↔
      m.flag = airData ∧ Seen K skyData recent ∨ m.flag = skyData ∧ Seen K airData recent := by
  rw [← h.air, ← h.sky]
  have hst := h.lt
  interval_cases st <;> obtain hm | hm | hm := m.flag_cases <;> rw [hm] <;> decide

theorem FlagsAre.concat {recent : List Arrival} {st : Nat} (h : FlagsAre (K := K) recent st)
    {a : Arrival} (hsignal : (st ||| (a.message K).flag) ≠ airData ||| skyData) :
    FlagsAre (K := K) (recent ++ [a]) (st ||| (a.message K).flag) := by
  have hst := h.lt
  constructor
  all_goals
    try rw [seen_concat, ← h.air]
    try rw [seen_concat, ← h.sky]
    revert hsignal
    interval_cases st <;> obtain hm | hm | hm := (a.message K).flag_cases <;> rw [hm] <;> decide

-- ---------------------------------------------------------------------------
-- The datagrams since the last signal
-- ---------------------------------------------------------------------------

section
variable (host : Host K) (config : Config K)

/-- A run, with the datagrams since its last signal. -/
def watch (s : LoopState K) (arrivals : List Arrival) :
    Except Fault (LoopState K × List Arrival) :=
  arrivals.foldlM (fun (s, recent) a => do
    let (s, signal) ← loopBody host config a s
    return (s, if signal then [] else recent ++ [a])) (s, [])

end

variable {host : Host K} {config : Config K} {init s s' : LoopState K}
  {past recent : List Arrival} {a : Arrival} {signal : Bool}

theorem watch_concat : watch host config init (past ++ [a]) = .ok (s', recent) ↔
    ∃ m before signal, watch host config init past = .ok (m, before) ∧
      loopBody host config a m = .ok (s', signal) ∧
      recent = if signal then [] else before ++ [a] := by
  unfold watch
  rw [foldlM_concat_ok]
  simp only [bind_ok, Prod.exists, pure_eq_ok, Except.ok.injEq, Prod.mk.injEq]
  constructor
  · rintro ⟨m, before, hm, _, signal, hbody, rfl, rfl⟩
    exact ⟨m, before, signal, hm, hbody, rfl⟩
  · rintro ⟨m, before, signal, hm, hbody, rfl⟩
    exact ⟨m, before, hm, _, signal, hbody, rfl, rfl⟩

theorem exists_watch (h : loop host config init past = .ok s) :
    ∃ recent, watch host config init past = .ok (s, recent) ∧ recent ⊆ past := by
  induction past using List.reverseRecOn generalizing s with
  | nil =>
    cases h
    exact ⟨[], rfl, List.Subset.refl _⟩
  | append_singleton past a ih =>
    obtain ⟨m, signal, hm, hbody⟩ := loop_concat.mp h
    obtain ⟨before, hbefore, hsub⟩ := ih hm
    refine ⟨_, watch_concat.mpr ⟨m, before, signal, hbefore, hbody, rfl⟩, ?_⟩
    cases signal with
    | true => exact List.nil_subset _
    | false =>
      exact List.append_subset.mpr
        ⟨List.subset_append_of_subset_left _ hsub, List.subset_append_right _ _⟩

theorem watch_flags (hinit : init.st = 0) (h : watch host config init past = .ok (s, recent)) :
    FlagsAre (K := K) recent s.st := by
  induction past using List.reverseRecOn generalizing s recent with
  | nil =>
    cases h
    rw [hinit]
    exact ⟨by decide, by simp [Seen, airData], by simp [Seen, skyData]⟩
  | append_singleton past a ih =>
    obtain ⟨m, before, signal, hm, hbody, rfl⟩ := watch_concat.mp h
    have hround := loopBody_round hbody
    rw [hround.st]
    cases signal with
    | true => exact ⟨by simp, by simp [Seen, airData], by simp [Seen, skyData]⟩
    | false => exact (ih hm).concat fun h => absurd (hround.signal_iff.mpr h) nofun

theorem signal_iff_seen (hinit : init.st = 0)
    (hpast : watch host config init past = .ok (s, recent))
    (ha : loopBody host config a s = .ok (s', signal)) : signal = true ↔
      (a.message K).flag = airData ∧ Seen K skyData recent ∨
        (a.message K).flag = skyData ∧ Seen K airData recent :=
  (loopBody_round ha).signal_iff.trans ((watch_flags hinit hpast).signal_iff (a.message K))

-- ---------------------------------------------------------------------------
-- Fresh pairs
-- ---------------------------------------------------------------------------

/-- `a` stores the first row of a kind and the other kind's was already stored. -/
def FreshPair (K : Type) [Field K] [LinearOrder K] [FloorRing K] (recent : List Arrival)
    (a : Arrival) : Prop :=
  StoresAir K a ∧ (∃ b ∈ recent, StoresSky K b) ∧ (¬ ∃ b ∈ recent, StoresAir K b) ∨
    StoresSky K a ∧ (∃ b ∈ recent, StoresAir K b) ∧ (¬ ∃ b ∈ recent, StoresSky K b)

/-- Where `a` completes the pair of message types, it has rows, and so has a
message of the other type. -/
def PairHasRows (K : Type) [Field K] [LinearOrder K] [FloorRing K] (recent : List Arrival)
    (a : Arrival) : Prop :=
  ((a.message K).flag = airData → Seen K skyData recent →
    StoresAir K a ∧ ∃ b ∈ recent, StoresSky K b) ∧
  ((a.message K).flag = skyData → Seen K airData recent →
    StoresSky K a ∧ ∃ b ∈ recent, StoresAir K b)

variable (K) in
def CompletesPair (recent : List Arrival) (a : Arrival) : Prop :=
  (a.message K).flag = airData ∧ Seen K skyData recent ∨
    (a.message K).flag = skyData ∧ Seen K airData recent

theorem seen_air (h : ∃ b ∈ recent, StoresAir K b) : Seen K airData recent := by
  obtain ⟨b, hb, hstores⟩ := h
  exact ⟨b, hb, hstores.flag⟩

theorem seen_sky (h : ∃ b ∈ recent, StoresSky K b) : Seen K skyData recent := by
  obtain ⟨b, hb, hstores⟩ := h
  exact ⟨b, hb, hstores.flag⟩

theorem FreshPair.completes (h : FreshPair K recent a) : CompletesPair K recent a := by
  obtain ⟨hstores, hother, -⟩ | ⟨hstores, hother, -⟩ := h
  · exact .inl ⟨hstores.flag, seen_sky hother⟩
  · exact .inr ⟨hstores.flag, seen_air hother⟩

theorem FlagsAre.not_both {st : Nat} (h : FlagsAre (K := K) recent st) :
    ¬ (Seen K airData recent ∧ Seen K skyData recent) := by
  rintro ⟨hair, hsky⟩
  have hflags : airData = skyData := (h.air.mpr hair).symm.trans (h.sky.mpr hsky)
  cases hflags

theorem PairHasRows.freshPair {st : Nat} (hflags : FlagsAre (K := K) recent st)
    (hrows : PairHasRows K recent a) (h : CompletesPair K recent a) : FreshPair K recent a := by
  obtain ⟨hflag, hseen⟩ | ⟨hflag, hseen⟩ := h
  · obtain ⟨hstores, hother⟩ := hrows.1 hflag hseen
    exact .inl ⟨hstores, hother, fun hair => hflags.not_both ⟨seen_air hair, hseen⟩⟩
  · obtain ⟨hstores, hother⟩ := hrows.2 hflag hseen
    exact .inr ⟨hstores, hother, fun hsky => hflags.not_both ⟨hseen, seen_sky hsky⟩⟩

theorem pairHasRows_of (h : CompletesPair K recent a → FreshPair K recent a) :
    PairHasRows K recent a := by
  have hne : airData ≠ skyData := nofun
  constructor
  · intro hflag hseen
    obtain ⟨hstores, hother, -⟩ | ⟨hstores, -⟩ := h (.inl ⟨hflag, hseen⟩)
    · exact ⟨hstores, hother⟩
    · exact absurd (hflag.symm.trans hstores.flag) hne
  · intro hflag hseen
    obtain ⟨hstores, -⟩ | ⟨hstores, hother, -⟩ := h (.inr ⟨hflag, hseen⟩)
    · exact absurd (hstores.flag.symm.trans hflag) hne
    · exact ⟨hstores, hother⟩

theorem signal_freshPair_iff {t : LocalTime} {totals : RainTotals K}
    {rainfallJson : Option (CJson K)}
    (hpast : watch host config (.initial t totals rainfallJson) past = .ok (s, recent))
    (ha : loopBody host config a s = .ok (s', signal)) :
    (signal = true ↔ FreshPair K recent a) ↔ PairHasRows K recent a := by
  have hsignal : signal = true ↔ CompletesPair K recent a := signal_iff_seen rfl hpast ha
  rw [hsignal]
  constructor
  · intro h
    exact pairHasRows_of h.mp
  · intro hrows
    exact ⟨hrows.freshPair (watch_flags rfl hpast), FreshPair.completes⟩

end

def rowlessAir : Arrival := ⟨0, "\x7b\"type\":\"obs_air\"\x7d".toList, by decide⟩
def rowlessSky : Arrival := ⟨0, "\x7b\"type\":\"obs_sky\"\x7d".toList, by decide⟩

theorem rowlessPair_signals : ∃ s recent s',
    watch calmHost quietConfig (.initial (utc 0) .zero none) [rowlessAir] = .ok (s, recent) ∧
    loopBody calmHost quietConfig rowlessSky s = .ok (s', true) ∧
    ¬ FreshPair ℚ recent rowlessSky := by
  refine ⟨_, _, _, rfl, rfl, ?_⟩
  rintro (⟨⟨_, h⟩, -⟩ | ⟨⟨_, h⟩, -⟩) <;> cases h

def airRows (time : Int) : Arrival :=
  ⟨time, "\x7b\"type\":\"obs_air\",\"obs\":[[0,1000,20,100,0,0]]\x7d".toList, by simp⟩

def skyRows (time : Int) : Arrival :=
  ⟨time, "\x7b\"type\":\"obs_sky\",\"obs\":[[0,0,0,0,0,1,2,90,0,0,0]]\x7d".toList, by simp⟩

theorem rowPair_signals : ∃ s recent s',
    watch calmHost quietConfig (.initial (utc 0) .zero none) [airRows 0] = .ok (s, recent) ∧
    loopBody calmHost quietConfig (skyRows 0) s = .ok (s', true) ∧
    ((true = true ↔ FreshPair ℚ recent (skyRows 0)) ↔ PairHasRows ℚ recent (skyRows 0)) := by
  have iff (s recent s')
      (hpast : watch calmHost quietConfig (.initial (utc 0) .zero none) [airRows 0] =
        .ok (s, recent))
      (ha : loopBody calmHost quietConfig (skyRows 0) s = .ok (s', true)) :=
    signal_freshPair_iff hpast ha
  exact ⟨_, _, _, rfl, rfl, iff _ _ _ rfl rfl⟩

end WfPublisher
