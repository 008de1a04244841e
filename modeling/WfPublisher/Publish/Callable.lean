import Mathlib
import WfPublisher.Lib.Transition
import WfPublisher.Publish.Strings

/-!
# What the configuration must have

Which keys of the file are needed so that no run of the publishers calls a null
update function or passes on a string that is not there.
-/

namespace WfPublisher

open Transition

-- ---------------------------------------------------------------------------
-- What has to be there
-- ---------------------------------------------------------------------------

/-- A service is known if it is enabled, and the strings it needs are there. -/
structure ServiceEntry.Callable (needs : StringFn → Prop) (debug : Bool) (s : ServiceEntry) :
    Prop where
  listed : needs .printf → s.cfg.host ≠ none
  /-- Also of an entry that is not enabled. -/
  initialized : s.funcs = some .mqtt →
    (needs .atoi → s.cfg.extra ≠ none) ∧ (needs .mosquittoConnect → s.cfg.host ≠ none)
  /-- For the message of a thread that was not created. -/
  named : s.enabled ≠ 0 → needs .printf → s.cfg.name ≠ none
  updated : s.enabled ≠ 0 → ∃ kind, s.funcs = some kind ∧
    ∀ p ∈ kind.strings debug s.cfg s.station, needs p.1 → p.2 ≠ none

section
variable {K : Type} [Field K] {needs : StringFn → Prop} {debug verbose : Bool} {s : ServiceEntry}

theorem ServiceEntry.Callable.init (h : s.Callable needs debug) (created connected : Bool) :
    ∀ use ∈ s.initUses created connected, use.Good needs := by
  refine forall_mem_if fun ⟨hmqtt, _⟩ => ?_
  obtain ⟨hextra, hhost⟩ := h.initialized hmqtt
  refine List.forall_mem_append.mpr ⟨by simpa using And.intro hextra hhost, ?_⟩
  split
  · simp
  · simpa using h.listed

theorem ServiceEntry.Callable.visit (h : s.Callable needs debug) (hservice : s.service ≠ none)
    (outcome : Outcome) : ∀ use ∈ s.visitUses debug verbose outcome, use.Good needs := by
  refine List.forall_mem_append.mpr ⟨forall_mem_if fun _ => by simpa using fun _ => hservice, ?_⟩
  split
  · simp
  · rename_i henabled
    refine List.forall_mem_append.mpr ⟨forall_mem_if fun _ => by simpa using h.listed, ?_⟩
    cases outcome with
    | noThread => simpa using h.named henabled
    | noMemory | created => simp

omit [Field K] in
theorem mem_thread {outcome : Outcome} {wd : WeatherData K} {t : ServiceEntry × WeatherData K}
    (h : s.thread outcome wd = some t) : t.1 = s ∧ s.enabled ≠ 0 := by
  cases outcome with
  | noMemory | noThread => cases h
  | created =>
    rw [ServiceEntry.thread] at h
    split at h
    · cases h
    · rename_i henabled
      cases h
      exact ⟨rfl, henabled⟩

-- ---------------------------------------------------------------------------
-- Runs where it is there
-- ---------------------------------------------------------------------------

/-- Nothing was spoilt, and each thread is one of an enabled entry. -/
structure Publishing.Sound (needs : StringFn → Prop) (sinfo : List ServiceEntry)
    (p : Publishing K) : Prop where
  uses : ∀ use ∈ p.uses, use.Good needs
  threads : ∀ t ∈ p.threads, t.1 ∈ sinfo ∧ t.1.enabled ≠ 0

variable {sinfo : List ServiceEntry} {c : Configured} {p q : Publishing K}

theorem startUp_sound (huses : ∀ use ∈ c.uses, use.Good needs)
    (hsinfo : ∀ s ∈ c.sinfo, s.Callable needs debug) (created connected : Nat → Bool) :
    (c.startUp created connected : Publishing K).Sound needs c.sinfo where
  uses := by
    refine List.forall_mem_append.mpr ⟨huses, List.forall_mem_flatMap.mpr ?_⟩
    rintro ⟨s, i⟩ hmem
    exact (hsinfo s (List.fst_mem_of_mem_zipIdx hmem)).init _ _
  threads := by simp [Configured.startUp]

omit [Field K] in
theorem Publishing.Sound.pass (h : p.Sound needs sinfo)
    (hsinfo : ∀ s ∈ sinfo, s.Callable needs debug ∧ s.service ≠ none) (wd : Nat → WeatherData K)
    (outcome : Nat → Outcome) : (p.pass debug verbose sinfo wd outcome).Sound needs sinfo where
  uses := by
    refine List.forall_mem_append.mpr ⟨h.uses, List.forall_mem_flatMap.mpr ?_⟩
    rintro ⟨s, i⟩ hmem
    obtain ⟨hcallable, hservice⟩ := hsinfo s (List.fst_mem_of_mem_zipIdx hmem)
    exact hcallable.visit hservice _
  threads := by
    refine List.forall_mem_append.mpr ⟨h.threads, fun t ht => ?_⟩
    obtain ⟨⟨s, i⟩, hmem, hthread⟩ := List.mem_filterMap.mp ht
    obtain ⟨rfl, henabled⟩ := mem_thread hthread
    exact ⟨List.fst_mem_of_mem_zipIdx hmem, henabled⟩

variable [LinearOrder K] [FloorRing K]

theorem Publishing.Sound.update (h : p.Sound needs sinfo) (hcallable : s.Callable needs debug)
    (henabled : s.enabled ≠ 0) (wd : WeatherData K) (time : CallTime) (lib : Libraries) :
    (p.update debug s wd time lib).Sound needs sinfo := by
  obtain ⟨kind, hkind, hstrings⟩ := hcallable.updated henabled
  unfold Publishing.update
  rw [hkind]
  refine ⟨?_, h.threads⟩
  refine List.forall_mem_append.mpr ⟨List.forall_mem_append.mpr ⟨h.uses, by simp⟩, ?_⟩
  exact forall_mem_if fun _ => updateUses_good hstrings lib

theorem Publishing.Sound.step {a : PublishAct K} (h : p.Sound needs sinfo)
    (hsinfo : ∀ s ∈ sinfo, s.Callable needs debug ∧ s.service ≠ none)
    (hstep : p.next debug verbose sinfo a = some q) : q.Sound needs sinfo := by
  cases a with
  | pass wd outcome =>
    cases hstep
    exact h.pass hsinfo wd outcome
  | update i time lib =>
    obtain ⟨⟨s, wd⟩, hi, hq⟩ := Option.bind_eq_some_iff.mp hstep
    cases hq
    obtain ⟨hmem, henabled⟩ := h.threads _ (List.mem_of_getElem? hi)
    refine Publishing.Sound.update ?_ (hsinfo s hmem).1 henabled wd time lib
    exact ⟨h.uses, fun t ht => h.threads t (List.mem_of_mem_eraseIdx ht)⟩

-- ---------------------------------------------------------------------------
-- Runs to each of them
-- ---------------------------------------------------------------------------

theorem exists_call (debug verbose : Bool) (hs : s ∈ sinfo) (henabled : s.enabled ≠ 0)
    (p : Publishing K) (time : CallTime) (lib : Libraries) :
    ∃ actions, ∃ q : Publishing K, run (Publishing.next debug verbose sinfo) p actions =
      some (q.update debug s .zero time lib) ∧ q.statics = p.statics := by
  let created : Publishing K := p.pass debug verbose sinfo (fun _ => .zero) fun _ => .created
  have hthread : (s, .zero) ∈ created.threads := by
    obtain ⟨i, hi⟩ := List.mem_iff_getElem?.mp hs
    refine List.mem_append_right _ (List.mem_filterMap.mpr ⟨(s, i), ?_, ?_⟩)
    · exact List.mem_zipIdx_iff_getElem?.mpr hi
    · exact if_neg henabled
  obtain ⟨j, hj⟩ := List.mem_iff_getElem?.mp hthread
  refine ⟨[.pass (fun _ => .zero) fun _ => .created, .update j time lib],
    { created with threads := created.threads.eraseIdx j }, ?_, rfl⟩
  have hupdate : created.next debug verbose sinfo (.update j time lib) =
      some ({ created with threads := created.threads.eraseIdx j }.update debug s .zero time lib) :=
    Option.bind_eq_some_iff.mpr ⟨(s, .zero), hj, rfl⟩
  simpa [run, Publishing.next] using hupdate

theorem sends_at_ten (debug : Bool) (service : ServiceInfo) (wd : WeatherData K) (s : Statics K) :
    (formRequest debug service (minuteTime 10) wd
      (formRequest debug service (minuteTime 1) wd s).1).2.isSome := by
  by_cases hkind : service.kind.Batching
  · have hheld : (formRequest debug service (minuteTime 1) wd s).1.held service.kind =
        s.held service.kind + 1 := (held_update_early hkind minute_one).1
    refine Option.isSome_iff_ne_none.mpr fun hnone => ?_
    have hzero := (held_update_mark hkind minute_ten).2.mp hnone
    omega
  · obtain ⟨kind, enabled, station, cfg⟩ := service
    cases kind with
    | logfile | weatherUnderground | mqtt | mysql | display => rfl
    | weatherBug => exact absurd (.inl rfl) hkind
    | personalWeatherStation => exact absurd (.inr (.inl rfl)) hkind
    | cwop => exact absurd (.inr (.inr rfl)) hkind

variable (K) in
/-- Whatever Mosquitto answers, and in every run after that. -/
def Configured.Safe (needs : StringFn → Prop) (debug verbose : Bool) (c : Configured) : Prop :=
  ∀ (created connected : Nat → Bool) (actions : List (PublishAct K)) (p : Publishing K),
    run (Publishing.next debug verbose c.sinfo) (c.startUp created connected) actions = some p →
      ∀ use ∈ p.uses, use.Good needs

theorem Configured.safe_of_callable (huses : ∀ use ∈ c.uses, use.Good needs)
    (hsinfo : ∀ s ∈ c.sinfo, s.Callable needs debug ∧ s.service ≠ none) :
    c.Safe K needs debug verbose := by
  intro created connected actions p hrun
  have hstart : (c.startUp created connected : Publishing K).Sound needs c.sinfo :=
    startUp_sound huses (fun s hs => (hsinfo s hs).1) created connected
  have hsound : p.Sound needs c.sinfo :=
    run_induction hstart (fun _ _ _ hm hstep => hm.step hsinfo hstep) hrun
  exact hsound.uses

section
variable (h : c.Safe K needs debug verbose) (hs : s ∈ c.sinfo)
include h hs

theorem Configured.Safe.initialized (hmqtt : s.funcs = some .mqtt) :
    (needs .atoi → s.cfg.extra ≠ none) ∧ (needs .mosquittoConnect → s.cfg.host ≠ none) := by
  obtain ⟨i, hi⟩ := List.mem_iff_getElem?.mp hs
  have hinit : ∀ use ∈ s.initUses true true, use.Good needs := by
    intro use huse
    refine h (fun _ => true) (fun _ => true) [] _ rfl use (List.mem_append_right _ ?_)
    exact List.mem_flatMap.mpr ⟨(s, i), List.mem_zipIdx_iff_getElem?.mpr hi, huse⟩
  simpa [ServiceEntry.initUses, hmqtt] using hinit

theorem Configured.Safe.named (henabled : s.enabled ≠ 0) : needs .printf → s.cfg.name ≠ none := by
  obtain ⟨i, hi⟩ := List.mem_iff_getElem?.mp hs
  have hvisit : ∀ use ∈ s.visitUses debug verbose .noThread, use.Good needs := by
    intro use huse
    refine h (fun _ => true) (fun _ => true) [.pass (fun _ => .zero) fun _ => .noThread] _ rfl use
      (List.mem_append_right _ ?_)
    exact List.mem_flatMap.mpr ⟨(s, i), List.mem_zipIdx_iff_getElem?.mpr hi, huse⟩
  refine hvisit (.string .printf s.cfg.name) (List.mem_append_right _ ?_)
  rw [if_neg henabled]
  exact List.mem_append_right _ (List.mem_singleton_self _)

theorem Configured.Safe.updated (henabled : s.enabled ≠ 0) : ∃ kind, s.funcs = some kind ∧
    ∀ p ∈ kind.strings debug s.cfg s.station, needs p.1 → p.2 ≠ none := by
  obtain ⟨first, q₁, hfirst, -⟩ := exists_call debug verbose hs henabled
    (c.startUp (fun _ => true) fun _ => true : Publishing K) (minuteTime 1) .late
  cases hkind : s.funcs with
  | none =>
    refine absurd (h _ _ first _ hfirst (.update none) ?_) (by simp)
    simp [Publishing.update, hkind]
  | some kind =>
    refine ⟨kind, rfl, fun p hp => ?_⟩
    obtain ⟨second, q₂, hsecond, hstatics⟩ := exists_call debug verbose hs henabled
      (q₁.update debug s .zero (minuteTime 1) .late) (minuteTime 10) .late
    refine h _ _ (first ++ second) _ (run_append.mpr ⟨_, hfirst, hsecond⟩) (.string p.1 p.2) ?_
    have hsends := sends_at_ten debug (s.info kind) WeatherData.zero.reversed q₁.statics
    have hkept : q₂.statics =
        (formRequest debug (s.info kind) (minuteTime 1) WeatherData.zero.reversed
          q₁.statics).1 := by
      rw [hstatics, Publishing.update, hkind]
    rw [← hkept] at hsends
    simp [Publishing.update, hkind, hsends, strings_used debug s.cfg s.station kind p hp]

theorem Configured.Safe.callable (hfound : ∀ use ∈ s.found, use ∈ c.uses) :
    s.Callable needs debug where
  listed := by
    refine h (fun _ => true) (fun _ => true) [] _ rfl (.string .printf s.cfg.host)
      (List.mem_append_left _ (hfound _ ?_))
    simp [ServiceEntry.found]
  initialized := h.initialized hs
  named := h.named hs
  updated := h.updated hs

end

structure CallableConfig (needs : StringFn → Prop) (debug : Bool) (config : CJson K) : Prop where
  version : config.text "version" ≠ none
  services : ∀ entry ∈ entriesOf config, entry.service ≠ none
  entries : ∀ entry ∈ entriesOf config, entry.Callable needs debug

/-- With them, and only with them, the file is read and nothing is ever spoilt,
whichever functions need their strings. -/
theorem configuredServices_callable_iff (needs : StringFn → Prop) (debug verbose : Bool)
    {config : CJson K} (hconfig : ConfigObject config) :
    (∃ c, readConfig (some config) = .ok c ∧ c.Safe K needs debug verbose) ↔
      CallableConfig needs debug config := by
  have hservices : (∀ entry ∈ items (config.member "services"), entry.text "service" ≠ none) ↔
      ∀ entry ∈ entriesOf config, entry.service ≠ none := by
    simp [entriesOf, entryOf]
  simp only [readConfig_ok hconfig, hservices]
  constructor
  · rintro ⟨c, ⟨hversion, hnamed, rfl⟩, hsafe⟩
    refine ⟨hversion, hnamed, fun s hs => hsafe.callable (List.mem_reverse.mpr hs) ?_⟩
    exact fun use huse => List.mem_cons_of_mem _ (List.mem_flatMap.mpr ⟨s, hs, huse⟩)
  · rintro ⟨hversion, hnamed, hentries⟩
    refine ⟨_, ⟨hversion, hnamed, rfl⟩, Configured.safe_of_callable ?_ fun s hs => ?_⟩
    · refine List.forall_mem_cons.mpr ⟨fun _ => hversion, List.forall_mem_flatMap.mpr ?_⟩
      intro s hs
      have hservice := hnamed s hs
      refine List.forall_mem_append.mpr ⟨?_, forall_mem_if fun _ => ?_⟩
      · simpa using And.intro (fun _ => hservice) (hentries s hs).listed
      · simpa using fun _ => hservice
    · have hs := List.mem_reverse.mp hs
      exact ⟨hentries s hs, hnamed s hs⟩

end

-- ---------------------------------------------------------------------------
-- Short files
-- ---------------------------------------------------------------------------

def textMembers (texts : List (String × String)) : List (CString × CJson ℚ) :=
  texts.map fun (key, value) => (key.toList, .string value.toList)

def serviceFile (station service : List (String × String)) (enabled : ℚ) : CJson ℚ :=
  .object (textMembers (("version", "0.2") :: station) ++
    [("services".toList, .array
      [.object (textMembers service ++ [("enabled".toList, .number enabled)])])])

theorem configObject_single {members entry : List (CString × CJson ℚ)}
    (hentries : items (field "services".toList members) = [.object entry])
    (hstation : ∀ key ∈ stationKeys, ∀ item ∈ field key.toList members, item.valuestring.isSome)
    (hservice : ∀ key ∈ serviceKeys, ∀ item ∈ field key.toList entry, item.valuestring.isSome) :
    ConfigObject (.object members) where
  station := hasTexts_object hstation
  services := by
    intro e he
    obtain rfl := List.mem_singleton.mp (hentries ▸ he)
    exact hasTexts_object hservice

def portlessBroker : CJson ℚ := serviceFile [] [("service", "MQTT"), ("host", "localhost")] 0

def unknownService : CJson ℚ := serviceFile [] [("service", "Noticeboard")] 1

def namelessService : CJson ℚ := serviceFile [] [("host", "localhost")] 1

theorem shortFiles_spoilt :
    (ConfigObject portlessBroker ∧ ¬ ∃ c, readConfig (some portlessBroker) = .ok c ∧
      c.Safe ℚ (· = .atoi) false false) ∧
    (ConfigObject unknownService ∧ ¬ ∃ c, readConfig (some unknownService) = .ok c ∧
      c.Safe ℚ (fun _ => False) false false) ∧
    (ConfigObject namelessService ∧ readConfig (some namelessService) = .error .nullDeref) := by
  have hbroker : ConfigObject portlessBroker :=
    configObject_single rfl (by decide +kernel) (by decide +kernel)
  have hunknown : ConfigObject unknownService :=
    configObject_single rfl (by decide +kernel) (by decide +kernel)
  refine ⟨⟨hbroker, ?_⟩, ⟨hunknown, ?_⟩, ?_, rfl⟩
  · rintro ⟨c, hc, hsafe⟩
    obtain ⟨-, -, rfl⟩ := (readConfig_ok hbroker).mp hc
    exact (hsafe.initialized (List.mem_singleton_self _) (by decide +kernel)).1 rfl rfl
  · rintro ⟨c, hc, hsafe⟩
    obtain ⟨-, -, rfl⟩ := (readConfig_ok hunknown).mp hc
    obtain ⟨kind, hkind, -⟩ := hsafe.updated (List.mem_singleton_self _) (by decide +kernel)
    exact absurd (Option.isSome_iff_exists.mpr ⟨kind, hkind⟩) (by decide +kernel)
  · exact configObject_single rfl (by decide +kernel) (by decide +kernel)

def brokerFile : CJson ℚ :=
  serviceFile [("name", "Home"), ("location", "Roof"), ("latitude", "3840.40N"),
      ("longitude", "12100.42W")]
    [("service", "MQTT"), ("host", "localhost"), ("name", ""), ("extra", "1883")] 1

theorem brokerFile_callable : ∃ c, readConfig (some brokerFile) = .ok c ∧
    c.Safe ℚ (fun _ => True) false false := by
  refine (configuredServices_callable_iff (fun _ => True) false false
    (configObject_single rfl (by decide +kernel) (by decide +kernel))).mpr ?_
  refine ⟨by decide +kernel, by decide +kernel, fun s hs => ?_⟩
  obtain rfl := List.mem_singleton.mp hs
  refine ⟨by decide +kernel, by decide +kernel, by decide +kernel, fun _ => ⟨.mqtt, ?_, ?_⟩⟩
  · decide +kernel
  · decide +kernel

end WfPublisher
