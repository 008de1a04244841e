import Mathlib
import WfPublisher.Config
import WfPublisher.Publish.Independence
import WfPublisher.Publish.SendUrl

/-!
# Where the strings of the configuration go

What may be missing in the file is read much later: when the publishers are
initialized, by the loop over the services, and by the update functions in their
threads. Here each of them is the list of what it passes on, under every answer
of the libraries.
-/

namespace WfPublisher

/-- What the libraries answer to an update function. -/
structure Libraries where
  fopen : Bool
  mysqlInit : Bool
  mysqlRealConnect : Bool
  net : Network

def Use.Good (needs : StringFn → Prop) : Use → Prop
  | .update funcs => funcs ≠ none
  | .string fn arg => needs fn → arg ≠ none

-- ---------------------------------------------------------------------------
-- The update functions
-- ---------------------------------------------------------------------------

def connectUses (net : Network) (port : Nat) (host : Option CString) (address : CString) :
    List Use :=
  if net.connect address port then [] else [.string .printf host]

/-- From a null pointer `gethostbyname` does not return. -/
def sendUrlUses (net : Network) (port : Nat) (host : Option CString) : List Use :=
  if ¬ net.socket then []
  else
    .string .gethostbyname host ::
      match host with
      | none => []
      | some name =>
        match net.ntop name with
        | none => [.string .printf host]
        | some address =>
          if address = selfAddress then
            .string .getaddrinfo host ::
              match net.second name with
              | none => []
              | some address =>
                if address = selfAddress then [.string .printf host]
                else connectUses net port host address
          else connectUses net port host address

/-- What the update function of the kind passes on in a call that sends, but for the
strings of the record. -/
def Kind.updateUses (debug : Bool) (lib : Libraries) (cfg : CfgInfo) (station : StationInfo) :
    Kind → List Use
  | .logfile =>
    .string .fopen cfg.host ::
      if lib.fopen ∧ ¬ debug then [] else [.string .printf cfg.host]
  | .weatherUnderground =>
    [.string .printf cfg.name, .string .printf cfg.pass, .string .printf cfg.host] ++
      sendUrlUses lib.net 80 (requestHost debug cfg)
  | .weatherBug =>
    [.string .printf cfg.name, .string .printf cfg.pass, .string .printf cfg.extra,
      .string .printf cfg.host] ++ sendUrlUses lib.net 80 (requestHost debug cfg)
  | .personalWeatherStation =>
    [.string .printf cfg.name, .string .printf cfg.pass, .string .printf cfg.host] ++
      sendUrlUses lib.net 80 (requestHost debug cfg)
  | .cwop =>
    [.string .printf cfg.name, .string .printf station.latitude, .string .printf station.longitude,
      .string .printf cfg.name] ++ sendUrlUses lib.net 14580 cfg.host
  | .mqtt =>
    [.string .strlen station.name, .string .strlen station.location,
      .string .strlen station.latitude, .string .strlen station.longitude]
  | .mysql =>
    (if debug then [.string .printf cfg.host] else []) ++
      if lib.mysqlInit then
        [.string .printf cfg.host, .string .printf cfg.extra, .string .mysqlRealConnect cfg.host,
          .string .mysqlRealConnect cfg.name, .string .mysqlRealConnect cfg.pass] ++
        if lib.mysqlRealConnect then [.string .mysqlSelectDb cfg.extra] else []
      else []
  | .display => [.string .printf station.name]

def Kind.strings (debug : Bool) (cfg : CfgInfo) (station : StationInfo) :
    Kind → List (StringFn × Option CString)
  | .logfile => [(.fopen, cfg.host), (.printf, cfg.host)]
  | .weatherUnderground | .personalWeatherStation =>
    [(.printf, cfg.name), (.printf, cfg.pass), (.printf, cfg.host),
      (.gethostbyname, requestHost debug cfg)]
  | .weatherBug =>
    [(.printf, cfg.name), (.printf, cfg.pass), (.printf, cfg.extra), (.printf, cfg.host),
      (.gethostbyname, requestHost debug cfg)]
  | .cwop =>
    [(.printf, cfg.name), (.printf, station.latitude), (.printf, station.longitude),
      (.gethostbyname, cfg.host)]
  | .mqtt =>
    [(.strlen, station.name), (.strlen, station.location), (.strlen, station.latitude),
      (.strlen, station.longitude)]
  | .mysql =>
    [(.printf, cfg.host), (.printf, cfg.extra), (.mysqlRealConnect, cfg.host),
      (.mysqlRealConnect, cfg.name), (.mysqlRealConnect, cfg.pass), (.mysqlSelectDb, cfg.extra)]
  | .display => [(.printf, station.name)]

/-- All that is asked for is opened, but nothing is found there. -/
def Libraries.late : Libraries where
  fopen := false
  mysqlInit := true
  mysqlRealConnect := true
  net := ⟨true, fun _ => none, fun _ => none, true, fun _ _ => false, []⟩

@[simp] theorem late_fopen : Libraries.late.fopen = false := rfl
@[simp] theorem late_mysqlInit : Libraries.late.mysqlInit = true := rfl
@[simp] theorem late_mysqlRealConnect : Libraries.late.mysqlRealConnect = true := rfl

section
variable {needs : StringFn → Prop} {debug : Bool} {cfg : CfgInfo} {station : StationInfo}

@[simp] theorem good_string {fn : StringFn} {arg : Option CString} :
    (Use.string fn arg).Good needs ↔ (needs fn → arg ≠ none) := Iff.rfl

@[simp] theorem good_update {funcs : Option Kind} : (Use.update funcs).Good needs ↔ funcs ≠ none :=
  Iff.rfl

theorem good_some (fn : StringFn) (s : CString) : (Use.string fn (some s)).Good needs :=
  fun _ => Option.some_ne_none s

theorem forall_mem_if {c : Prop} [Decidable c] {uses : List Use}
    (h : c → ∀ use ∈ uses, use.Good needs) : ∀ use ∈ if c then uses else [], use.Good needs := by
  split
  · rename_i hc
    exact h hc
  · simp

theorem sendUrlUses_good {host : Option CString} (h : needs .gethostbyname → host ≠ none)
    (net : Network) (port : Nat) : ∀ use ∈ sendUrlUses net port host, use.Good needs := by
  have hconnect (name address : CString) :
      ∀ use ∈ connectUses net port (some name) address, use.Good needs := by
    unfold connectUses
    split <;> simp
  unfold sendUrlUses
  split
  · simp
  · refine List.forall_mem_cons.mpr ⟨h, ?_⟩
    cases host with
    | none => simp
    | some name =>
      dsimp only
      split
      · simp
      · split
        · refine List.forall_mem_cons.mpr ⟨good_some .getaddrinfo name, ?_⟩
          split
          · simp
          · split
            · simp
            · exact hconnect name _
        · exact hconnect name _

theorem sendUrlUses_late (host : Option CString) (port : Nat) :
    .string .gethostbyname host ∈ sendUrlUses Libraries.late.net port host := by
  simp [sendUrlUses, Libraries.late]

theorem updateUses_good {kind : Kind}
    (h : ∀ p ∈ kind.strings debug cfg station, needs p.1 → p.2 ≠ none) (lib : Libraries) :
    ∀ use ∈ kind.updateUses debug lib cfg station, use.Good needs := by
  cases kind with
  | logfile =>
    obtain ⟨hopen, hhost, -⟩ := by simpa only [Kind.strings, List.forall_mem_cons] using h
    refine List.forall_mem_cons.mpr ⟨hopen, ?_⟩
    split
    · simp
    · simpa using hhost
  | weatherUnderground | personalWeatherStation =>
    obtain ⟨hname, hpass, hhost, hurl, -⟩ := by
      simpa only [Kind.strings, List.forall_mem_cons] using h
    refine List.forall_mem_append.mpr ⟨?_, sendUrlUses_good hurl lib.net 80⟩
    simpa using ⟨hname, hpass, hhost⟩
  | weatherBug =>
    obtain ⟨hname, hpass, hextra, hhost, hurl, -⟩ := by
      simpa only [Kind.strings, List.forall_mem_cons] using h
    refine List.forall_mem_append.mpr ⟨?_, sendUrlUses_good hurl lib.net 80⟩
    simpa using ⟨hname, hpass, hextra, hhost⟩
  | cwop =>
    obtain ⟨hname, hlatitude, hlongitude, hurl, -⟩ := by
      simpa only [Kind.strings, List.forall_mem_cons] using h
    refine List.forall_mem_append.mpr ⟨?_, sendUrlUses_good hurl lib.net 14580⟩
    simpa using ⟨hname, hlatitude, hlongitude, hname⟩
  | mqtt | display => simpa [Kind.updateUses, Kind.strings] using h
  | mysql =>
    obtain ⟨hhost, hextra, hserver, huser, hpass, hdb, -⟩ := by
      simpa only [Kind.strings, List.forall_mem_cons] using h
    refine List.forall_mem_append.mpr
      ⟨forall_mem_if fun _ => by simpa using hhost, forall_mem_if fun _ => ?_⟩
    refine List.forall_mem_append.mpr ⟨?_, forall_mem_if fun _ => by simpa using hdb⟩
    simpa using ⟨hhost, hextra, hserver, huser, hpass⟩

theorem strings_used (debug : Bool) (cfg : CfgInfo) (station : StationInfo) (kind : Kind) :
    ∀ p ∈ kind.strings debug cfg station,
      .string p.1 p.2 ∈ kind.updateUses debug .late cfg station := by
  cases kind with
  | logfile | mqtt | mysql | display => simp [Kind.strings, Kind.updateUses]
  | weatherUnderground | weatherBug | personalWeatherStation | cwop =>
    simp [Kind.strings, Kind.updateUses, sendUrlUses_late]

end

-- ---------------------------------------------------------------------------
-- A run
-- ---------------------------------------------------------------------------

/-- Of the init functions only `mqtt_init` has a use for strings. -/
def ServiceEntry.initUses (created connected : Bool) (s : ServiceEntry) : List Use :=
  if s.funcs = some .mqtt ∧ created then
    [.string .atoi s.cfg.extra, .string .mosquittoConnect s.cfg.host] ++
      if connected then [] else [.string .printf s.cfg.host]
  else []

def ServiceEntry.visitUses (debug verbose : Bool) (outcome : Outcome) (s : ServiceEntry) :
    List Use :=
  (if verbose then [.string .printf s.service] else []) ++
    if s.enabled = 0 then []
    else
      (if debug then [.string .printf s.cfg.host] else []) ++
        match outcome with
        | .noThread => [.string .printf s.cfg.name]
        | .noMemory | .created => []

def ServiceEntry.thread {K : Type} (outcome : Outcome) (wd : WeatherData K) (s : ServiceEntry) :
    Option (ServiceEntry × WeatherData K) :=
  match outcome with
  | .created => if s.enabled = 0 then none else some (s, wd)
  | .noMemory | .noThread => none

def ServiceEntry.info (kind : Kind) (s : ServiceEntry) : ServiceInfo :=
  ⟨kind, s.enabled, s.station, s.cfg⟩

structure Publishing (K : Type) where
  statics : Statics K
  threads : List (ServiceEntry × WeatherData K)
  uses : List Use

/-- A pass over the services, with a record and an outcome for each, or the call of
an update function; other threads run before, between and after them. -/
inductive PublishAct (K : Type)
  | pass (wd : Nat → WeatherData K) (outcome : Nat → Outcome)
  | update (thread : Nat) (time : CallTime) (lib : Libraries)

section
variable {K : Type} [Field K]

def Configured.startUp (c : Configured) (created connected : Nat → Bool) : Publishing K where
  statics := initializePublishers (c.sinfo.filterMap fun s => s.funcs.map fun kind => s.info kind)
  threads := []
  uses := c.uses ++ c.sinfo.zipIdx.flatMap fun (s, i) => s.initUses (created i) (connected i)

variable [LinearOrder K] [FloorRing K]

def Publishing.pass (debug verbose : Bool) (sinfo : List ServiceEntry) (wd : Nat → WeatherData K)
    (outcome : Nat → Outcome) (p : Publishing K) : Publishing K :=
  { p with
    threads := p.threads ++ sinfo.zipIdx.filterMap fun (s, i) => s.thread (outcome i) (wd i)
    uses := p.uses ++ sinfo.zipIdx.flatMap fun (s, i) => s.visitUses debug verbose (outcome i) }

/-- What the thread does after a null pointer was called does not matter. -/
def Publishing.update (debug : Bool) (s : ServiceEntry) (wd : WeatherData K) (time : CallTime)
    (lib : Libraries) (p : Publishing K) : Publishing K :=
  match s.funcs with
  | none => { p with uses := p.uses ++ [.update none] }
  | some kind =>
    let (statics, request) := formRequest debug (s.info kind) time wd.reversed p.statics
    { p with
      statics := statics
      uses := p.uses ++ [.update (some kind)] ++
        if request.isSome then kind.updateUses debug lib s.cfg s.station else [] }

def Publishing.next (debug verbose : Bool) (sinfo : List ServiceEntry) (p : Publishing K) :
    PublishAct K → Option (Publishing K)
  | .pass wd outcome => some (p.pass debug verbose sinfo wd outcome)
  | .update i time lib => do
    let (s, wd) ← p.threads[i]?
    return { p with threads := p.threads.eraseIdx i }.update debug s wd time lib

end

end WfPublisher
