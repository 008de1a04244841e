import Mathlib
import WfPublisher.Lib.Handles
import WfPublisher.Lib.Transition
import WfPublisher.Util

/-!
# Sending a request

`send_url` with what it takes from the system, a socket and some blocks of memory,
and what it gives back on each of its ways out.
-/

namespace WfPublisher

open Transition

/-- What the network has for a call. Addresses are texts, as `inet_ntoa` writes them. -/
structure Network where
  /-- `socket` returns a descriptor. -/
  socket : Bool
  gethostbyname : CString → Option CString
  getaddrinfo : CString → Option CString
  /-- `malloc` in `resolve_host_ip6`; no other is looked at. -/
  malloc : Bool
  connect : CString → Nat → Bool
  /-- What `recv` returns, call by call. -/
  recv : List Int

structure UrlCall where
  host : CString
  port : Nat
  url : CString
  ident : Option CString
  response : Bool
  net : Network

/-- The sockets and blocks that were asked for, what was sent on which socket, and
how much came back. -/
structure Resources where
  sockets : Handles
  blocks : Handles
  sent : List (Nat × CString)
  received : Int

namespace Resources

def initial : Resources := ⟨.empty, .empty, [], 0⟩

def openSocket (s : Resources) : Resources := { s with sockets := s.sockets.acquire }
def close (sock : Nat) (s : Resources) : Resources := { s with sockets := s.sockets.release sock }
def malloc (s : Resources) : Resources := { s with blocks := s.blocks.acquire }
def free (block : Nat) (s : Resources) : Resources := { s with blocks := s.blocks.release block }
def send (sock : Nat) (text : CString) (s : Resources) : Resources :=
  { s with sent := s.sent ++ [(sock, text)] }

end Resources

-- ---------------------------------------------------------------------------
-- Resolving
-- ---------------------------------------------------------------------------

/-- `inet_ntop` is told of 15 bytes, which the longest addresses and their NUL exceed. -/
def Network.ntop (net : Network) (host : CString) : Option CString :=
  (net.gethostbyname host).filter fun address => address.length + 1 ≤ 15

def resolveHost (net : Network) (host : CString) (s : Resources) :
    Option (Nat × CString) × Resources :=
  let ip := s.blocks.issued
  let s := s.malloc
  match net.ntop host with
  | none => (none, s.free ip)
  | some address => (some (ip, address), s)

/-- The block is one byte too short for the address. -/
def resolveHostIp6 (net : Network) (host : CString) (s : Resources) :
    Option (Nat × CString) × Resources :=
  match net.getaddrinfo host with
  | none => (none, s)
  | some address =>
    let servinfo := s.blocks.issued
    let s := s.malloc
    if net.malloc then
      let ip := s.blocks.issued
      (some (ip, address), s.malloc.free servinfo)
    else (none, s.free servinfo)

-- ---------------------------------------------------------------------------
-- Sending
-- ---------------------------------------------------------------------------

def receive : List Int → Resources → Resources
  | [], s => s
  | tmpres :: rest, s =>
    if tmpres > 0 then receive rest { s with received := s.received + tmpres } else s

/-- From the address on. What `send` returns is not looked at. -/
def connectAndSend (call : UrlCall) (sock ip : Nat) (address : CString) (s : Resources) :
    Resources :=
  let remote := s.blocks.issued
  let s := s.malloc
  if call.net.connect address call.port then
    let s := call.ident.elim s fun ident => s.send sock ident
    let s := s.send sock call.url
    let s :=
      if call.response then
        let buf := s.blocks.issued
        (receive call.net.recv s.malloc).free buf
      else s
    ((s.close sock).free remote).free ip
  else
    let ts := s.blocks.issued
    ((s.malloc.free ts).free remote).free ip

def selfAddress : CString := "127.0.1.1".toList

/-- None where `strcmp` is called with a null pointer. -/
def sendUrl (s : Resources) (call : UrlCall) : Option Resources :=
  if ¬ call.net.socket then some s
  else
    let sock := s.sockets.issued
    let s := s.openSocket
    match resolveHost call.net call.host s with
    | (none, s) => some (s.close sock)
    | (some (ip, address), s) =>
      if address = selfAddress then
        match resolveHostIp6 call.net call.host (s.free ip) with
        | (none, _) => none
        | (some (ip, address), s) =>
          if address = selfAddress then some ((s.close sock).free ip)
          else some (connectAndSend call sock ip address s)
      else some (connectAndSend call sock ip address s)

def sendUrls (calls : List UrlCall) : Option Resources := run sendUrl .initial calls

-- ---------------------------------------------------------------------------
-- What is given back
-- ---------------------------------------------------------------------------

/-- Each socket was closed and each block freed, once. -/
structure Resources.Released (s : Resources) : Prop where
  sockets : s.sockets.Outstanding []
  blocks : s.blocks.Outstanding []

def Network.second (net : Network) (host : CString) : Option CString :=
  if net.malloc then net.getaddrinfo host else none

def UrlCall.address (call : UrlCall) : Option CString :=
  if ¬ call.net.socket then none
  else if call.net.ntop call.host = some selfAddress then
    (call.net.second call.host).filter (· ≠ selfAddress)
  else call.net.ntop call.host

def UrlCall.Refused (call : UrlCall) : Prop :=
  ∃ address ∈ call.address, call.net.connect address call.port = false

def UrlCall.Unresolved (call : UrlCall) : Prop :=
  call.net.socket ∧ call.net.ntop call.host = some selfAddress ∧
    call.net.second call.host = none

instance (call : UrlCall) : Decidable call.Refused := inferInstanceAs (Decidable (∃ _ ∈ _, _))

instance (call : UrlCall) : Decidable call.Unresolved := inferInstanceAs (Decidable (_ ∧ _))

structure Resources.Holds (sockets blocks : List Nat) (s : Resources) : Prop where
  sockets : s.sockets.Outstanding sockets
  blocks : s.blocks.Outstanding blocks

namespace Resources.Holds

variable {sockets blocks : List Nat} {s : Resources} {n : Nat}

theorem openSocket (h : s.Holds sockets blocks) :
    s.openSocket.Holds (s.sockets.issued :: sockets) blocks := ⟨h.sockets.acquire, h.blocks⟩

theorem close (h : s.Holds (n :: sockets) blocks) : (s.close n).Holds sockets blocks :=
  ⟨h.sockets.release [], h.blocks⟩

theorem malloc (h : s.Holds sockets blocks) :
    s.malloc.Holds sockets (s.blocks.issued :: blocks) := ⟨h.sockets, h.blocks.acquire⟩

theorem free (h : s.Holds sockets (n :: blocks)) : (s.free n).Holds sockets blocks :=
  ⟨h.sockets, h.blocks.release []⟩

theorem free_second {m : Nat} (h : s.Holds sockets (m :: n :: blocks)) :
    (s.free n).Holds sockets (m :: blocks) :=
  ⟨h.sockets, h.blocks.release [m]⟩

theorem send (h : s.Holds sockets blocks) (sock : Nat) (text : CString) :
    (s.send sock text).Holds sockets blocks := ⟨h.sockets, h.blocks⟩

theorem receive (h : s.Holds sockets blocks) (recv : List Int) :
    (receive recv s).Holds sockets blocks := by
  induction recv generalizing s with
  | nil => exact h
  | cons tmpres rest ih =>
    unfold WfPublisher.receive
    split
    · exact ih ⟨h.sockets, h.blocks⟩
    · exact h

end Resources.Holds

-- ---------------------------------------------------------------------------
-- One call
-- ---------------------------------------------------------------------------

section
variable {sockets blocks : List Nat} {s t : Resources} {call : UrlCall} {sock ip : Nat}
  {address : CString}

theorem resolveHost_holds (h : s.Holds sockets blocks) (net : Network) (host : CString) :
    match net.ntop host with
    | none => ∃ t, resolveHost net host s = (none, t) ∧ t.Holds sockets blocks
    | some address => ∃ ip t, resolveHost net host s = (some (ip, address), t) ∧
        t.sockets = s.sockets ∧ t.Holds sockets (ip :: blocks) := by
  unfold resolveHost
  cases net.ntop host with
  | none => exact ⟨_, rfl, h.malloc.free⟩
  | some address => exact ⟨_, _, rfl, rfl, h.malloc⟩

theorem resolveHostIp6_holds (h : s.Holds sockets blocks) (net : Network) (host : CString) :
    match net.second host with
    | none => ∃ t, resolveHostIp6 net host s = (none, t)
    | some address => ∃ ip t, resolveHostIp6 net host s = (some (ip, address), t) ∧
        t.Holds sockets (ip :: blocks) := by
  unfold resolveHostIp6 Network.second
  cases net.getaddrinfo host with
  | none =>
    rw [ite_self]
    exact ⟨s, rfl⟩
  | some address =>
    cases net.malloc with
    | true => exact ⟨_, _, rfl, h.malloc.malloc.free_second⟩
    | false => exact ⟨_, rfl⟩

theorem connectAndSend_connected (h : s.Holds (sock :: sockets) (ip :: blocks))
    (hconnect : call.net.connect address call.port = true) :
    (connectAndSend call sock ip address s).Holds sockets blocks := by
  have hident : (call.ident.elim s.malloc fun ident => s.malloc.send sock ident).Holds
      (sock :: sockets) (s.blocks.issued :: ip :: blocks) := by
    cases call.ident with
    | none => exact h.malloc
    | some ident => exact h.malloc.send sock ident
  unfold connectAndSend
  dsimp only
  rw [if_pos hconnect]
  split
  · exact (((hident.send sock call.url).malloc.receive call.net.recv).free).close.free.free
  · exact (hident.send sock call.url).close.free.free

theorem connectAndSend_refused (h : s.Holds (sock :: sockets) (ip :: blocks))
    (hconnect : call.net.connect address call.port = false) :
    (connectAndSend call sock ip address s).Holds (sock :: sockets) blocks := by
  unfold connectAndSend
  dsimp only
  rw [hconnect]
  exact h.malloc.malloc.free.free.free

theorem connectAndSend_holds (h : s.Holds (sock :: sockets) (ip :: blocks))
    (haddress : call.address = some address) :
    (connectAndSend call sock ip address s).Holds
      (if call.Refused then sock :: sockets else sockets) blocks := by
  cases hconnect : call.net.connect address call.port with
  | true =>
    rw [if_neg fun hrefused => ?_]
    · exact connectAndSend_connected h hconnect
    · obtain ⟨other, hother, hfails⟩ := hrefused
      cases haddress.symm.trans hother
      simp [hconnect] at hfails
  | false =>
    rw [if_pos ⟨address, haddress, hconnect⟩]
    exact connectAndSend_refused h hconnect

theorem sendUrl_unresolved (hcall : call.Unresolved) (h : s.Holds sockets blocks) :
    sendUrl s call = none := by
  obtain ⟨hsocket, hself, hsecond⟩ := hcall
  have hfirst := resolveHost_holds h.openSocket call.net call.host
  rw [hself] at hfirst
  obtain ⟨ip, m, hresolve, -, hm⟩ := hfirst
  have hagain := resolveHostIp6_holds hm.free call.net call.host
  rw [hsecond] at hagain
  obtain ⟨m', hresolve'⟩ := hagain
  simp [sendUrl, hsocket, hresolve, hresolve']

theorem not_refused (h : call.address = none) : ¬ call.Refused := by
  rintro ⟨address, haddress, -⟩
  cases h.symm.trans haddress

theorem sendUrl_holds (hcall : ¬ call.Unresolved) (h : s.Holds sockets blocks) :
    ∃ t, sendUrl s call = some t ∧
      t.Holds (if call.Refused then s.sockets.issued :: sockets else sockets) blocks := by
  cases hsocket : call.net.socket with
  | false =>
    have hnone : call.address = none := by simp [UrlCall.address, hsocket]
    rw [if_neg (not_refused hnone)]
    exact ⟨s, by simp [sendUrl, hsocket], h⟩
  | true =>
    have hfirst := resolveHost_holds h.openSocket call.net call.host
    cases hntop : call.net.ntop call.host with
    | none =>
      have hnone : call.address = none := by simp [UrlCall.address, hsocket, hntop]
      rw [hntop] at hfirst
      obtain ⟨m, hresolve, hm⟩ := hfirst
      rw [if_neg (not_refused hnone)]
      exact ⟨_, by simp [sendUrl, hsocket, hresolve], hm.close⟩
    | some address =>
      rw [hntop] at hfirst
      obtain ⟨ip, m, hresolve, -, hm⟩ := hfirst
      by_cases hself : address = selfAddress
      · subst hself
        have hagain := resolveHostIp6_holds hm.free call.net call.host
        cases hsecond : call.net.second call.host with
        | none => exact absurd ⟨hsocket, hntop, hsecond⟩ hcall
        | some address =>
          rw [hsecond] at hagain
          obtain ⟨ip', m', hresolve', hm'⟩ := hagain
          by_cases hself : address = selfAddress
          · have hnone : call.address = none := by
              simp [UrlCall.address, hsocket, hntop, hsecond, hself]
            rw [if_neg (not_refused hnone)]
            exact ⟨_, by simp [sendUrl, hsocket, hresolve, hresolve', hself], hm'.close.free⟩
          · have haddress : call.address = some address := by
              simp [UrlCall.address, hsocket, hntop, hsecond, hself]
            exact ⟨_, by simp [sendUrl, hsocket, hresolve, hresolve', hself],
              connectAndSend_holds hm' haddress⟩
      · have haddress : call.address = some address := by
          simp [UrlCall.address, hsocket, hntop, hself]
        exact ⟨_, by simp [sendUrl, hsocket, hresolve, hself], connectAndSend_holds hm haddress⟩

-- ---------------------------------------------------------------------------
-- Any number of calls
-- ---------------------------------------------------------------------------

theorem sendUrls_holds {calls : List UrlCall} (hcalls : ∀ call ∈ calls, ¬ call.Unresolved) :
    ∃ s leaked, sendUrls calls = some s ∧ s.Holds leaked [] ∧
      leaked.length = calls.countP fun call => call.Refused := by
  induction calls using List.reverseRecOn with
  | nil => exact ⟨_, [], rfl, ⟨Handles.outstanding_empty, Handles.outstanding_empty⟩, rfl⟩
  | append_singleton calls call ih =>
    obtain ⟨m, leaked, hm, hholds, hlength⟩ := ih fun call hcall => hcalls call (by simp [hcall])
    obtain ⟨s, hs, hholds'⟩ := sendUrl_holds (hcalls call (by simp)) hholds
    refine ⟨s, _, run_concat.mpr ⟨m, hm, hs⟩, hholds', ?_⟩
    by_cases hrefused : call.Refused
    · simp [hrefused, hlength]
    · simp [hrefused, hlength]

theorem sendUrls_isSome (calls : List UrlCall) :
    (sendUrls calls).isSome ↔ ∀ call ∈ calls, ¬ call.Unresolved := by
  constructor
  · intro hsome
    induction calls using List.reverseRecOn with
    | nil => simp
    | append_singleton calls call ih =>
      obtain ⟨s, hs⟩ := Option.isSome_iff_exists.mp hsome
      obtain ⟨m, hm, hlast⟩ := run_concat.mp hs
      have hbefore := ih (Option.isSome_iff_exists.mpr ⟨m, hm⟩)
      obtain ⟨m', leaked, hm', hholds, -⟩ := sendUrls_holds hbefore
      cases hm.symm.trans hm'
      simp only [List.forall_mem_append, List.forall_mem_singleton]
      refine ⟨hbefore, fun hcall => ?_⟩
      rw [sendUrl_unresolved hcall hholds] at hlast
      cases hlast
  · intro hcalls
    obtain ⟨s, -, hs, -⟩ := sendUrls_holds hcalls
    exact Option.isSome_iff_exists.mpr ⟨s, hs⟩

/-- When a list of calls returns, and when everything is given back then. -/
theorem sendUrls_released_iff (calls : List UrlCall) :
    ((sendUrls calls).isSome ↔ ∀ call ∈ calls, ¬ call.Unresolved) ∧
      ∀ s, sendUrls calls = some s → (s.Released ↔ ∀ call ∈ calls, ¬ call.Refused) := by
  refine ⟨sendUrls_isSome calls, fun s hs => ?_⟩
  have hcalls := (sendUrls_isSome calls).mp (Option.isSome_iff_exists.mpr ⟨s, hs⟩)
  obtain ⟨s', leaked, hs', hholds, hlength⟩ := sendUrls_holds hcalls
  cases hs.symm.trans hs'
  constructor
  · intro hreleased
    have hnone := hholds.sockets.eq_nil hreleased.sockets
    rw [hnone] at hlength
    simpa using List.countP_eq_zero.mp hlength.symm
  · intro hconnected
    have hzero : leaked = [] := by
      refine List.eq_nil_of_length_eq_zero (hlength.trans (List.countP_eq_zero.mpr ?_))
      simpa using hconnected
    exact ⟨hzero ▸ hholds.sockets, hholds.blocks⟩

end

-- ---------------------------------------------------------------------------
-- A host that does not answer
-- ---------------------------------------------------------------------------

def uploadTo (listens : Bool) : UrlCall where
  host := "cwop".toList
  port := 14580
  url := "packet".toList
  ident := some "user".toList
  response := true
  net := {
    socket := true
    gethostbyname := fun _ => some "10.0.0.1".toList
    getaddrinfo := fun _ => none
    malloc := true
    connect := fun _ _ => listens
    recv := [20, 5, 0] }

theorem refusedUploads_leak : ∃ s, sendUrls [uploadTo false, uploadTo false] = some s ∧
    ¬ s.Released := by
  refine ⟨_, rfl, fun h => ?_⟩
  exact absurd h.sockets (by decide)

theorem uploads_released : ∃ s, sendUrls [uploadTo true, uploadTo true] = some s ∧
    s.Released := by
  obtain ⟨-, hreleased⟩ := sendUrls_released_iff [uploadTo true, uploadTo true]
  have released (s) (hrun : sendUrls [uploadTo true, uploadTo true] = some s) : s.Released :=
    (hreleased s hrun).mpr (by decide)
  exact ⟨_, rfl, released _ rfl⟩

end WfPublisher
