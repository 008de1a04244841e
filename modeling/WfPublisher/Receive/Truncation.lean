import Mathlib
import WfPublisher.CJson.Accepted
import WfPublisher.Receive

/-!
# Datagrams that do not fit

`read` keeps the first 1024 bytes of a datagram and drops the others. A message
that is cut is no JSON, so nothing of it is stored, unless the cut is behind the
whole of it. The NUL behind 1024 bytes is the byte behind `line`.
-/

namespace WfPublisher

open Fallible Syntax

-- ---------------------------------------------------------------------------
-- Datagrams
-- ---------------------------------------------------------------------------

structure Datagram where
  time : Int
  bytes : CString
  sent : bytes ≠ []

namespace Datagram

def arrival (d : Datagram) : Arrival where
  time := d.time
  line := d.bytes.take 1024
  received := by
    refine ⟨fun h => d.sent ?_, List.length_take_le _ _⟩
    simpa using List.take_eq_nil_iff.mp h

def text (d : Datagram) : CString := d.bytes.takeWhile (· ≠ Char.ofNat 0)

theorem text_eq (d : Datagram) : ∃ rest, d.text = d.arrival.text ++ rest := by
  have hsplit : d.text = (d.bytes.take 1024 ++ d.bytes.drop 1024).takeWhile (· ≠ Char.ofNat 0) := by
    rw [List.take_append_drop, text]
  rw [List.takeWhile_append] at hsplit
  split at hsplit
  · rename_i hall
    rw [← (List.takeWhile_prefix _).eq_of_length hall] at hsplit
    exact ⟨_, hsplit⟩
  · exact ⟨[], by rw [hsplit, List.append_nil]; rfl⟩

theorem arrival_text (d : Datagram) (h : d.bytes.length ≤ 1024) : d.arrival.text = d.text := by
  simp only [Arrival.text, arrival, text, List.take_of_length_le h]

/-- `frame` is the memory from `line` on: `read` writes its first bytes, and the NUL goes
behind them. -/
def store (d : Datagram) (frame : CString) : CString :=
  d.bytes.take 1024 ++ Char.ofNat 0 :: frame.drop (min 1024 d.bytes.length + 1)

theorem takeWhile_store (d : Datagram) (frame : CString) :
    (d.store frame).takeWhile (· ≠ Char.ofNat 0) = d.arrival.text := by
  have hnul (rest : CString) : (Char.ofNat 0 :: rest).takeWhile (· ≠ Char.ofNat 0) = [] :=
    List.takeWhile_cons_of_neg (by simp)
  rw [store, List.takeWhile_append, hnul, List.append_nil]
  split
  · rename_i hall
    exact ((List.takeWhile_prefix _).eq_of_length hall).symm
  · rfl

theorem drop_store (d : Datagram) (frame : CString) : (d.store frame).drop 1024 =
    if 1024 ≤ d.bytes.length then Char.ofNat 0 :: frame.drop 1025 else frame.drop 1024 := by
  have hlength : (d.bytes.take 1024).length = min 1024 d.bytes.length := List.length_take
  rw [store, List.drop_append, hlength]
  split
  · rename_i hlong
    rw [min_eq_left hlong, List.drop_of_length_le (by omega)]
    rfl
  · rename_i hshort
    obtain ⟨gap, hgap⟩ : ∃ gap, 1024 - d.bytes.length = gap + 1 :=
      ⟨1024 - d.bytes.length - 1, by omega⟩
    rw [min_eq_right (by omega), List.drop_of_length_le (by omega), hgap, List.nil_append,
      List.drop_succ_cons, List.drop_drop]
    congr 1
    omega

end Datagram

-- ---------------------------------------------------------------------------
-- One datagram
-- ---------------------------------------------------------------------------

section
variable {K : Type} [Field K] [LinearOrder K] [FloorRing K]

/-- A complete value fits into the line, and no bare number, which may go on. -/
def Datagram.complete (K : Type) [Field K] [LinearOrder K] [FloorRing K] (d : Datagram) : Bool :=
  match cJSONParse (K := K) d.arrival.text with
  | none => false
  | some (.number _) => false
  | some _ => true

/-- What there is to handle: the text that was sent, or none if it is too long and no
value in it is complete. -/
def Datagram.kept (K : Type) [Field K] [LinearOrder K] [FloorRing K] (d : Datagram) : CString :=
  if 1024 < d.bytes.length ∧ d.complete K = false then [] else d.text

theorem Datagram.complete_eq_false {d : Datagram} : d.complete K = false ↔
    ∀ item, cJSONParse d.arrival.text = some item → ∃ x : K, item = .number x := by
  unfold Datagram.complete
  cases cJSONParse (K := K) d.arrival.text with
  | none => simp
  | some item => cases item <;> simp

variable {host : Host K} {config : Config K}

theorem wfMessageParse_congr {now : Int} {text text' : CString}
    (h : cJSONParse (K := K) text = cJSONParse text') (g : Globals K) :
    wfMessageParse host config now text g = wfMessageParse host config now text' g := by
  simp only [wfMessageParse, h]

theorem wfMessageParse_untyped {now : Int} {text : CString}
    (h : ∀ item, cJSONParse text = some item → ∃ x : K, item = .number x) (g : Globals K) :
    wfMessageParse host config now text g = .ok (0, g) := by
  refine wfMessageParse_of_other host config now ?_ (fun s (h : none = _) => by cases h)
  cases hparse : cJSONParse (K := K) text with
  | none => rfl
  | some item =>
    obtain ⟨x, rfl⟩ := h item hparse
    rfl

theorem wfMessageParse_cut (d : Datagram) (g : Globals K) :
    wfMessageParse host config d.time d.arrival.text g =
      wfMessageParse host config d.time (d.kept K) g := by
  unfold Datagram.kept
  split
  · rename_i hcut
    rw [wfMessageParse_untyped (Datagram.complete_eq_false.mp hcut.2)]
    refine (wfMessageParse_untyped (fun item hitem => ?_) g).symm
    cases (show none = some item from hitem)
  · rename_i hwhole
    rcases le_or_gt d.bytes.length 1024 with hfits | hlong
    · rw [d.arrival_text hfits]
    · have hcomplete : ¬ d.complete K = false := fun hfalse => hwhole ⟨hlong, hfalse⟩
      rw [Datagram.complete_eq_false] at hcomplete
      obtain ⟨item, hitem⟩ := not_forall.mp hcomplete
      obtain ⟨hparse, hnumber⟩ := Classical.not_imp.mp hitem
      obtain ⟨rest, hrest⟩ := d.text_eq
      refine wfMessageParse_congr ?_ g
      rw [hrest, hparse, cJSONParse_append hparse (fun x hx => hnumber ⟨x, hx⟩)]

theorem roundOn_cut (d : Datagram) (s : LoopState K) :
    roundOn host config d.time d.arrival.text s = roundOn host config d.time (d.kept K) s := by
  simp only [roundOn, wfMessageParse_cut]

-- ---------------------------------------------------------------------------
-- Runs
-- ---------------------------------------------------------------------------

variable (host config)

def roomyLoop (s : LoopState K) (messages : List (Int × CString)) : Except Fault (LoopState K) :=
  messages.foldlM (fun s m => do
    let (s, _) ← roundOn host config m.1 m.2 s
    return s) s

def frameLoop (s : LoopState K) (frame : CString) (ds : List Datagram) :
    Except Fault (LoopState K × CString) :=
  ds.foldlM (fun (s, frame) d => do
    let frame := d.store frame
    let (s, _) ← roundOn host config d.time (frame.takeWhile (· ≠ Char.ofNat 0)) s
    return (s, frame)) (s, frame)

theorem loop_cons (a : Arrival) (arrivals : List Arrival) (s : LoopState K) :
    loop host config s (a :: arrivals) =
      loopBody host config a s >>= fun next => loop host config next.1 arrivals := by
  rw [loop, List.foldlM_cons, bind_assoc]
  rfl

theorem frameLoop_cons (d : Datagram) (ds : List Datagram) (s : LoopState K) (frame : CString) :
    frameLoop host config s frame (d :: ds) =
      loopBody host config d.arrival s >>= fun next =>
        frameLoop host config next.1 (d.store frame) ds := by
  rw [frameLoop, List.foldlM_cons, bind_assoc, d.takeWhile_store]
  rfl

theorem frameLoop_eq (ds : List Datagram) (s : LoopState K) (frame : CString) :
    frameLoop host config s frame ds = (loop host config s (ds.map Datagram.arrival)).map
      (·, ds.foldl (fun frame d => d.store frame) frame) := by
  induction ds generalizing s frame with
  | nil => rfl
  | cons d ds ih =>
    rw [frameLoop_cons, List.map_cons, loop_cons]
    cases loopBody host config d.arrival s with
    | error fault => rfl
    | ok next => exact ih next.1 (d.store frame)

theorem loop_kept (ds : List Datagram) (s : LoopState K) :
    loop host config s (ds.map Datagram.arrival) =
      roomyLoop host config s (ds.map fun d => (d.time, d.kept K)) := by
  induction ds generalizing s with
  | nil => rfl
  | cons d ds ih =>
    have hround : loopBody host config d.arrival s = roundOn host config d.time (d.kept K) s :=
      roundOn_cut d s
    rw [List.map_cons, loop_cons, hround, List.map_cons, roomyLoop, List.foldlM_cons, bind_assoc]
    congr 1
    funext next
    exact ih next.1

theorem drop_foldl_store (ds : List Datagram) (frame : CString) :
    (ds.foldl (fun frame d => d.store frame) frame).drop 1024 =
      if ∃ d ∈ ds, 1024 ≤ d.bytes.length then Char.ofNat 0 :: frame.drop 1025
      else frame.drop 1024 := by
  induction ds generalizing frame with
  | nil => simp
  | cons d ds ih =>
    have hrest : (d.store frame).drop 1025 = frame.drop 1025 := by
      rw [show (1025 : Nat) = 1024 + 1 from rfl, ← List.drop_drop, ← List.drop_drop, d.drop_store]
      split <;> simp
    rw [List.foldl_cons, ih, hrest, d.drop_store]
    by_cases hlater : ∃ d ∈ ds, 1024 ≤ d.bytes.length
    · simp [hlater]
    · by_cases hlong : 1024 ≤ d.bytes.length
      · simp [hlater, hlong]
      · simp [hlater, hlong]

/-- Whatever is sent, the program does what it would do with a line of any length, had
the cut datagrams been empty in which no value is complete; and of the memory behind
`line` it changes the first byte, if a datagram fills the line. -/
theorem loop_cut (host : Host K) (config : Config K) (ds : List Datagram) (s : LoopState K)
    (frame : CString) :
    ∃ frame', frameLoop host config s frame ds =
        (roomyLoop host config s (ds.map fun d => (d.time, d.kept K))).map (·, frame') ∧
      frame'.drop 1024 =
        if ∃ d ∈ ds, 1024 ≤ d.bytes.length then Char.ofNat 0 :: frame.drop 1025
        else frame.drop 1024 :=
  ⟨_, by rw [frameLoop_eq, loop_kept], drop_foldl_store ds frame⟩

end

end WfPublisher
