import Mathlib
import WfPublisher.Config
import WfPublisher.CJson.Lookups
import WfPublisher.CJson.ParseMemory
import WfPublisher.Receive.Truncation

/-!
# The items of a run

The program with the memory of its items: the configuration is parsed, its mapping
copied and the rest freed; each message is parsed and freed. Whatever allocations
are refused, every block is freed once and none is left.
-/

namespace WfPublisher.CJsonMemory

open Memory Fallible
open Forest (Node Laid)

variable {K : Type} [Field K] [LinearOrder K] [FloorRing K]

-- ---------------------------------------------------------------------------
-- The program
-- ---------------------------------------------------------------------------

/-- What a function returns unless it reads through a null pointer, and the memory. -/
abbrev Ran (K α : Type) := Except Fault α × Heap (Block K)

section
variable (m : Allocator (Block K)) (host : Host K) (config : Config K)

/-- The mapping is read where `sensorMapping` points to. -/
def wfMessageParse (sensorMapping : Option Addr) (now : Int) (msg : CString) (g : Globals K)
    (h : Heap (Block K)) : Option (Ran K (ℕ × Globals K)) := do
  let (msgJson, h) ← cJSONParse m msg h
  let item ← load h msgJson
  let mapping ← load h sensorMapping
  match handleMessage host { config with sensorMapping := mapping } now item g with
  | .error fault => return (.error fault, h)
  | .ok r => return (.ok r, ← cJSONDelete msgJson h)

def loopBody (sensorMapping : Option Addr) (a : Arrival) (s : LoopState K) (h : Heap (Block K)) :
    Option (Ran K (LoopState K × Bool)) := do
  let s := checkDay host a.time s
  match ← wfMessageParse m host config sensorMapping a.time a.text s.globals h with
  | (.error fault, h) => return (.error fault, h)
  | (.ok (ret, globals), h) => return (.ok (s.raise ret globals), h)

def loop (sensorMapping : Option Addr) :
    List Arrival → LoopState K → Heap (Block K) → Option (Ran K (LoopState K))
  | [], s, h => some (.ok s, h)
  | a :: arrivals, s, h => do
    match ← loopBody m host config sensorMapping a s h with
    | (.error fault, h) => return (.error fault, h)
    | (.ok (s, _), h) => loop sensorMapping arrivals s h

end

-- ---------------------------------------------------------------------------
-- The loop
-- ---------------------------------------------------------------------------

section
variable {m : Allocator (Block K)} (host : Host K) {config : Config K} {sensorMapping : Option Addr}
  {h : Heap (Block K)}

end

-- ---------------------------------------------------------------------------
-- The whole run
-- ---------------------------------------------------------------------------

section
variable {m : Allocator (Block K)} {h h' : Heap (Block K)}

omit [Field K] [LinearOrder K] [FloorRing K] in
theorem Fresh.nil (hsame : Changes [] h h') : Fresh h h' none .nil := by
  have hfresh : Fresh h h none .nil := ⟨Grows.refl h, rfl⟩
  exact hfresh.same hsame

structure Balanced (m : Allocator (Block K)) (h h' : Heap (Block K))
    (r model : Except Fault (LoopState K)) : Prop where
  freed : ∀ s, r = .ok s → ∀ a, h'.lookup a = h.lookup a
  computed : m.Total → r = model

def Readable : Option CString → Prop
  | none => True
  | some bytes => bytes ≠ [] ∧ bytes.length < 4096

end

end WfPublisher.CJsonMemory
