import Mathlib
import WfPublisher.CJson.Accepted
import WfPublisher.Lib.TextBuffer

/-!
# The print buffer

The printer as it writes: into a block that grows, at an offset that is brought
up to date after each value. It never writes outside the block, and what it
leaves there is what is printed without one.
-/

namespace WfPublisher

open TextBuffer

-- ---------------------------------------------------------------------------
-- Memory
-- ---------------------------------------------------------------------------

/-- The hooks: blocks have the size that was asked for and `realloc` keeps what
fits. One print asks for growing sizes, so no call is ever repeated. -/
structure Hooks where
  allocate : ℕ → Option CString
  reallocate : CString → ℕ → Option CString
  length_allocate : ∀ {size block}, allocate size = some block → block.length = size
  length_reallocate : ∀ {old size block}, reallocate old size = some block → block.length = size
  reallocate_keeps : ∀ {old size block}, reallocate old size = some block →
    old.take size <+: block

def Hooks.Total (hooks : Hooks) : Prop :=
  (∀ size, hooks.allocate size ≠ none) ∧ ∀ old size, hooks.reallocate old size ≠ none

inductive Stop
  /-- A byte outside the block is written or read. -/
  | overrun
  /-- The C function returns false. -/
  | refused
  deriving DecidableEq

/-- `length` is that of the block. -/
structure PrintBuffer where
  buffer : Option CString
  offset : ℕ
  depth : ℕ
  format : Bool

namespace PrintBuffer

def ensure (hooks : Hooks) (needed : ℕ) (p : PrintBuffer) : Except Stop PrintBuffer :=
  match p.buffer with
  | none => .error .refused
  | some buffer =>
    let resize (newsize : ℕ) : Except Stop PrintBuffer :=
      match hooks.reallocate buffer newsize with
      | none => .error .refused
      | some newbuffer => .ok { p with buffer := some newbuffer }
    if 0 < buffer.length ∧ buffer.length ≤ p.offset then .error .refused
    else if intMax < needed then .error .refused
    else
      let needed := needed + p.offset + 1
      if needed ≤ buffer.length then .ok p
      else if intMax / 2 < needed then
        if (needed : ℤ) ≤ intMax then resize intMax.toNat else .error .refused
      else resize (needed * 2)

def updateOffset (p : PrintBuffer) : Except Stop PrintBuffer :=
  match p.buffer with
  | none => .ok p
  | some buffer =>
    match strlen buffer p.offset with
    | none => .error .overrun
    | some length => .ok { p with offset := p.offset + length }

/-- Bytes written through the output pointer, which is so far behind the offset. -/
def put (ahead : ℕ) (text : CString) (p : PrintBuffer) : Except Stop PrintBuffer :=
  match p.buffer with
  | none => .error .overrun
  | some buffer =>
    match store buffer (p.offset + ahead) text with
    | none => .error .overrun
    | some buffer => .ok { p with buffer := some buffer }

def advance (length : ℕ) (p : PrintBuffer) : PrintBuffer := { p with offset := p.offset + length }

-- ---------------------------------------------------------------------------
-- Numbers and strings
-- ---------------------------------------------------------------------------

section
variable (hooks : Hooks)

def printNumber {K : Type} [Field K] [LinearOrder K] [FloorRing K] (d : K) (p : PrintBuffer) :
    Except Stop PrintBuffer :=
  match WfPublisher.printNumber d with
  | none => .error .refused
  | some numberBuffer => do
    let p ← ensure hooks (numberBuffer.length + 1) p
    let p ← put 0 (numberBuffer ++ [nul]) p
    return advance numberBuffer.length p

def escapeCharacters (c : Char) : ℕ :=
  if c = '"' ∨ c = '\\' ∨ c = Char.ofNat 8 ∨ c = Char.ofNat 12 ∨ c = '\n' ∨ c = '\r' ∨
      c = '\t' then 1
  else if c.toNat < 32 then 5
  else 0

def escapeLetter (c : Char) : Option Char :=
  if c = '\\' then some '\\'
  else if c = '"' then some '"'
  else if c = Char.ofNat 8 then some 'b'
  else if c = Char.ofNat 12 then some 'f'
  else if c = '\n' then some 'n'
  else if c = '\r' then some 'r'
  else if c = '\t' then some 't'
  else none

/-- The loop that copies and escapes. `sprintf` writes a NUL behind its digits,
which the next round overwrites. -/
def escapeLoop : CString → ℕ → PrintBuffer → Except Stop PrintBuffer
  | [], _, p => .ok p
  | c :: input, ahead, p =>
    if 31 < c.toNat ∧ c ≠ '"' ∧ c ≠ '\\' then do
      let p ← put ahead [c] p
      escapeLoop input (ahead + 1) p
    else do
      let p ← put ahead ['\\'] p
      match escapeLetter c with
      | some letter =>
        let p ← put (ahead + 1) [letter] p
        escapeLoop input (ahead + 2) p
      | none =>
        let p ← put (ahead + 1) ('u' :: ((Nat.toDigits 16 c.toNat).leftpad 4 '0' ++ [nul])) p
        escapeLoop input (ahead + 6) p

def printStringPtr (input : CString) (p : PrintBuffer) : Except Stop PrintBuffer := do
  let escapeCharacters := (input.map escapeCharacters).sum
  let outputLength := input.length + escapeCharacters
  let p ← ensure hooks (outputLength + 3) p
  let p ← put 0 ['"'] p
  let p ← if escapeCharacters = 0 then put 1 input p else escapeLoop input 1 p
  let p ← put (outputLength + 1) ['"'] p
  put (outputLength + 2) [nul] p

end

-- ---------------------------------------------------------------------------
-- Values
-- ---------------------------------------------------------------------------

section
variable {K : Type} [Field K] [LinearOrder K] [FloorRing K] (hooks : Hooks)

def printWord (word : CString) (p : PrintBuffer) : Except Stop PrintBuffer := do
  let p ← ensure hooks (word.length + 1) p
  put 0 (word ++ [nul]) p

mutual

def printValue : CJson K → PrintBuffer → Except Stop PrintBuffer
  | .null, p => printWord hooks "null".toList p
  | .bool false, p => printWord hooks "false".toList p
  | .bool true, p => printWord hooks "true".toList p
  | .number d, p => printNumber hooks d p
  | .string s, p => printStringPtr hooks s p
  | .array items, p => do
    let p ← ensure hooks 1 p
    let p ← put 0 ['['] p
    let p ← printElements items { advance 1 p with depth := p.depth + 1 }
    let p ← ensure hooks 2 p
    let p ← put 0 [']', nul] p
    return { p with depth := p.depth - 1 }
  | .object members, p => do
    let length := if p.format then 2 else 1
    let p ← ensure hooks (length + 1) p
    let p ← put 0 ('{' :: formatted p.format ['\n']) p
    let p ← printMembers members { advance length p with depth := p.depth + 1 }
    let p ← ensure hooks (if p.format then p.depth + 1 else 2) p
    let p ← put 0 (formatted p.format (tabs (p.depth - 1)) ++ ['}', nul]) p
    return { p with depth := p.depth - 1 }

def printElements : List (CJson K) → PrintBuffer → Except Stop PrintBuffer
  | [], p => .ok p
  | item :: next, p => do
    let p ← printValue item p
    let p ← updateOffset p
    let p ←
      if next.isEmpty then pure p
      else do
        let length := if p.format then 2 else 1
        let p ← ensure hooks (length + 1) p
        let p ← put 0 (',' :: (formatted p.format [' '] ++ [nul])) p
        pure (advance length p)
    printElements next p

def printMembers : List (CString × CJson K) → PrintBuffer → Except Stop PrintBuffer
  | [], p => .ok p
  | (name, item) :: next, p => do
    let p ←
      if p.format then do
        let p ← ensure hooks p.depth p
        let p ← put 0 (tabs p.depth) p
        pure (advance p.depth p)
      else pure p
    let p ← printStringPtr hooks name p
    let p ← updateOffset p
    let length := if p.format then 2 else 1
    let p ← ensure hooks length p
    let p ← put 0 (':' :: formatted p.format ['\t']) p
    let p := advance length p
    let p ← printValue item p
    let p ← updateOffset p
    let length := (if p.format then 1 else 0) + (if next.isEmpty then 0 else 1)
    let p ← ensure hooks (length + 1) p
    let p ← put 0 ((if next.isEmpty then [] else [',']) ++ formatted p.format ['\n'] ++ [nul]) p
    printMembers next (advance length p)

end

end

end PrintBuffer

section
variable {K : Type} [Field K] [LinearOrder K] [FloorRing K]

def print (hooks : Hooks) (format : Bool) (item : CJson K) : Except Stop (Option CString) :=
  match hooks.allocate 256 with
  | none => .ok none
  | some buffer =>
    match PrintBuffer.printValue hooks item ⟨some buffer, 0, 0, format⟩ >>=
        PrintBuffer.updateOffset with
    | .error .overrun => .error .overrun
    | .error .refused => .ok none
    | .ok p => .ok (p.buffer.bind fun buffer => hooks.reallocate buffer (p.offset + 1))

end

end WfPublisher
