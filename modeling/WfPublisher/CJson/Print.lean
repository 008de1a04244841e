import Mathlib
import WfPublisher.CJson.Parse
import WfPublisher.Lib.Decimal

/-!
# `cJSON_Print` and `cJSON_PrintUnformatted`

The text that is printed into a buffer that never runs out, or `none` where the
C function returns false. A `double` is an element of the field that binary64
represents, so there is neither a NaN nor an infinity to print as `null`.
-/

namespace WfPublisher

open CJson

-- ---------------------------------------------------------------------------
-- Numbers
-- ---------------------------------------------------------------------------

section
variable {K : Type} [Field K] [LinearOrder K] [FloorRing K]

/-- The double that `strtod` and `sscanf` read from a text of this value. -/
def toDouble (x : K) : K := Rounding.binary64.nearest x

def printNumber (d : K) : Option CString :=
  let numberBuffer := (Decimal.printG 15 d).text
  let test := (strtod (K := K) numberBuffer).map fun (value, _) => toDouble value
  let numberBuffer := if test = some d then numberBuffer else (Decimal.printG 17 d).text
  if numberBuffer.length ≤ 25 then some numberBuffer else none

end

-- ---------------------------------------------------------------------------
-- Strings
-- ---------------------------------------------------------------------------

def escape (c : Char) : CString :=
  if 31 < c.toNat ∧ c ≠ '"' ∧ c ≠ '\\' then [c]
  else if c = '\\' then ['\\', '\\']
  else if c = '"' then ['\\', '"']
  else if c = Char.ofNat 8 then ['\\', 'b']
  else if c = Char.ofNat 12 then ['\\', 'f']
  else if c = '\n' then ['\\', 'n']
  else if c = '\r' then ['\\', 'r']
  else if c = '\t' then ['\\', 't']
  else '\\' :: 'u' :: (Nat.toDigits 16 c.toNat).leftpad 4 '0'

def printStringPtr (input : CString) : CString := '"' :: (input.flatMap escape ++ ['"'])

-- ---------------------------------------------------------------------------
-- Values
-- ---------------------------------------------------------------------------

section
variable {K : Type} [Field K] [LinearOrder K] [FloorRing K] (format : Bool)

/-- What only a formatted print writes. -/
def formatted (text : CString) : CString := if format then text else []

def tabs (depth : Nat) : CString := List.replicate depth '\t'

mutual

def printValue (depth : Nat) : CJson K → Option CString
  | .null => some "null".toList
  | .bool false => some "false".toList
  | .bool true => some "true".toList
  | .number d => printNumber d
  | .string s => some (printStringPtr s)
  | .array items => do
    let elements ← printElements (depth + 1) items
    some ('[' :: (elements ++ [']']))
  | .object members => do
    let lines ← printMembers (depth + 1) members
    some ('{' :: (formatted format ['\n'] ++ lines ++ formatted format (tabs depth) ++ ['}']))

def printElements (depth : Nat) : List (CJson K) → Option CString
  | [] => some []
  | item :: next => do
    let text ← printValue depth item
    let rest ← printElements depth next
    some (text ++ (if next.isEmpty then [] else ',' :: formatted format [' ']) ++ rest)

def printMembers (depth : Nat) : List (CString × CJson K) → Option CString
  | [] => some []
  | (name, item) :: next => do
    let text ← printValue depth item
    let rest ← printMembers depth next
    some (formatted format (tabs depth) ++ printStringPtr name ++
      ':' :: (formatted format ['\t'] ++ text ++ (if next.isEmpty then [] else [',']) ++
        formatted format ['\n'] ++ rest))

end

end

end WfPublisher
