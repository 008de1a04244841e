import Mathlib
import WfPublisher.Double
import WfPublisher.Lib.Fallible

/-!
# cJSON items and the lookups on them

A `cJSON *` is an `Option` of an item. The constructors carry what the parser
and the `cJSON_Create` functions put into an item of that type, so an array's
children have no names and an object's children all have one; every other
field of the C structure is read off by an accessor. Reading through a null
pointer stops the program.
-/

namespace WfPublisher

/-- The bytes of a C string before its NUL, each as the character of that code. -/
abbrev CString := List Char

instance lawfulCString : LawfulBEq CString := inferInstance

inductive Fault
  | nullDeref
  deriving DecidableEq, Repr

def deref {α : Type} : Option α → Except Fault α
  | some a => .ok a
  | none => .error .nullDeref

-- ---------------------------------------------------------------------------
-- Reading through a pointer
-- ---------------------------------------------------------------------------

section
variable {α : Type}

theorem deref_ok {p : Option α} {a : α} : deref p = .ok a ↔ p = some a := by
  cases p <;> simp [deref]

@[simp] theorem deref_some (a : α) : deref (some a) = .ok a := rfl

@[simp] theorem deref_none : deref (none : Option α) = .error .nullDeref := rfl

end

-- ---------------------------------------------------------------------------
-- Items
-- ---------------------------------------------------------------------------

inductive CJson (K : Type)
  | null
  | bool (value : Bool)
  | number (valuedouble : K)
  | string (valuestring : CString)
  | array (items : List (CJson K))
  | object (members : List (CString × CJson K))

namespace CJson

variable {K : Type}

/-- The `next` chain of the children, each with its `string` field. -/
def child : CJson K → List (Option CString × CJson K)
  | .array items => items.map fun item => (none, item)
  | .object members => members.map fun m => (some m.1, m.2)
  | _ => []

def valuestring : CJson K → Option CString
  | .string s => some s
  | _ => none

section
variable [Zero K]

def valuedouble : CJson K → K
  | .number d => d
  | _ => 0

end

section
variable [Neg K] [OfScientific K] [LE K] [DecidableLE K] [CDouble K]

/-- The cast to `int`, saturating as `parse_number` and `cJSON_CreateNumber` do. -/
def toInt (d : K) : Int :=
  if 2147483647.0 ≤ d then intMax
  else if d ≤ -2147483648.0 then intMin
  else castInt (CDouble.trunc d)

def valueint : CJson K → Int
  | .bool true => 1
  | .number d => toInt d
  | _ => 0

end

theorem toInt_intCast [Field K] [LinearOrder K] [FloorRing K] [IsStrictOrderedRing K] {n : Int}
    (h : intMin ≤ n ∧ n ≤ intMax) : toInt (n : K) = n := by
  have hmax : (2147483647.0 : K) = (intMax : K) := by norm_num [intMax]
  have hmin : (-2147483648.0 : K) = (intMin : K) := by norm_num [intMin]
  have htrunc : CDouble.trunc (n : K) = some n := by simp [CDouble.trunc]
  unfold toInt
  rw [hmax, hmin, htrunc, castInt_some h]
  split_ifs with habove hbelow
  · have : intMax ≤ n := by exact_mod_cast habove
    omega
  · have : n ≤ intMin := by exact_mod_cast hbelow
    omega
  · rfl

end CJson

-- ---------------------------------------------------------------------------
-- Lookups
-- ---------------------------------------------------------------------------

section
variable {K : Type}

def items (array : Option (CJson K)) : List (CJson K) :=
  match array with
  | none => []
  | some item => item.child.map Prod.snd

def getArraySize (array : Option (CJson K)) : Nat :=
  match array with
  | none => 0
  | some item => item.child.length

/-- No caller passes a negative index, for which the C function returns null. -/
def getArrayItem (array : Option (CJson K)) (index : Nat) : Option (CJson K) :=
  match array with
  | none => none
  | some item => (item.child[index]?).map Prod.snd

/-- The first child with the name: `strcmp` reads every name up to it, and the
children of an array have none. -/
def findChild (name : CString) : List (Option CString × CJson K) →
    Except Fault (Option (CJson K))
  | [] => .ok none
  | (none, _) :: _ => .error .nullDeref
  | (some string, item) :: next => if name = string then .ok (some item) else findChild name next

def getObjectItemCaseSensitive (object : Option (CJson K)) (name : CString) :
    Except Fault (Option (CJson K)) :=
  match object with
  | none => .ok none
  | some item => findChild name item.child

theorem getArrayItem_eq (array : Option (CJson K)) (index : Nat) :
    getArrayItem array index = (items array)[index]? := by
  cases array <;> simp [getArrayItem, items]

theorem length_items (array : Option (CJson K)) : (items array).length = getArraySize array := by
  cases array <;> simp [getArraySize, items]

@[simp] theorem items_none : items (none : Option (CJson K)) = [] := rfl

def forEachItem {σ : Type} (array : Option (CJson K))
    (body : Option (CJson K) → σ → Except Fault σ) (s : σ) : Except Fault σ :=
  (List.range (getArraySize array)).foldlM (fun s i => body (getArrayItem array i) s) s

theorem foldlM_range_getElem {ι σ : Type} (xs : List ι) (body : Option ι → σ → Except Fault σ)
    (s : σ) : (List.range xs.length).foldlM (fun s i => body xs[i]? s) s =
      xs.foldlM (fun s x => body (some x) s) s := by
  induction xs generalizing s with
  | nil => rfl
  | cons x xs ih =>
    rw [List.length_cons, List.range_succ_eq_map, List.foldlM_cons, List.foldlM_cons]
    congr 1
    funext s'
    rw [List.foldlM_map]
    simpa using ih s'

theorem forEachItem_eq {σ : Type} (array : Option (CJson K))
    (body : Option (CJson K) → σ → Except Fault σ) (s : σ) :
    forEachItem array body s = (items array).foldlM (fun s item => body (some item) s) s := by
  rw [← foldlM_range_getElem, forEachItem, length_items]
  simp only [getArrayItem_eq]

-- ---------------------------------------------------------------------------
-- Building objects
-- ---------------------------------------------------------------------------

def createObject : CJson K := .object []

/-- Appends at the end of the children; only objects are ever added to. -/
def addItemToObject (object : CJson K) (name : CString) (item : CJson K) : CJson K :=
  match object with
  | .object members => .object (members ++ [(name, item)])
  | other => other

def addNumberToObject (object : CJson K) (name : CString) (number : K) : CJson K :=
  addItemToObject object name (.number number)

end

end WfPublisher
