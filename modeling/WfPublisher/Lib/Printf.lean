import Mathlib

/-!
# Numbers as `printf` writes them

Decimal texts of integers and of the elements of an ordered field, their lengths
and what can be read back from them.
-/

namespace Printf

-- ---------------------------------------------------------------------------
-- Digits
-- ---------------------------------------------------------------------------

/-- The digits of a number, at least so many. -/
def digits (width n : Nat) : List Char := (Nat.toDigits 10 n).leftpad width '0'

theorem length_digits {width n : Nat} (hwidth : 0 < width) :
    (digits width n).length = width ↔ n < 10 ^ width := by
  rw [digits, List.length_leftpad, max_eq_left_iff]
  exact Nat.length_toDigits_le_iff (by decide) hwidth

theorem le_length_digits (width n : Nat) : width ≤ (digits width n).length := by
  rw [digits, List.length_leftpad]
  exact le_max_left _ _

theorem isDigit_of_mem_digits {width n : Nat} {c : Char} (h : c ∈ digits width n) :
    c.isDigit = true := by
  obtain h | h := List.mem_append.mp h
  · cases List.eq_of_mem_replicate h
    rfl
  · exact Nat.isDigit_of_mem_toDigits (by decide) (by decide) h

theorem filter_digits (width n : Nat) : (digits width n).filter Char.isDigit = digits width n :=
  List.filter_eq_self.mpr fun _ => isDigit_of_mem_digits

theorem digits_ne_nil (width n : Nat) : digits width n ≠ [] := by
  intro h
  exact Nat.toDigits_ne_nil (List.append_eq_nil_iff.mp h).2

@[simp] theorem ofDigitChars_digits (width n : Nat) :
    Nat.ofDigitChars 10 (digits width n) 0 = n := by
  simp [digits, List.leftpad, Nat.ofDigitChars_append]

-- ---------------------------------------------------------------------------
-- Integers
-- ---------------------------------------------------------------------------

def printD (width : Nat) (n : Int) : List Char :=
  if n < 0 then '-' :: digits (width - 1) n.natAbs else digits width n.natAbs

def readD : List Char → Option Int
  | '-' :: rest =>
    if rest ≠ [] ∧ rest.all Char.isDigit then some (-(Nat.ofDigitChars 10 rest 0 : Int)) else none
  | text =>
    if text ≠ [] ∧ text.all Char.isDigit then some (Nat.ofDigitChars 10 text 0 : Int) else none

theorem all_isDigit_digits (width n : Nat) : (digits width n).all Char.isDigit = true :=
  List.all_eq_true.mpr fun _ => isDigit_of_mem_digits

theorem readD_digits (width n : Nat) : readD (digits width n) = some (n : Int) := by
  unfold readD
  split
  · rename_i rest h
    have hmem : '-' ∈ digits width n := by simp [h]
    cases isDigit_of_mem_digits hmem
  · rw [if_pos ⟨digits_ne_nil width n, all_isDigit_digits width n⟩, ofDigitChars_digits]

theorem readD_printD (width : Nat) (n : Int) : readD (printD width n) = some n := by
  unfold printD
  split
  · rename_i hneg
    rw [readD, if_pos ⟨digits_ne_nil _ _, all_isDigit_digits _ _⟩, ofDigitChars_digits]
    exact congrArg some (by omega)
  · rename_i hpos
    rw [readD_digits]
    exact congrArg some (by omega)

theorem le_length_printD (width : Nat) (n : Int) : width ≤ (printD width n).length := by
  unfold printD
  split
  · have := le_length_digits (width - 1) n.natAbs
    rw [List.length_cons]
    omega
  · exact le_length_digits width n.natAbs

theorem length_digits_int {width n : Nat} (hwidth : 0 < width) :
    (digits width n).length = width ↔ (n : Int) < 10 ^ width := by
  rw [length_digits hwidth]
  exact_mod_cast Iff.rfl

theorem length_printD {width : Nat} {n : Int} (hwidth : 1 < width) :
    (printD width n).length = width ↔ -10 ^ (width - 1) < n ∧ n < 10 ^ width := by
  unfold printD
  split
  · rename_i hneg
    have hlength : (digits (width - 1) n.natAbs).length = width - 1 ↔
        (n.natAbs : Int) < 10 ^ (width - 1) := length_digits_int (by omega)
    have hpos : (0 : Int) < 10 ^ width := by positivity
    rw [List.length_cons]
    constructor
    · intro h
      have := hlength.mp (by omega)
      constructor <;> omega
    · rintro ⟨hlower, -⟩
      have := hlength.mpr (by omega)
      omega
  · rename_i hpos
    have hlower : (0 : Int) < 10 ^ (width - 1) := by positivity
    rw [length_digits_int (by omega)]
    constructor
    · intro h
      constructor <;> omega
    · rintro ⟨-, h⟩
      omega

-- ---------------------------------------------------------------------------
-- Reals
-- ---------------------------------------------------------------------------

section
variable {K : Type*} [Field K] [LinearOrder K] [FloorRing K]

def roundHalfEven (x : K) : Int :=
  if Int.fract x < 0.5 then ⌊x⌋
  else if Int.fract x > 0.5 then ⌊x⌋ + 1
  else if ⌊x⌋ % 2 = 0 then ⌊x⌋ else ⌊x⌋ + 1

/-- How many units of the last decimal place the text shows. -/
def units (decimals : Nat) (x : K) : Nat := (roundHalfEven (|x| * 10.0 ^ decimals)).toNat

def signOf (x : K) : List Char := if x < 0 then ['-'] else []

/-- `%.<decimals>f`, of a finite value and with one decimal at least. -/
def printF (decimals : Nat) (x : K) : List Char :=
  signOf x ++ digits 1 (units decimals x / 10 ^ decimals) ++
    '.' :: digits decimals (units decimals x % 10 ^ decimals)

/-- On the same side of zero, and so many units. -/
def Alike (decimals : Nat) (x y : K) : Prop :=
  (x < 0 ↔ y < 0) ∧ units decimals x = units decimals y

instance (decimals : Nat) (x y : K) : Decidable (Alike decimals x y) :=
  inferInstanceAs (Decidable (_ ∧ _))

variable {decimals : Nat} {x y : K}

def extent (decimals : Nat) (x : K) : Nat :=
  (signOf x).length + (digits 1 (units decimals x / 10 ^ decimals)).length

theorem length_fraction (hdecimals : 0 < decimals) (n : Nat) :
    (digits decimals (n % 10 ^ decimals)).length = decimals :=
  (length_digits hdecimals).mpr (Nat.mod_lt _ (by positivity))

theorem length_printF (hdecimals : 0 < decimals) :
    (printF decimals x).length = extent decimals x + (decimals + 1) := by
  simp [printF, extent, length_fraction hdecimals]
  omega

theorem mem_printF {c : Char} (h : c ∈ printF decimals x) :
    c.isDigit = true ∨ c = '.' ∨ c = '-' := by
  simp only [printF, List.mem_append, List.mem_cons] at h
  obtain (h | h) | rfl | h := h
  · unfold signOf at h
    split at h
    · exact .inr (.inr (List.mem_singleton.mp h))
    · cases h
  · exact .inl (isDigit_of_mem_digits h)
  · exact .inr (.inl rfl)
  · exact .inl (isDigit_of_mem_digits h)

theorem filter_printF : (printF decimals x).filter Char.isDigit =
    digits 1 (units decimals x / 10 ^ decimals) ++
      digits decimals (units decimals x % 10 ^ decimals) := by
  have hsign : (signOf x).filter Char.isDigit = [] := by
    unfold signOf
    split <;> rfl
  have hpoint : ('.' :: digits decimals (units decimals x % 10 ^ decimals)).filter Char.isDigit =
      digits decimals (units decimals x % 10 ^ decimals) := by
    rw [List.filter_cons_of_neg (by decide), filter_digits]
  rw [printF, List.filter_append, List.filter_append, hsign, hpoint, filter_digits, List.nil_append]

theorem ofDigitChars_printF (hdecimals : 0 < decimals) :
    Nat.ofDigitChars 10 ((printF decimals x).filter Char.isDigit) 0 = units decimals x := by
  rw [filter_printF, Nat.ofDigitChars_append, ofDigitChars_digits,
    Nat.ofDigitChars_eq_ofDigitChars_zero, length_fraction hdecimals, ofDigitChars_digits]
  exact Nat.div_add_mod _ _

theorem minus_mem_printF (decimals : Nat) : '-' ∈ printF decimals x ↔ x < 0 := by
  constructor
  · intro h
    by_contra hpos
    simp only [printF, signOf, if_neg hpos, List.nil_append, List.mem_append, List.mem_cons] at h
    obtain h | h | h := h
    · cases isDigit_of_mem_digits h
    · simp at h
    · cases isDigit_of_mem_digits h
  · intro hneg
    simp [printF, signOf, hneg]

theorem printF_eq_iff (hdecimals : 0 < decimals) :
    printF decimals x = printF decimals y ↔ Alike decimals x y := by
  constructor
  · intro h
    constructor
    · rw [← minus_mem_printF decimals, h, minus_mem_printF]
    · rw [← ofDigitChars_printF hdecimals, h, ofDigitChars_printF hdecimals]
  · rintro ⟨hsign, hunits⟩
    simp only [printF, signOf, hsign, hunits]

end

end Printf
