import Mathlib
import WfPublisher.Lib.Printf

/-!
# `double`

The model leaves the type of its numbers open. Over an ordered field arithmetic
is exact, which is what most results are about. `Float` is the machine's: every
result is rounded, what is too large is an infinity, and zero has a sign. The
definitions are the same for both; what the program does with a number besides
arithmetic and comparisons is given for each.
-/

namespace WfPublisher

def intMax : Int := 2147483647
def intMin : Int := -2147483648

class CDouble (K : Type) where
  /-- What `strtod` returns for so many units of a power of ten. -/
  ofDecimal (mantissa : ℕ) (exponent : ℤ) : K
  /-- The integer part of a finite number. -/
  trunc : K → Option ℤ
  /-- `round`, of a finite number. -/
  round : K → Option ℤ
  /-- `%.<decimals>f`, with one decimal at least. -/
  printF (decimals : ℕ) : K → List Char

/-- The cast of an integral `double` to `int`. Where there is no such `int`, the
cast of x86-64 gives the smallest one. -/
def castInt : Option ℤ → Int
  | some n => if intMin ≤ n ∧ n ≤ intMax then n else intMin
  | none => intMin

theorem castInt_some {n : ℤ} (h : intMin ≤ n ∧ n ≤ intMax) : castInt (some n) = n := if_pos h

-- ---------------------------------------------------------------------------
-- Exact numbers
-- ---------------------------------------------------------------------------

section
variable {K : Type} [Field K] [LinearOrder K] [FloorRing K]

/-- To the nearest integer, halves away from zero. -/
def roundHalfAway (x : K) : Int := if 0 ≤ x then ⌊x + 0.5⌋ else ⌈x - 0.5⌉

instance exactDouble : CDouble K where
  ofDecimal mantissa exponent := mantissa * 10 ^ exponent
  trunc x := some (if 0 ≤ x then ⌊x⌋ else ⌈x⌉)
  round x := some (roundHalfAway x)
  printF := Printf.printF

end

-- ---------------------------------------------------------------------------
-- The machine's numbers
-- ---------------------------------------------------------------------------

open Float.Model.UnpackedFloat

instance natCastFloat : NatCast Float := ⟨Float.ofNat⟩

def signed : Sign → List Char → List Char
  | .negative, text => '-' :: text
  | .positive, text => text

def floatValue (x : Float) : Option ℚ :=
  match x.toModel.unpack with
  | .zero _ => some 0
  | .finite .positive mantissa exponent _ => some (mantissa * 2 ^ exponent)
  | .finite .negative mantissa exponent _ => some (-(mantissa * 2 ^ exponent))
  | .infinity _ | .notANumber => none

/-- No operation on numbers makes a NaN without the sign bit on x86-64. -/
def printFloat (decimals : ℕ) (x : Float) : List Char :=
  match x.toModel.unpack with
  | .zero sign => signed sign (Printf.printF decimals (0 : ℚ))
  | .finite sign mantissa exponent _ =>
    signed sign (Printf.printF decimals (mantissa * 2 ^ exponent : ℚ))
  | .infinity sign => signed sign "inf".toList
  | .notANumber => "-nan".toList

theorem length_printFloat {decimals : ℕ} (hdecimals : 0 < decimals) {x : Float} {v : ℚ}
    (h : floatValue x = some v) : ∃ sign ≤ 1, (printFloat decimals x).length =
      sign + (Printf.digits 1 (Printf.units decimals v / 10 ^ decimals)).length +
        (decimals + 1) := by
  have hsigned (sign : Sign) {v w : ℚ} (hv : 0 ≤ v) (hw : |w| = v) : ∃ n ≤ 1,
      (signed sign (Printf.printF decimals v)).length =
        n + (Printf.digits 1 (Printf.units decimals w / 10 ^ decimals)).length +
          (decimals + 1) := by
    have hlength : (Printf.printF decimals v).length =
        (Printf.digits 1 (Printf.units decimals w / 10 ^ decimals)).length + (decimals + 1) := by
      rw [Printf.length_printF hdecimals, Printf.extent, Printf.signOf, if_neg hv.not_gt,
        Printf.units, Printf.units, hw, abs_of_nonneg hv, List.length_nil, Nat.zero_add]
    cases sign with
    | negative => exact ⟨1, le_rfl, by rw [signed, List.length_cons, hlength]; ring⟩
    | positive => exact ⟨0, by decide, by rw [signed, hlength]; ring⟩
  unfold floatValue at h
  unfold printFloat
  cases hx : x.toModel.unpack with
  | zero sign =>
    rw [hx] at h
    cases h
    exact hsigned sign le_rfl abs_zero
  | finite sign mantissa exponent hnormal =>
    rw [hx] at h
    have hpos : (0 : ℚ) ≤ mantissa * 2 ^ exponent := by positivity
    cases sign with
    | positive =>
      cases h
      exact hsigned .positive hpos (abs_of_nonneg hpos)
    | negative =>
      cases h
      exact hsigned .negative hpos (by rw [abs_neg, abs_of_nonneg hpos])
  | infinity sign | notANumber => rw [hx] at h; cases h

instance machineDouble : CDouble Float where
  ofDecimal mantissa exponent := .ofModel (.ofScientific mantissa exponent)
  trunc x := (floatValue x).map fun v => if 0 ≤ v then ⌊v⌋ else ⌈v⌉
  round x := (floatValue x).map roundHalfAway
  printF := printFloat

/-- A sum that is rounded to less than the half it is. -/
example : ((-19.7 : Float) * 1.8 + 32.0) + (-15.3 * 1.8 + 32.0) < 1.0 := by decide +kernel

end WfPublisher
