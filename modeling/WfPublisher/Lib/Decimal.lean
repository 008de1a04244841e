import Mathlib
import WfPublisher.Lib.Printf
import WfPublisher.Lib.Rounding

/-!
# Decimal numerals

The numerals of data formats: a sign, digits without needless leading zeros, a
fraction and an exponent, with the number each one writes. `%g` writes such a
numeral of the nearest number with so many digits.
-/

namespace Decimal

open Printf (digits roundHalfEven)
open Rounding

-- ---------------------------------------------------------------------------
-- Numerals
-- ---------------------------------------------------------------------------

structure Exponent where
  capital : Bool
  sign : List Char
  digits : List Char
  deriving DecidableEq, Repr

/-- No digits after the point means no point. -/
structure Numeral where
  negative : Bool
  whole : List Char
  fraction : List Char
  exponent : Option Exponent
  deriving DecidableEq, Repr

structure Exponent.WellFormed (e : Exponent) : Prop where
  sign : e.sign = [] ∨ e.sign = ['+'] ∨ e.sign = ['-']
  digits_ne_nil : e.digits ≠ []
  isDigit : ∀ c ∈ e.digits, c.isDigit = true

structure Numeral.WellFormed (n : Numeral) : Prop where
  whole_ne_nil : n.whole ≠ []
  whole_isDigit : ∀ c ∈ n.whole, c.isDigit = true
  leading : n.whole.head? = some '0' → n.whole = ['0']
  fraction_isDigit : ∀ c ∈ n.fraction, c.isDigit = true
  exponent : ∀ e ∈ n.exponent, e.WellFormed

def Exponent.text (e : Exponent) : List Char :=
  (if e.capital then 'E' else 'e') :: (e.sign ++ e.digits)

def Exponent.value (e : Exponent) : ℤ :=
  if e.sign = ['-'] then -(Nat.ofDigitChars 10 e.digits 0 : ℤ)
  else (Nat.ofDigitChars 10 e.digits 0 : ℤ)

namespace Numeral

def signText (n : Numeral) : List Char := if n.negative then ['-'] else []

def fractionText (n : Numeral) : List Char :=
  if n.fraction = [] then [] else '.' :: n.fraction

def exponentText (n : Numeral) : List Char := n.exponent.elim [] Exponent.text

def text (n : Numeral) : List Char :=
  n.signText ++ n.whole ++ n.fractionText ++ n.exponentText

def exponentValue (n : Numeral) : ℤ := n.exponent.elim 0 Exponent.value

/-- The digits as one integer, and where their point stands. -/
def magnitude {K : Type*} [Field K] (n : Numeral) : K :=
  (Nat.ofDigitChars 10 (n.whole ++ n.fraction) 0 : K) *
    ((10 : ℕ) : K) ^ (n.exponentValue - (n.fraction.length : ℤ))

def value {K : Type*} [Field K] (n : Numeral) : K :=
  if n.negative then -n.magnitude else n.magnitude

end Numeral

-- ---------------------------------------------------------------------------
-- Digits
-- ---------------------------------------------------------------------------

theorem ofDigitChars_lt {l : List Char} (h : ∀ c ∈ l, c.isDigit = true) :
    Nat.ofDigitChars 10 l 0 < 10 ^ l.length := by
  induction l with
  | nil => simp
  | cons c l ih =>
    have hrest := ih fun d hd => h d (List.mem_cons_of_mem c hd)
    have hc : c.toNat - '0'.toNat ≤ 9 := by
      have hdigit := h c List.mem_cons_self
      simp only [Char.isDigit, Bool.and_eq_true, decide_eq_true_eq] at hdigit
      have : c.toNat ≤ 57 := hdigit.2
      have hzero : '0'.toNat = 48 := rfl
      omega
    rw [Nat.ofDigitChars_cons, Nat.ofDigitChars_eq_ofDigitChars_zero, List.length_cons, pow_succ,
      Nat.mul_zero, Nat.zero_add]
    have := Nat.mul_le_mul_left (10 ^ l.length) hc
    omega

theorem head_digits_ne_zero {p m : ℕ} (hp : 0 < p) (hlow : 10 ^ (p - 1) ≤ m) (hhigh : m < 10 ^ p) :
    (digits p m).head? ≠ some '0' := by
  intro h
  obtain ⟨rest, hrest⟩ := List.head?_eq_some_iff.mp h
  have hlength := (Printf.length_digits hp).mpr hhigh
  have hvalue : Nat.ofDigitChars 10 rest 0 = m := by
    have hall := Printf.ofDigitChars_digits p m
    rw [hrest, Nat.ofDigitChars_cons] at hall
    exact hall
  have hlt : Nat.ofDigitChars 10 rest 0 < 10 ^ rest.length := by
    refine ofDigitChars_lt fun c hc => Printf.isDigit_of_mem_digits (?_ : c ∈ digits p m)
    rw [hrest]
    exact List.mem_cons_of_mem '0' hc
  rw [hrest, List.length_cons] at hlength
  rw [hvalue, show rest.length = p - 1 by omega] at hlt
  omega

def stripZeros (l : List Char) : List Char := l.rdropWhile (· == '0')

theorem exists_stripZeros (l : List Char) :
    ∃ k, l = stripZeros l ++ List.replicate k '0' := by
  refine ⟨(l.rtakeWhile (· == '0')).length, ?_⟩
  have hzeros : l.rtakeWhile (· == '0') =
      List.replicate (l.rtakeWhile (· == '0')).length '0' := by
    refine List.eq_replicate_of_mem fun c hc => ?_
    exact eq_of_beq (List.mem_rtakeWhile_imp (p := (· == '0')) hc)
  rw [← hzeros]
  exact List.rdropWhile_append_rtakeWhile.symm

theorem mem_of_mem_stripZeros {l : List Char} {c : Char} (h : c ∈ stripZeros l) : c ∈ l :=
  (List.rdropWhile_prefix _ _).subset h

theorem length_stripZeros_le (l : List Char) : (stripZeros l).length ≤ l.length :=
  (List.rdropWhile_prefix _ _).length_le

-- ---------------------------------------------------------------------------
-- `%g`
-- ---------------------------------------------------------------------------

/-- `%e`, the zeros at the end left out; `exponent` is that of the first digit. -/
def exponential (negative : Bool) (digits : List Char) (exponent : ℤ) : Numeral where
  negative := negative
  whole := digits.take 1
  fraction := stripZeros (digits.drop 1)
  exponent := some
    { capital := false
      sign := if exponent < 0 then ['-'] else ['+']
      digits := Printf.digits 2 exponent.natAbs }

/-- `%f`, the zeros at the end left out. -/
def positional (negative : Bool) (digits : List Char) (exponent : ℤ) : Numeral where
  negative := negative
  whole := if exponent < 0 then ['0'] else digits.take (exponent.toNat + 1)
  fraction :=
    if exponent < 0 then stripZeros (List.replicate (-exponent - 1).toNat '0' ++ digits)
    else stripZeros (digits.drop (exponent.toNat + 1))
  exponent := none

section
variable (negative : Bool) {ds : List Char} {exponent : ℤ}

theorem wellFormed_exponential (hne : ds ≠ []) (hhead : ds.head? ≠ some '0')
    (hdigit : ∀ c ∈ ds, c.isDigit = true) (exponent : ℤ) :
    (exponential negative ds exponent).WellFormed where
  whole_ne_nil := by simpa [exponential] using hne
  whole_isDigit c hc := hdigit c (List.mem_of_mem_take hc)
  leading h := by
    rw [exponential, List.head?_take, if_neg (by decide)] at h
    exact absurd h hhead
  fraction_isDigit c hc := hdigit c (List.mem_of_mem_drop (mem_of_mem_stripZeros hc))
  exponent e he := by
    cases he
    refine ⟨?_, Printf.digits_ne_nil _ _, fun c hc => Printf.isDigit_of_mem_digits hc⟩
    dsimp only
    split
    · exact .inr (.inr rfl)
    · exact .inr (.inl rfl)

theorem wellFormed_positional (hne : ds ≠ []) (hhead : ds.head? ≠ some '0')
    (hdigit : ∀ c ∈ ds, c.isDigit = true) (exponent : ℤ) :
    (positional negative ds exponent).WellFormed where
  whole_ne_nil := by
    unfold positional
    dsimp only
    split
    · simp
    · simpa using hne
  whole_isDigit c hc := by
    unfold positional at hc
    dsimp only at hc
    split at hc
    · cases List.mem_singleton.mp hc
      rfl
    · exact hdigit c (List.mem_of_mem_take hc)
  leading h := by
    unfold positional at h ⊢
    dsimp only at h ⊢
    split at h
    · rename_i hneg
      rw [if_pos hneg]
    · rw [List.head?_take, if_neg (by omega)] at h
      exact absurd h hhead
  fraction_isDigit c hc := by
    unfold positional at hc
    dsimp only at hc
    split at hc
    · obtain h | h := List.mem_append.mp (mem_of_mem_stripZeros hc)
      · cases List.eq_of_mem_replicate h
        rfl
      · exact hdigit c h
    · exact hdigit c (List.mem_of_mem_drop (mem_of_mem_stripZeros hc))
  exponent e he := by cases he

theorem length_fractionText_le (n : Numeral) :
    n.fractionText.length ≤ n.fraction.length + 1 := by
  unfold Numeral.fractionText
  split
  · exact Nat.zero_le _
  · exact le_rfl

theorem length_signText_le (n : Numeral) : n.signText.length ≤ 1 := by
  unfold Numeral.signText
  split <;> decide

theorem length_exponential_le (hne : ds ≠ []) (h : exponent.natAbs < 1000) :
    (exponential negative ds exponent).text.length ≤ ds.length + 7 := by
  have hpos := List.length_pos_iff.mpr hne
  have hsign := length_signText_le (exponential negative ds exponent)
  have hfraction := length_fractionText_le (exponential negative ds exponent)
  have hstrip := length_stripZeros_le (ds.drop 1)
  have hdigits : (Printf.digits 2 exponent.natAbs).length ≤ 3 := by
    have hthree : (Printf.digits 3 exponent.natAbs).length = 3 :=
      (Printf.length_digits (by decide)).mpr (by omega)
    simp only [Printf.digits, List.length_leftpad] at hthree ⊢
    omega
  have hexponent : (exponential negative ds exponent).exponentText.length ≤ 5 := by
    simp only [exponential, Numeral.exponentText, Option.elim, Exponent.text, List.length_cons,
      List.length_append]
    split <;> simp only [List.length_singleton] <;> omega
  have hwhole : (exponential negative ds exponent).whole.length ≤ 1 := by
    simp [exponential]
  simp only [exponential] at hfraction
  rw [List.length_drop] at hstrip
  simp only [Numeral.text, List.length_append]
  simp only [exponential] at *
  omega

theorem length_positional_le (hlow : -4 ≤ exponent) :
    (positional negative ds exponent).text.length ≤ ds.length + 6 := by
  have hsign := length_signText_le (positional negative ds exponent)
  have hfraction := length_fractionText_le (positional negative ds exponent)
  have hdigits : (positional negative ds exponent).whole.length +
      (positional negative ds exponent).fraction.length ≤ ds.length + 4 := by
    unfold positional
    dsimp only
    split
    · have := length_stripZeros_le (List.replicate (-exponent - 1).toNat '0' ++ ds)
      rw [List.length_append, List.length_replicate] at this
      rw [List.length_singleton]
      omega
    · have := length_stripZeros_le (ds.drop (exponent.toNat + 1))
      rw [List.length_drop] at this
      rw [List.length_take]
      omega
  have hexponent : (positional negative ds exponent).exponentText = [] := rfl
  simp only [Numeral.text, List.length_append, hexponent, List.length_nil]
  omega

end

section
variable {K : Type*} [Field K] [LinearOrder K] [FloorRing K]

def significand (p : ℕ) (x : K) : ℕ × ℤ :=
  let exponent := Int.log 10 |x|
  let kept := (roundHalfEven (|x| / (decimal p).quantum x)).toNat
  if kept = 10 ^ p then (10 ^ (p - 1), exponent + 1) else (kept, exponent)

/-- `%.<p>g` of a finite value. -/
def printG (p : ℕ) (x : K) : Numeral :=
  if x = 0 then ⟨false, ['0'], [], none⟩
  else
    let (kept, exponent) := significand p x
    if exponent < -4 ∨ p ≤ exponent then exponential (x < 0) (digits p kept) exponent
    else positional (x < 0) (digits p kept) exponent

theorem ten_ne_zero : (10 : K) ≠ 0 := by norm_num

theorem quantum_decimal (p : ℕ) (x : K) :
    (decimal p).quantum x = 10 ^ (Int.log 10 |x| + 1 - (p : ℤ)) := by
  simp [Format.quantum, Format.exponent, decimal]

theorem printG_of_ne_zero {p : ℕ} {x : K} (hx : x ≠ 0) : printG p x =
    if (significand p x).2 < -4 ∨ p ≤ (significand p x).2 then
      exponential (x < 0) (digits p (significand p x).1) (significand p x).2
    else positional (x < 0) (digits p (significand p x).1) (significand p x).2 := by
  rw [printG, if_neg hx]

theorem ofDigitChars_strip (front back : List Char) (e : ℤ) :
    (Nat.ofDigitChars 10 (front ++ stripZeros back) 0 : K) *
        10 ^ (e - ((stripZeros back).length : ℤ)) =
      (Nat.ofDigitChars 10 (front ++ back) 0 : K) * 10 ^ (e - (back.length : ℤ)) := by
  obtain ⟨k, hk⟩ := exists_stripZeros back
  have hvalue : Nat.ofDigitChars 10 (front ++ back) 0 =
      10 ^ k * Nat.ofDigitChars 10 (front ++ stripZeros back) 0 := by
    conv_lhs => rw [hk, ← List.append_assoc, Nat.ofDigitChars_append]
    rw [Nat.ofDigitChars_replicate_zero]
  have hlength : (back.length : ℤ) = (stripZeros back).length + k := by
    conv_lhs => rw [hk, List.length_append, List.length_replicate]
    push_cast
    rfl
  rw [hvalue, hlength, show e - ((stripZeros back).length : ℤ) =
    (k : ℤ) + (e - ((stripZeros back).length + k)) by ring, zpow_add₀ ten_ne_zero, zpow_natCast]
  push_cast
  ring

theorem value_exponentDigits (negative : Bool) (ds : List Char) (exponent : ℤ) :
    (exponential negative ds exponent).exponentValue = exponent := by
  simp only [exponential, Numeral.exponentValue, Option.elim, Exponent.value,
    Printf.ofDigitChars_digits]
  split_ifs with hneg hsign hsign
  · omega
  · simp at hsign
  · simp at hsign
  · omega

theorem magnitude_exponential (negative : Bool) {ds : List Char} (hds : ds ≠ []) (exponent : ℤ) :
    (exponential negative ds exponent).magnitude =
      (Nat.ofDigitChars 10 ds 0 : K) * 10 ^ (exponent + 1 - (ds.length : ℤ)) := by
  have hpos := List.length_pos_iff.mpr hds
  rw [Numeral.magnitude, value_exponentDigits, Nat.cast_ofNat]
  simp only [exponential]
  rw [ofDigitChars_strip, List.take_append_drop, List.length_drop]
  congr 2
  omega

theorem magnitude_positional (negative : Bool) {ds : List Char} {exponent : ℤ}
    (h : exponent < ds.length) :
    (positional negative ds exponent).magnitude =
      (Nat.ofDigitChars 10 ds 0 : K) * 10 ^ (exponent + 1 - (ds.length : ℤ)) := by
  simp only [positional, Numeral.magnitude, Numeral.exponentValue, Option.elim, Nat.cast_ofNat]
  split
  · rw [ofDigitChars_strip, List.singleton_append, ← List.cons_append, ← List.replicate_succ,
      Nat.ofDigitChars_append, Nat.ofDigitChars_replicate_zero, Nat.mul_zero, List.length_append,
      List.length_replicate]
    congr 2
    omega
  · rw [ofDigitChars_strip, List.take_append_drop, List.length_drop]
    congr 2
    omega

variable [IsStrictOrderedRing K] {p : ℕ} {x : K}

theorem scaled_bounds (hx : x ≠ 0) (hp : 0 < p) :
    (10 : K) ^ (p - 1) ≤ |x| / (decimal p).quantum x ∧
      |x| / (decimal p).quantum x < (10 : K) ^ p := by
  have hpos : 0 < |x| := abs_pos.mpr hx
  have hlow := Int.zpow_log_le_self (b := 10) (by decide) hpos
  have hhigh := Int.lt_zpow_succ_log_self (b := 10) (by decide) |x|
  have hunit : 0 < (10 : K) ^ (Int.log 10 |x| + 1 - (p : ℤ)) := zpow_pos (by norm_num) _
  rw [quantum_decimal, le_div_iff₀ hunit, div_lt_iff₀ hunit, ← zpow_natCast, ← zpow_natCast,
    ← zpow_add₀ ten_ne_zero, ← zpow_add₀ ten_ne_zero]
  constructor
  · rwa [show ((p - 1 : ℕ) : ℤ) + (Int.log 10 |x| + 1 - p) = Int.log 10 |x| by omega]
  · rwa [show (p : ℤ) + (Int.log 10 |x| + 1 - p) = Int.log 10 |x| + 1 by omega]

theorem rounded_bounds (hx : x ≠ 0) (hp : 0 < p) :
    10 ^ (p - 1) ≤ (roundHalfEven (|x| / (decimal p).quantum x)).toNat ∧
      (roundHalfEven (|x| / (decimal p).quantum x)).toNat ≤ 10 ^ p := by
  obtain ⟨hlow, hhigh⟩ := scaled_bounds hx hp
  have hge : ((10 ^ (p - 1) : ℕ) : ℤ) ≤ roundHalfEven (|x| / (decimal p).quantum x) :=
    le_roundHalfEven (by exact_mod_cast hlow)
  have hle : roundHalfEven (|x| / (decimal p).quantum x) ≤ ((10 ^ p : ℕ) : ℤ) :=
    roundHalfEven_le (by exact_mod_cast hhigh.le)
  have hnonneg : 0 ≤ roundHalfEven (|x| / (decimal p).quantum x) :=
    (Int.natCast_nonneg _).trans hge
  exact ⟨(Int.le_toNat hnonneg).mpr hge, Int.toNat_le.mpr hle⟩

theorem significand_bounds (hx : x ≠ 0) (hp : 0 < p) :
    10 ^ (p - 1) ≤ (significand p x).1 ∧ (significand p x).1 < 10 ^ p := by
  obtain ⟨hlow, hhigh⟩ := rounded_bounds hx hp
  unfold significand
  dsimp only
  split
  · exact ⟨le_rfl, Nat.pow_lt_pow_right (by decide) (by omega)⟩
  · exact ⟨hlow, by omega⟩

theorem significand_value (hx : x ≠ 0) (hp : 0 < p) :
    ((significand p x).1 : K) * 10 ^ ((significand p x).2 + 1 - (p : ℤ)) =
      (decimal p).nearest |x| := by
  obtain ⟨hlow, hhigh⟩ := rounded_bounds hx hp
  have habs : (decimal p).quantum |x| = (decimal p).quantum x := by
    rw [quantum_decimal, quantum_decimal, abs_abs]
  have hnonneg : ((roundHalfEven (|x| / (decimal p).quantum x)).toNat : ℤ) =
      roundHalfEven (|x| / (decimal p).quantum x) := by
    have : 0 < 10 ^ (p - 1) := Nat.pow_pos (by decide)
    omega
  rw [Format.nearest, habs, ← hnonneg, Int.cast_natCast]
  unfold significand
  dsimp only
  split
  · rename_i hcarry
    rw [hcarry, quantum_decimal]
    push_cast
    rw [← zpow_natCast, ← zpow_natCast, ← zpow_add₀ ten_ne_zero, ← zpow_add₀ ten_ne_zero]
    congr 1
    omega
  · rw [quantum_decimal]

theorem natAbs_significand_le (hx : x ≠ 0) {n : ℕ} (hlow : (10 : K) ^ (-n : ℤ) ≤ |x|)
    (hhigh : |x| < 10 ^ (n : ℤ)) : (significand p x).2.natAbs ≤ n := by
  have hpos : 0 < |x| := abs_pos.mpr hx
  have hge : -(n : ℤ) ≤ Int.log 10 |x| :=
    (Int.zpow_le_iff_le_log (by decide) hpos).mp (by exact_mod_cast hlow)
  have hlt : Int.log 10 |x| < n :=
    (Int.lt_zpow_iff_log_lt (by decide) hpos).mp (by exact_mod_cast hhigh)
  unfold significand
  dsimp only
  split <;> dsimp only <;> omega

-- ---------------------------------------------------------------------------
-- What `%g` writes
-- ---------------------------------------------------------------------------

theorem value_printG (hp : 0 < p) (x : K) : (printG p x).value = (decimal p).nearest x := by
  obtain rfl | hx := eq_or_ne x 0
  · simp [printG, Numeral.value, Numeral.magnitude, Nat.ofDigitChars_cons]
  have hbounds := significand_bounds hx hp
  have hlength := (Printf.length_digits hp).mpr hbounds.2
  have hmagnitude : (printG p x).magnitude = (decimal p).nearest |x| := by
    rw [← significand_value hx hp, printG_of_ne_zero hx]
    split
    · rw [magnitude_exponential _ (Printf.digits_ne_nil _ _), Printf.ofDigitChars_digits, hlength]
    · rename_i hrange
      rw [magnitude_positional _ (by omega), Printf.ofDigitChars_digits, hlength]
  have hnegative : (printG p x).negative = decide (x < 0) := by
    rw [printG_of_ne_zero hx]
    split <;> rfl
  rw [Numeral.value, hmagnitude, hnegative]
  obtain hneg | hpos := lt_or_ge x 0
  · rw [if_pos (decide_eq_true hneg), abs_of_neg hneg, Format.nearest_neg, neg_neg]
  · rw [if_neg (by simpa using hpos), abs_of_nonneg hpos]

theorem wellFormed_printG (hp : 0 < p) (x : K) : (printG p x).WellFormed := by
  obtain rfl | hx := eq_or_ne x 0
  · simp only [printG, if_pos]
    exact ⟨by simp, by simp, fun _ => rfl, by simp, by simp⟩
  obtain ⟨hlow, hhigh⟩ := significand_bounds hx hp
  have hhead := head_digits_ne_zero hp hlow hhigh
  have hdigit : ∀ c ∈ digits p (significand p x).1, c.isDigit = true :=
    fun _ => Printf.isDigit_of_mem_digits
  rw [printG_of_ne_zero hx]
  split
  · exact wellFormed_exponential _ (Printf.digits_ne_nil _ _) hhead hdigit _
  · exact wellFormed_positional _ (Printf.digits_ne_nil _ _) hhead hdigit _

theorem length_printG_le (hp : 0 < p) (hx : x ≠ 0 → (significand p x).2.natAbs < 1000) :
    (printG p x).text.length ≤ p + 7 := by
  obtain rfl | hne := eq_or_ne x 0
  · have : (printG p (0 : K)).text = ['0'] := by
      simp only [printG, if_pos]
      rfl
    rw [this, List.length_singleton]
    omega
  have hexponent := hx hne
  have hbounds := significand_bounds hne hp
  have hlength := (Printf.length_digits hp).mpr hbounds.2
  rw [printG_of_ne_zero hne]
  split
  · have := length_exponential_le (x < 0) (Printf.digits_ne_nil p (significand p x).1) hexponent
    omega
  · rename_i hrange
    have : (positional (x < 0) (digits p (significand p x).1) (significand p x).2).text.length ≤
        (digits p (significand p x).1).length + 6 := length_positional_le _ (by omega)
    omega

end

end Decimal
