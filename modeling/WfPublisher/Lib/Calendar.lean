import Mathlib

/-!
# The Gregorian calendar, by day number

Day `0` is January 1 of the year 0 of the proleptic Gregorian calendar. Years
and months are both intervals of days that a strictly increasing function of
their number starts, so everything about order follows from one bracketing
lemma: the number of the interval a day lies in is monotone and unique.
-/

namespace Calendar

-- ---------------------------------------------------------------------------
-- Bracketing
-- ---------------------------------------------------------------------------

section
variable {starts index : Int → Int}

theorem index_eq_of_bracket (hs : StrictMono starts)
    (hb : ∀ n, starts (index n) ≤ n ∧ n < starts (index n + 1)) (n k : Int) :
    index n = k ↔ starts k ≤ n ∧ n < starts (k + 1) := by
  constructor
  · rintro rfl
    exact hb n
  · intro ⟨hk, hk'⟩
    have h1 : k < index n + 1 := hs.lt_iff_lt.mp (lt_of_le_of_lt hk (hb n).2)
    have h2 : index n < k + 1 := hs.lt_iff_lt.mp (lt_of_le_of_lt (hb n).1 hk')
    omega

theorem le_index_iff (hs : StrictMono starts)
    (hb : ∀ n, starts (index n) ≤ n ∧ n < starts (index n + 1)) (n k : Int) :
    k ≤ index n ↔ starts k ≤ n := by
  constructor
  · intro h
    exact le_trans (hs.monotone h) (hb n).1
  · intro h
    have : k < index n + 1 := hs.lt_iff_lt.mp (lt_of_le_of_lt h (hb n).2)
    omega

theorem monotone_of_bracket (hs : StrictMono starts)
    (hb : ∀ n, starts (index n) ≤ n ∧ n < starts (index n + 1)) : Monotone index := by
  intro a b hab
  exact (le_index_iff hs hb b (index a)).mpr (le_trans (hb a).1 hab)

end

-- ---------------------------------------------------------------------------
-- Years
-- ---------------------------------------------------------------------------

def isLeap (year : Int) : Bool :=
  year % 4 = 0 ∧ (year % 100 ≠ 0 ∨ year % 400 = 0)

def yearLength (year : Int) : Int := if isLeap year then 366 else 365

def yearStart (year : Int) : Int :=
  365 * year + (year + 3) / 4 - (year + 99) / 100 + (year + 399) / 400

theorem yearStart_succ (year : Int) : yearStart (year + 1) = yearStart year + yearLength year := by
  unfold yearStart yearLength isLeap
  split <;> rename_i h <;> simp at h <;> omega

theorem yearStart_strictMono : StrictMono yearStart := by
  refine strictMono_int_of_lt_succ fun year => ?_
  rw [yearStart_succ, yearLength]
  split <;> omega

/-- The year a day lies in: the mean year length gives it up to one year
either way, and the two neighbours are tried. -/
def yearOf (day : Int) : Int :=
  let guess := 400 * day / 146097
  if day < yearStart guess then guess - 1
  else if day < yearStart (guess + 1) then guess
  else guess + 1

theorem yearOf_bracket (day : Int) :
    yearStart (yearOf day) ≤ day ∧ day < yearStart (yearOf day + 1) := by
  unfold yearOf
  have hg := Int.mul_ediv_add_emod (400 * day) 146097
  have h0 := Int.emod_nonneg (400 * day) (b := 146097) (by decide)
  have h1 := Int.emod_lt_of_pos (400 * day) (b := 146097) (by decide)
  generalize 400 * day / 146097 = guess at *
  simp only
  split
  · refine ⟨?_, by simpa using ‹_›⟩
    unfold yearStart at *; omega
  · split
    · exact ⟨by omega, ‹_›⟩
    · refine ⟨by omega, ?_⟩
      unfold yearStart at *; omega

theorem le_yearOf_iff (day year : Int) : year ≤ yearOf day ↔ yearStart year ≤ day :=
  le_index_iff yearStart_strictMono yearOf_bracket day year

-- ---------------------------------------------------------------------------
-- Months
-- ---------------------------------------------------------------------------

instance neZero12 : NeZero 12 := ⟨by decide⟩

/-- Days of the year before month `m`, counted from `0`; `12` is the year's end. -/
def daysBefore (leap : Bool) : Fin 13 → Int
  | 0 => 0
  | 1 => 31
  | 2 => 59 + leap.toNat
  | 3 => 90 + leap.toNat
  | 4 => 120 + leap.toNat
  | 5 => 151 + leap.toNat
  | 6 => 181 + leap.toNat
  | 7 => 212 + leap.toNat
  | 8 => 243 + leap.toNat
  | 9 => 273 + leap.toNat
  | 10 => 304 + leap.toNat
  | 11 => 334 + leap.toNat
  | 12 => 365 + leap.toNat

theorem daysBefore_lt (leap : Bool) (m : Fin 12) :
    daysBefore leap m.castSucc < daysBefore leap m.succ := by
  revert leap m
  decide

def monthOf (leap : Bool) (dayOfYear : Int) : Fin 12 :=
  if dayOfYear < daysBefore leap 1 then 0
  else if dayOfYear < daysBefore leap 2 then 1
  else if dayOfYear < daysBefore leap 3 then 2
  else if dayOfYear < daysBefore leap 4 then 3
  else if dayOfYear < daysBefore leap 5 then 4
  else if dayOfYear < daysBefore leap 6 then 5
  else if dayOfYear < daysBefore leap 7 then 6
  else if dayOfYear < daysBefore leap 8 then 7
  else if dayOfYear < daysBefore leap 9 then 8
  else if dayOfYear < daysBefore leap 10 then 9
  else if dayOfYear < daysBefore leap 11 then 10
  else 11

theorem monthOf_bracket (leap : Bool) {d : Int} (h0 : 0 ≤ d) (h1 : d < daysBefore leap 12) :
    daysBefore leap (monthOf leap d).castSucc ≤ d ∧ d < daysBefore leap (monthOf leap d).succ := by
  let P (m : Fin 12) : Prop := daysBefore leap m.castSucc ≤ d ∧ d < daysBefore leap m.succ
  change P (monthOf leap d)
  unfold monthOf
  refine iteInduction (motive := P) (fun h => ⟨h0, h⟩) fun hJan => ?_
  refine iteInduction (motive := P) (fun h => ⟨not_lt.mp hJan, h⟩) fun hFeb => ?_
  refine iteInduction (motive := P) (fun h => ⟨not_lt.mp hFeb, h⟩) fun hMar => ?_
  refine iteInduction (motive := P) (fun h => ⟨not_lt.mp hMar, h⟩) fun hApr => ?_
  refine iteInduction (motive := P) (fun h => ⟨not_lt.mp hApr, h⟩) fun hMay => ?_
  refine iteInduction (motive := P) (fun h => ⟨not_lt.mp hMay, h⟩) fun hJun => ?_
  refine iteInduction (motive := P) (fun h => ⟨not_lt.mp hJun, h⟩) fun hJul => ?_
  refine iteInduction (motive := P) (fun h => ⟨not_lt.mp hJul, h⟩) fun hAug => ?_
  refine iteInduction (motive := P) (fun h => ⟨not_lt.mp hAug, h⟩) fun hSep => ?_
  refine iteInduction (motive := P) (fun h => ⟨not_lt.mp hSep, h⟩) fun hOct => ?_
  refine iteInduction (motive := P) (fun h => ⟨not_lt.mp hOct, h⟩) fun hNov => ?_
  exact ⟨not_lt.mp hNov, h1⟩

theorem yearLength_eq (year : Int) : yearLength year = daysBefore (isLeap year) 12 := by
  unfold yearLength
  cases isLeap year <;> rfl

/-- Months counted from January of the year 0. -/
def monthStart (month : Int) : Int :=
  yearStart (month / 12) +
    daysBefore (isLeap (month / 12)) (Fin.ofNat 13 (month % 12).toNat)

theorem monthStart_of (year : Int) (m : Fin 12) :
    monthStart (12 * year + m) = yearStart year + daysBefore (isLeap year) m.castSucc := by
  have hd : (12 * year + (m : Int)) / 12 = year := by omega
  have hm : ((12 * year + (m : Int)) % 12).toNat = m := by omega
  have hf : Fin.ofNat 13 (m : Nat) = m.castSucc := by
    ext
    simp only [Fin.ofNat, Fin.val_castSucc]
    omega
  rw [monthStart, hd, hm, hf]

theorem monthStart_succ (year : Int) (m : Fin 12) :
    monthStart (12 * year + m + 1) = yearStart year + daysBefore (isLeap year) m.succ := by
  by_cases hm : m = 11
  · subst hm
    have := monthStart_of (year + 1) 0
    rw [yearStart_succ, yearLength_eq] at this
    have h12 : daysBefore (isLeap (year + 1)) (Fin.castSucc 0) = 0 := rfl
    rw [h12] at this
    have he : 12 * year + ((11 : Fin 12) : Int) + 1 = 12 * (year + 1) + ((0 : Fin 12) : Int) := by
      simp only [Fin.val_zero]
      show 12 * year + 11 + 1 = _
      omega
    rw [he, this, add_zero]
    rfl
  · have hlt : (m : Nat) + 1 < 12 := by
      have : (m : Nat) ≠ 11 := fun h => hm (Fin.ext h)
      omega
    have := monthStart_of year ⟨m + 1, hlt⟩
    have hc : Fin.castSucc ⟨m + 1, hlt⟩ = m.succ := rfl
    rw [hc] at this
    rw [← this]
    push_cast
    rw [add_assoc]

theorem monthStart_strictMono : StrictMono monthStart := by
  refine strictMono_int_of_lt_succ fun month => ?_
  obtain ⟨year, m, rfl⟩ : ∃ (year : Int) (m : Fin 12), month = 12 * year + m :=
    ⟨month / 12, ⟨(month % 12).toNat, by omega⟩, by simp only; omega⟩
  rw [monthStart_succ, monthStart_of]
  have := daysBefore_lt (isLeap year) m
  omega

-- ---------------------------------------------------------------------------
-- Dates
-- ---------------------------------------------------------------------------

/-- Months are counted from `0`, days of the month from `1`. -/
@[ext] structure Date where
  year : Int
  month : Fin 12
  day : Int
  deriving DecidableEq, Repr

def dateOf (day : Int) : Date :=
  let year := yearOf day
  let dayOfYear := day - yearStart year
  let month := monthOf (isLeap year) dayOfYear
  ⟨year, month, dayOfYear - daysBefore (isLeap year) month.castSucc + 1⟩

def monthIndex (day : Int) : Int := 12 * (dateOf day).year + (dateOf day).month

theorem dateOf_year (day : Int) : (dateOf day).year = yearOf day := rfl

theorem monthIndex_bracket (day : Int) :
    monthStart (monthIndex day) ≤ day ∧ day < monthStart (monthIndex day + 1) := by
  have hy := yearOf_bracket day
  rw [yearStart_succ, yearLength_eq] at hy
  have hm := monthOf_bracket (isLeap (yearOf day)) (d := day - yearStart (yearOf day))
    (by omega) (by omega)
  rw [monthIndex, monthStart_succ, monthStart_of, dateOf_year]
  simp only [dateOf]
  omega

theorem monthIndex_mono : Monotone monthIndex :=
  monotone_of_bracket monthStart_strictMono monthIndex_bracket

theorem dateOf_day (day : Int) : (dateOf day).day = day - monthStart (monthIndex day) + 1 := by
  rw [monthIndex, monthStart_of]
  simp only [dateOf]
  omega

theorem monthIndex_eq_iff (a b : Int) : monthIndex a = monthIndex b ↔
    (dateOf a).year = (dateOf b).year ∧ (dateOf a).month = (dateOf b).month := by
  unfold monthIndex
  constructor
  · intro h
    have ha := (dateOf a).month.isLt
    have hb := (dateOf b).month.isLt
    exact ⟨by omega, Fin.ext (by omega)⟩
  · rintro ⟨hy, hm⟩
    rw [hy, hm]

theorem dateOf_injective : Function.Injective dateOf := by
  intro a b h
  have hm : monthIndex a = monthIndex b := by rw [monthIndex, monthIndex, h]
  have ha := dateOf_day a
  have hb := dateOf_day b
  rw [h, hb, hm] at ha
  omega

theorem dateOf_day_eq_one_iff (day : Int) :
    (dateOf day).day = 1 ↔ monthIndex (day - 1) ≠ monthIndex day := by
  have hb := monthIndex_bracket day
  rw [dateOf_day, ne_eq,
    index_eq_of_bracket monthStart_strictMono monthIndex_bracket (day - 1) (monthIndex day)]
  omega

theorem daysBefore_sub_le (leap : Bool) (m : Fin 12) :
    daysBefore leap m.succ - daysBefore leap m.castSucc ≤ 31 := by
  revert leap m
  decide

theorem dateOf_day_bounds (day : Int) : 1 ≤ (dateOf day).day ∧ (dateOf day).day ≤ 31 := by
  have hb := monthIndex_bracket day
  have hl := daysBefore_sub_le (isLeap (dateOf day).year) (dateOf day).month
  rw [dateOf_day]
  rw [monthIndex, monthStart_of, monthStart_succ] at *
  omega

example : dateOf (yearStart 1970) = ⟨1970, 0, 1⟩ := by decide
example : dateOf (yearStart 2000 + 59) = ⟨2000, 1, 29⟩ := by decide

end Calendar
