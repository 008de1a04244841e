import Mathlib
import WfPublisher.CJson.Tree
import WfPublisher.Lib.Calendar

/-!
# The local clock and `struct tm`

A reading of the clock is kept in local time, the zone's offset already added:
seconds since 1970-01-01 00:00 on the local clock. `localtime` breaks it down.
-/

namespace WfPublisher

instance neZero24 : NeZero 24 := ⟨by decide⟩
instance neZero60 : NeZero 60 := ⟨by decide⟩

structure Tm where
  tmSec : Fin 60
  tmMin : Fin 60
  tmHour : Fin 24
  tmMday : Int
  tmMon : Fin 12
  /-- Years since 1900. -/
  tmYear : Int
  deriving DecidableEq, Repr

def dayNumber (sec : Int) : Int := Calendar.yearStart 1970 + sec / 86400

/-- A local time whose year an `int` can hold, as `struct tm` needs. -/
structure LocalTime where
  sec : Int
  yearFits : intMin ≤ Calendar.yearOf (dayNumber sec) ∧ Calendar.yearOf (dayNumber sec) ≤ intMax

namespace LocalTime

instance : LE LocalTime := ⟨fun a b => a.sec ≤ b.sec⟩

theorem le_def {a b : LocalTime} : a ≤ b ↔ a.sec ≤ b.sec := Iff.rfl

def minute (t : LocalTime) : Int := t.sec / 60
def hour (t : LocalTime) : Int := t.sec / 3600
def day (t : LocalTime) : Int := dayNumber t.sec
def month (t : LocalTime) : Int := Calendar.monthIndex t.day
def year (t : LocalTime) : Int := Calendar.yearOf t.day

theorem day_mono {a b : LocalTime} (h : a ≤ b) : a.day ≤ b.day := by
  have h := le_def.mp h
  unfold day dayNumber
  omega

theorem hour_mono {a b : LocalTime} (h : a ≤ b) : a.hour ≤ b.hour := by
  have h := le_def.mp h
  unfold hour
  omega

theorem month_mono {a b : LocalTime} (h : a ≤ b) : a.month ≤ b.month :=
  Calendar.monthIndex_mono (day_mono h)

theorem hour_eq (t : LocalTime) : t.hour = t.minute / 60 := by
  unfold hour minute
  omega

theorem day_eq (t : LocalTime) : t.day = Calendar.yearStart 1970 + t.hour / 24 := by
  unfold day dayNumber hour
  omega

/-- 00:00 on January 1 of the year of `t`, as a local second. -/
def newYear (t : LocalTime) : Int :=
  (Calendar.yearStart t.year - Calendar.yearStart 1970) * 86400

theorem newYear_le_iff (t s : LocalTime) : t.newYear ≤ s.sec ↔ t.year ≤ s.year := by
  rw [year.eq_def s, Calendar.le_yearOf_iff]
  unfold newYear day dayNumber
  omega

end LocalTime

def utc (t : Int) : LocalTime :=
  if h : intMin ≤ Calendar.yearOf (dayNumber t) ∧ Calendar.yearOf (dayNumber t) ≤ intMax then ⟨t, h⟩
  else ⟨0, by decide⟩

def localtime (t : LocalTime) : Tm :=
  let date := Calendar.dateOf t.day
  { tmSec := ⟨(t.sec % 60).toNat, by omega⟩
    tmMin := ⟨(t.minute % 60).toNat, by omega⟩
    tmHour := ⟨(t.hour % 24).toNat, by omega⟩
    tmMday := date.day
    tmMon := date.month
    tmYear := date.year - 1900 }

section
variable (t s : LocalTime)

theorem tmMin_eq : ((localtime t).tmMin : Int) = t.minute % 60 := by
  simp only [localtime]
  omega

theorem tmHour_eq : ((localtime t).tmHour : Int) = t.hour % 24 := by
  simp only [localtime]
  omega

theorem tmYear_eq : (localtime t).tmYear = t.year - 1900 := rfl

theorem tmMin_eq_zero_iff : (localtime t).tmMin = 0 ↔ t.minute % 60 = 0 := by
  rw [← tmMin_eq]
  exact ⟨fun h => by rw [h]; rfl, fun h => by simpa using h⟩

theorem tmHour_eq_zero_iff : (localtime t).tmHour = 0 ↔ t.hour % 24 = 0 := by
  rw [← tmHour_eq]
  exact ⟨fun h => by rw [h]; rfl, fun h => by simpa using h⟩

theorem month_eq_iff : t.month = s.month ↔
    (localtime t).tmYear = (localtime s).tmYear ∧ (localtime t).tmMon = (localtime s).tmMon := by
  rw [LocalTime.month, LocalTime.month, Calendar.monthIndex_eq_iff]
  simp [localtime]

theorem day_eq_iff : t.day = s.day ↔
    (localtime t).tmYear = (localtime s).tmYear ∧ (localtime t).tmMon = (localtime s).tmMon ∧
      (localtime t).tmMday = (localtime s).tmMday := by
  rw [← Calendar.dateOf_injective.eq_iff, Calendar.Date.ext_iff]
  simp [localtime]

theorem hour_eq_iff : t.hour = s.hour ↔
    t.day = s.day ∧ (localtime t).tmHour = (localtime s).tmHour := by
  constructor
  · intro h
    exact ⟨by rw [LocalTime.day_eq, LocalTime.day_eq, h], Fin.ext (by simp [localtime, h])⟩
  · rintro ⟨hd, hh⟩
    rw [LocalTime.day_eq, LocalTime.day_eq] at hd
    have ht := tmHour_eq t
    have hs := tmHour_eq s
    rw [hh] at ht
    omega

end

end WfPublisher
