import Mathlib
import WfPublisher.CJson.Parse
import WfPublisher.Dispatch
import WfPublisher.Rainfall

/-!
# `rainfall.json`, whatever is in it

`read_rainfall` trusts the file: it opens, reads, terminates, parses and looks
up about ten keys, and checks only some of them. Written by `save_rainfall`
it gives back the totals of the periods that still run. For any other content,
`readRainfall_object` names the totals that are looked up, and
`damaged_file_survived_iff` the files the reader gets through.
-/

namespace WfPublisher

open Fallible

variable {K : Type}

-- ---------------------------------------------------------------------------
-- The totals and their keys
-- ---------------------------------------------------------------------------

inductive Total
  | currentHour | currentDay | currentMonth | currentYear | last60 | last24
  deriving DecidableEq

namespace Total

def key : Total → CString
  | currentHour => "rain_current_hour".toList
  | currentDay => "rain_current_day".toList
  | currentMonth => "rain_current_month".toList
  | currentYear => "rain_current_year".toList
  | last60 => "rain_60".toList
  | last24 => "rain_24".toList

def get (wd : RainTotals K) : Total → K
  | currentHour => wd.rainfall1hr
  | currentDay => wd.rainfallDay
  | currentMonth => wd.rainfallMonth
  | currentYear => wd.rainfallYear
  | last60 => wd.rainfall60min
  | last24 => wd.rainfall24hr

def set (wd : RainTotals K) (value : K) : Total → RainTotals K
  | currentHour => { wd with rainfall1hr := value }
  | currentDay => { wd with rainfallDay := value }
  | currentMonth => { wd with rainfallMonth := value }
  | currentYear => { wd with rainfallYear := value }
  | last60 => { wd with rainfall60min := value }
  | last24 => { wd with rainfall24hr := value }

@[simp] theorem get_set_self (total : Total) (wd : RainTotals K) (value : K) :
    total.get (total.set wd value) = value := by
  cases total <;> rfl

theorem get_set_ne {total other : Total} (h : total ≠ other) (wd : RainTotals K) (value : K) :
    total.get (other.set wd value) = total.get wd := by
  cases total <;> cases other <;> first | rfl | exact absurd rfl h

end Total

-- ---------------------------------------------------------------------------
-- A saved file
-- ---------------------------------------------------------------------------

variable [Zero K] [Neg K] [OfScientific K] [LE K] [DecidableLE K] [CDouble K]

def WeatherData.readRainfall (t : LocalTime) (rainJson : Option (CJson K)) (wd : WeatherData K) :
    Except Fault (WeatherData K) := do
  let totals ← WfPublisher.readRainfall t rainJson wd.toRainTotals
  return { wd with toRainTotals := totals }

theorem readRainfall_of_totals {t : LocalTime} {rainJson : Option (CJson K)}
    {totals : RainTotals K} {wd : WeatherData K}
    (h : readRainfall t rainJson wd.toRainTotals = .ok totals) :
    wd.readRainfall t rainJson = .ok { wd with toRainTotals := totals } := by
  unfold WeatherData.readRainfall
  rw [h]
  rfl

/-- The totals whose period the times `s` and `r` share; the others are zero. -/
def RainTotals.shared (s r : Tm) (totals : RainTotals K) : RainTotals K where
  rainfallYear := if s.tmYear = r.tmYear then totals.rainfallYear else 0
  rainfallMonth :=
    if s.tmYear = r.tmYear ∧ s.tmMon = r.tmMon then totals.rainfallMonth else 0
  rainfallDay :=
    if s.tmYear = r.tmYear ∧ s.tmMon = r.tmMon ∧ s.tmMday = r.tmMday then
      totals.rainfallDay else 0
  rainfall24hr :=
    if s.tmYear = r.tmYear ∧ s.tmMon = r.tmMon ∧ s.tmMday = r.tmMday then
      totals.rainfall24hr else 0
  rainfall1hr :=
    if s.tmYear = r.tmYear ∧ s.tmMon = r.tmMon ∧ s.tmMday = r.tmMday ∧ s.tmHour = r.tmHour then
      totals.rainfall1hr else 0
  rainfall60min :=
    if s.tmYear = r.tmYear ∧ s.tmMon = r.tmMon ∧ s.tmMday = r.tmMday ∧ s.tmHour = r.tmHour then
      totals.rainfall60min else 0

section
variable {K : Type} [Field K] [LinearOrder K] [FloorRing K] [IsStrictOrderedRing K]

theorem readRainfall_zero (saved t : LocalTime) (totals : RainTotals K) :
    readRainfall t (some (saveRainfall saved totals)) .zero =
      .ok (totals.shared (localtime saved) (localtime t)) := by
  rw [readRainfall_saveRainfall_tm]
  generalize localtime saved = s
  generalize localtime t = r
  by_cases hyear : s.tmYear = r.tmYear
  · by_cases hmon : s.tmMon = r.tmMon
    · by_cases hmday : s.tmMday = r.tmMday
      · by_cases hhour : s.tmHour = r.tmHour
        · simp [RainTotals.shared, hyear, hmon, hmday, hhour]
        · simp [RainTotals.shared, hyear, hmon, hmday, hhour, RainTotals.zero]
      · simp [RainTotals.shared, hyear, hmon, hmday, RainTotals.zero]
    · simp [RainTotals.shared, hyear, hmon, RainTotals.zero]
  · simp [RainTotals.shared, hyear, RainTotals.zero]

theorem restores_running_periods (saved t : LocalTime)
    (totals : RainTotals K) (wd : WeatherData K) :
    { wd with toRainTotals := .zero }.readRainfall t (some (saveRainfall saved totals)) =
      .ok { wd with toRainTotals := totals.shared (localtime saved) (localtime t) } :=
  readRainfall_of_totals (readRainfall_zero saved t totals)

end

theorem restores_running_periods_morning :
    (WeatherData.initial (K := ℚ) .zero).readRainfall (utc 7800)
        (some (saveRainfall (utc 600) ⟨1, 2, 3, 4, 5, 6⟩)) =
      .ok (.initial ⟨0, 2, 3, 4, 0, 6⟩) := by
  have hshared : (⟨1, 2, 3, 4, 5, 6⟩ : RainTotals ℚ).shared (localtime (utc 600))
      (localtime (utc 7800)) = ⟨0, 2, 3, 4, 0, 6⟩ := by decide +kernel
  refine (restores_running_periods (utc 600) (utc 7800) ⟨1, 2, 3, 4, 5, 6⟩
    (.initial .zero)).trans ?_
  rw [hshared]
  rfl

-- ---------------------------------------------------------------------------
-- Any object
-- ---------------------------------------------------------------------------

def stamp (members : List (CString × CJson K)) (name : CString) : Option (CJson K) :=
  match field "time".toList members with
  | some (.object time) => field name time
  | _ => none

/-- A missing stamp passes over its own totals only, a stamp of another period
over everything that is left. -/
def stage (stamp : Option (CJson K)) (current : Int) (totals rest : List Total) : List Total :=
  match stamp with
  | none => rest
  | some item => if item.valueint = current then totals ++ rest else []

def restored (t : LocalTime) (members : List (CString × CJson K)) : List Total :=
  let gt := localtime t
  if (stamp members "year".toList).any fun item => item.valueint ≠ gt.tmYear + 1900 then []
  else .currentYear ::
    stage (stamp members "month".toList) ((gt.tmMon : Int) + 1) [.currentMonth]
      (stage (stamp members "day".toList) gt.tmMday [.currentDay, .last24]
        (stage (stamp members "hour".toList) gt.tmHour [.currentHour, .last60] []))

def restoreTotal (members : List (CString × CJson K)) (wd : RainTotals K) (total : Total) :
    Except Fault (RainTotals K) := do
  let item ← deref (field total.key members)
  return total.set wd item.valuedouble

omit [Zero K] in
theorem stage_sublist (stamp : Option (CJson K)) (current : Int) (totals : List Total)
    {rest all : List Total} (h : rest.Sublist all) :
    (stage stamp current totals rest).Sublist (totals ++ all) := by
  cases stamp with
  | none => exact h.trans (List.sublist_append_right ..)
  | some item =>
    unfold stage
    dsimp only
    split
    · exact h.append_left totals
    · exact List.nil_sublist _

omit [Zero K] in
theorem restored_nodup (t : LocalTime) (members : List (CString × CJson K)) :
    (restored t members).Nodup := by
  have hall : [Total.currentYear, .currentMonth, .currentDay, .last24, .currentHour,
      .last60].Nodup := by decide
  refine List.Sublist.nodup ?_ hall
  unfold restored
  dsimp only
  split
  · exact List.nil_sublist _
  · apply List.Sublist.cons_cons
    exact stage_sublist _ _ [.currentMonth] (stage_sublist _ _ [.currentDay, .last24]
      (stage_sublist _ _ [.currentHour, .last60] (List.Sublist.refl [])))

omit [Zero K] [Neg K] [OfScientific K] [LE K] [DecidableLE K] [CDouble K] in
theorem stamp_ok {members : List (CString × CJson K)} (name : CString)
    (h : ∀ first rest, field "time".toList members ≠ some (.array (first :: rest))) :
    getObjectItemCaseSensitive (field "time".toList members) name = .ok (stamp members name) := by
  unfold stamp
  cases htime : field "time".toList members with
  | none => rfl
  | some item =>
    cases item with
    | object time => exact getObjectItem_object name time
    | array list =>
      cases list with
      | nil => rfl
      | cons first rest => exact absurd htime (h first rest)
    | _ => rfl

omit [Zero K] in
theorem foldlM_stage {σ : Type} (f : σ → Total → Except Fault σ) (stamp : Option (CJson K))
    (current : Int) (totals rest : List Total) (wd : σ) :
    (stage stamp current totals rest).foldlM f wd =
      match stamp with
      | some item =>
        if item.valueint = current then totals.foldlM f wd >>= rest.foldlM f else .ok wd
      | none => rest.foldlM f wd := by
  cases stamp with
  | none => rfl
  | some item => by_cases heq : item.valueint = current <;> simp [stage, heq, List.foldlM_append]

omit [Neg K] [OfScientific K] [LE K] [DecidableLE K] [CDouble K] in
theorem restoreTotal_bind {α : Type} (members : List (CString × CJson K)) (total : Total)
    (wd : RainTotals K) (next : RainTotals K → Except Fault α) :
    (restoreTotal members wd total >>= next) =
      deref (field total.key members) >>= fun item => next (total.set wd item.valuedouble) := by
  unfold restoreTotal
  cases field total.key members <;> rfl

theorem readRainfall_object {members : List (CString × CJson K)} (t : LocalTime)
    (wd : RainTotals K)
    (h : ∀ first rest, field "time".toList members ≠ some (.array (first :: rest))) :
    readRainfall t (some (.object members)) wd =
      (restored t members).foldlM (restoreTotal members) wd := by
  unfold readRainfall restored
  simp only [getObjectItem_object, ok_bind, stamp_ok _ h]
  generalize stamp members "year".toList = year
  generalize stamp members "month".toList = month
  generalize stamp members "day".toList = day
  generalize stamp members "hour".toList = hour
  generalize (localtime t).tmYear + 1900 = y
  generalize ((localtime t).tmMon : Int) + 1 = m
  generalize (localtime t).tmMday = d
  generalize ((localtime t).tmHour : Int) = hr
  have hyear : ∀ totals : List Total,
      (if year.any fun item => item.valueint ≠ y then [] else totals).foldlM
        (restoreTotal members) wd =
      match year with
      | some tmp =>
        if tmp.valueint ≠ y then pure wd else totals.foldlM (restoreTotal members) wd
      | none => totals.foldlM (restoreTotal members) wd := by
    intro totals
    cases year with
    | none => rfl
    | some tmp => by_cases heq : tmp.valueint = y <;> simp [heq]
  rw [hyear]
  simp only [foldlM_stage, List.foldlM_cons, List.foldlM_nil, restoreTotal_bind, pure_bind,
    bind_assoc]
  cases year <;> cases month <;> cases day <;> cases hour <;> rfl

omit [Neg K] [OfScientific K] [LE K] [DecidableLE K] [CDouble K] in
theorem foldlM_restoreTotal_ok {members : List (CString × CJson K)} {totals : List Total}
    (hnodup : totals.Nodup) {wd wd' : RainTotals K}
    (h : totals.foldlM (restoreTotal members) wd = .ok wd') :
    (∀ total ∈ totals, ∃ item, field total.key members = some item ∧
        total.get wd' = item.valuedouble) ∧
      ∀ total ∉ totals, total.get wd' = total.get wd := by
  induction totals generalizing wd with
  | nil =>
    cases h
    exact ⟨nofun, fun _ _ => rfl⟩
  | cons head rest ih =>
    obtain ⟨hhead, hrest⟩ := List.nodup_cons.mp hnodup
    rw [List.foldlM_cons, restoreTotal_bind, bind_ok] at h
    obtain ⟨item, hitem, h⟩ := h
    rw [deref_ok] at hitem
    obtain ⟨hset, hkept⟩ := ih hrest h
    constructor
    · intro total hmem
      rcases List.mem_cons.mp hmem with rfl | hmem
      · exact ⟨item, hitem, (hkept total hhead).trans (Total.get_set_self ..)⟩
      · exact hset total hmem
    · intro total hmem
      rw [List.mem_cons, not_or] at hmem
      obtain ⟨hne, hmem⟩ := hmem
      exact (hkept total hmem).trans (Total.get_set_ne hne ..)

omit [Neg K] [OfScientific K] [LE K] [DecidableLE K] [CDouble K] in
theorem foldlM_restoreTotal_exists {members : List (CString × CJson K)} {totals : List Total}
    (h : ∀ total ∈ totals, ∃ item, field total.key members = some item) (wd : RainTotals K) :
    ∃ wd', totals.foldlM (restoreTotal members) wd = .ok wd' := by
  induction totals generalizing wd with
  | nil => exact ⟨wd, rfl⟩
  | cons head rest ih =>
    obtain ⟨item, hitem⟩ := h head List.mem_cons_self
    obtain ⟨wd', hwd'⟩ := ih (fun total hmem => h total (List.mem_cons_of_mem _ hmem))
      (head.set wd item.valuedouble)
    refine ⟨wd', ?_⟩
    rw [List.foldlM_cons, restoreTotal_bind, hitem]
    exact hwd'

-- ---------------------------------------------------------------------------
-- No object
-- ---------------------------------------------------------------------------

theorem readRainfall_ok_object {t : LocalTime} {rainJson : Option (CJson K)}
    {wd wd' : RainTotals K} (h : readRainfall t rainJson wd = .ok wd') :
    ∃ members, rainJson = some (.object members) := by
  cases rainJson with
  | none => cases h
  | some item =>
    cases item with
    | object members => exact ⟨members, rfl⟩
    | array list => cases list <;> cases h
    | _ => cases h

theorem readRainfall_ok_time {t : LocalTime} {members : List (CString × CJson K)}
    {wd wd' : RainTotals K} (h : readRainfall t (some (.object members)) wd = .ok wd') :
    ∀ first rest, field "time".toList members ≠ some (.array (first :: rest)) := by
  intro first rest htime
  unfold readRainfall at h
  rw [getObjectItem_object, ok_bind, htime] at h
  cases h

-- ---------------------------------------------------------------------------
-- The file
-- ---------------------------------------------------------------------------

/-- A null pointer read through, a byte written behind the buffer, a pointer
followed that nothing was assigned to. -/
inductive FileFault
  | nullDeref
  | outsideBuffer
  | uninitialized
  deriving DecidableEq, Repr

def Fault.inFile : Fault → FileFault
  | .nullDeref => .nullDeref

/-- `read_rainfall` on a `rainfall.json` of these bytes, or on none: `fread`
then reads through the null `fp`. -/
def readRainfallFile (t : LocalTime) (file : Option (List Char)) (wd : WeatherData K) :
    Except FileFault (WeatherData K) :=
  match file with
  | none => .error .nullDeref
  | some content =>
    let json := content.take 4096
    let len := json.length
    -- `json[len] = '\0'`
    if 4096 ≤ len then .error .outsideBuffer
    else if 0 < len then
      (wd.readRainfall t (cJSONParse (json.takeWhile (· ≠ Char.ofNat 0)))).mapError Fault.inFile
    else
      -- `cJSON_Delete(rain_json)`, with nothing assigned to it
      .error .uninitialized

def StoredUnder (content : List Char) (total : Total) (n : K) : Prop :=
  ∃ members, cJSONParse (content.takeWhile (· ≠ Char.ofNat 0)) = some (.object members) ∧
    field total.key members = some (.number n)

/-- The reader came back, every total as it was or as stored. -/
def Survives (t : LocalTime) (file : Option (List Char)) (wd : WeatherData K) : Prop :=
  ∃ wd', readRainfallFile t file wd = .ok wd' ∧
    ∀ total : Total, total.get wd'.toRainTotals = total.get wd.toRainTotals ∨
      ∃ content n, file = some content ∧ StoredUnder content total n ∧
        total.get wd'.toRainTotals = n

structure Trusted (t : LocalTime) (content : List Char) (members : List (CString × CJson K))
    (wd : WeatherData K) : Prop where
  nonempty : content ≠ []
  fits : content.length < 4096
  parses : cJSONParse (content.takeWhile (· ≠ Char.ofNat 0)) = some (.object members)
  named : ∀ first rest, field "time".toList members ≠ some (.array (first :: rest))
  /-- An item that is no number reads as 0. -/
  found : ∀ total ∈ restored t members, ∃ item, field total.key members = some item ∧
    ((∃ n, item = .number n) ∨ total.get wd.toRainTotals = 0)

theorem readRainfallFile_of_fits {t : LocalTime} {content : List Char} {wd : WeatherData K}
    (hne : content ≠ []) (hfits : content.length < 4096) :
    readRainfallFile t (some content) wd =
      (wd.readRainfall t (cJSONParse (content.takeWhile (· ≠ Char.ofNat 0)))).mapError
        Fault.inFile := by
  unfold readRainfallFile
  dsimp only
  rw [List.take_of_length_le hfits.le, if_neg hfits.not_ge,
    if_pos (List.length_pos_iff.mpr hne)]

theorem readRainfallFile_ok_fits {t : LocalTime} {content : List Char} {wd wd' : WeatherData K}
    (h : readRainfallFile t (some content) wd = .ok wd') :
    content ≠ [] ∧ content.length < 4096 := by
  constructor
  · rintro rfl
    cases h
  · by_contra hfull
    unfold readRainfallFile at h
    dsimp only at h
    rw [if_pos (by rw [List.length_take]; omega)] at h
    cases h

theorem readRainfallFile_of_parse {t : LocalTime} {content : List Char} {wd : WeatherData K}
    {totals : RainTotals K} (hne : content ≠ []) (hfits : content.length < 4096)
    (h : readRainfall t (cJSONParse (content.takeWhile (· ≠ Char.ofNat 0))) wd.toRainTotals =
      .ok totals) :
    readRainfallFile t (some content) wd = .ok { wd with toRainTotals := totals } := by
  rw [readRainfallFile_of_fits hne hfits, readRainfall_of_totals h]
  rfl

theorem readRainfallFile_ok {t : LocalTime} {content : List Char} {wd wd' : WeatherData K}
    (h : readRainfallFile t (some content) wd = .ok wd') :
    ∃ members, cJSONParse (content.takeWhile (· ≠ Char.ofNat 0)) = some (.object members) ∧
      (∀ first rest, field "time".toList members ≠ some (.array (first :: rest))) ∧
      (restored t members).foldlM (restoreTotal members) wd.toRainTotals =
        .ok wd'.toRainTotals := by
  obtain ⟨hne, hfits⟩ := readRainfallFile_ok_fits h
  rw [readRainfallFile_of_fits hne hfits] at h
  unfold WeatherData.readRainfall at h
  cases htotals : readRainfall t (cJSONParse (content.takeWhile (· ≠ Char.ofNat 0)))
      wd.toRainTotals with
  | error =>
    rw [htotals] at h
    cases h
  | ok totals =>
    rw [htotals] at h
    cases h
    obtain ⟨members, hmembers⟩ := readRainfall_ok_object htotals
    rw [hmembers] at htotals
    have hnamed := readRainfall_ok_time htotals
    exact ⟨members, hmembers, hnamed, (readRainfall_object t _ hnamed).symm.trans htotals⟩

omit [OfScientific K] [LE K] [DecidableLE K] in
theorem restored_value_iff {content : List Char} {members : List (CString × CJson K)}
    {total : Total} {item : CJson K} (before : K)
    (hparse : cJSONParse (content.takeWhile (· ≠ Char.ofNat 0)) = some (.object members))
    (hitem : field total.key members = some item) :
    (item.valuedouble = before ∨ ∃ n, StoredUnder content total n ∧ item.valuedouble = n) ↔
      (∃ n, item = .number n) ∨ before = 0 := by
  have hstored : ∀ n, StoredUnder content total n ↔ item = .number n := by
    intro n
    constructor
    · rintro ⟨members', hparse', hn⟩
      cases hparse.symm.trans hparse'
      exact Option.some.inj (hitem.symm.trans hn)
    · rintro rfl
      exact ⟨members, hparse, hitem⟩
  simp only [hstored]
  cases item with
  | number n => simp [CJson.valuedouble]
  | _ => simp [CJson.valuedouble, eq_comm]

theorem Survives.trusted {t : LocalTime} {file : Option (List Char)} {wd : WeatherData K}
    (h : Survives t file wd) :
    ∃ content members, file = some content ∧ Trusted t content members wd := by
  obtain ⟨wd', hread, hvalues⟩ := h
  cases file with
  | none => cases hread
  | some content =>
    obtain ⟨hne, hfits⟩ := readRainfallFile_ok_fits hread
    obtain ⟨members, hparse, hnamed, hfold⟩ := readRainfallFile_ok hread
    refine ⟨content, members, rfl, hne, hfits, hparse, hnamed, ?_⟩
    intro total hmem
    obtain ⟨item, hitem, hget⟩ :=
      (foldlM_restoreTotal_ok (restored_nodup t members) hfold).1 total hmem
    refine ⟨item, hitem, (restored_value_iff _ hparse hitem).mp ?_⟩
    rw [← hget]
    rcases hvalues total with hkept | ⟨_, n, hfile, hstored, hn⟩
    · exact .inl hkept
    · cases hfile
      exact .inr ⟨n, hstored, hn⟩

theorem Trusted.survives {t : LocalTime} {content : List Char}
    {members : List (CString × CJson K)} {wd : WeatherData K}
    (h : Trusted t content members wd) : Survives t (some content) wd := by
  obtain ⟨totals, hfold⟩ := foldlM_restoreTotal_exists
    (fun total hmem => (h.found total hmem).imp fun _ hitem => hitem.1) wd.toRainTotals
  have hread : readRainfall t (cJSONParse (content.takeWhile (· ≠ Char.ofNat 0)))
      wd.toRainTotals = .ok totals := by
    rw [h.parses, readRainfall_object t _ h.named, hfold]
  refine ⟨_, readRainfallFile_of_parse h.nonempty h.fits hread, ?_⟩
  obtain ⟨hset, hkept⟩ := foldlM_restoreTotal_ok (restored_nodup t members) hfold
  intro total
  by_cases hmem : total ∈ restored t members
  · obtain ⟨item, hitem, hnumber⟩ := h.found total hmem
    obtain ⟨item', hitem', hget⟩ := hset total hmem
    cases hitem.symm.trans hitem'
    rcases (restored_value_iff _ h.parses hitem).mpr hnumber with hvalue | ⟨n, hstored, hvalue⟩
    · exact .inl (hget.trans hvalue)
    · exact .inr ⟨content, n, rfl, hstored, hget.trans hvalue⟩
  · exact .inl (hkept total hmem)

/-- What the reader takes for granted is exactly what it takes to come through. -/
theorem damaged_file_survived_iff (t : LocalTime) (file : Option (List Char))
    (wd : WeatherData K) :
    Survives t file wd ↔
      ∃ content members, file = some content ∧ Trusted t content members wd := by
  constructor
  · exact Survives.trusted
  · rintro ⟨content, members, rfl, htrusted⟩
    exact htrusted.survives

theorem empty_file_not_survived :
    readRainfallFile (utc 0) (some []) (WeatherData.initial (K := Float) .zero) =
        .error .uninitialized ∧
      ¬ Survives (utc 0) (some []) (WeatherData.initial (K := Float) .zero) := by
  refine ⟨rfl, ?_⟩
  rintro ⟨_, hread, _⟩
  cases hread

theorem saved_file_trusted {K : Type} [Field K] [LinearOrder K] [FloorRing K]
    {content : List Char} {saved : LocalTime} {totals : RainTotals K}
    (t : LocalTime) (wd : WeatherData K) (hne : content ≠ []) (hfits : content.length < 4096)
    (hparse : cJSONParse (content.takeWhile (· ≠ Char.ofNat 0)) =
      some (saveRainfall saved totals)) :
    ∃ members, Trusted t content members wd := by
  refine ⟨_, hne, hfits, hparse, ?_, ?_⟩
  · intro first rest htime
    cases htime
  · intro total _
    cases total <;> exact ⟨_, rfl, .inl ⟨_, rfl⟩⟩

end WfPublisher
