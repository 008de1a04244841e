import Mathlib
import WfPublisher.CJson.PrintSafe
import WfPublisher.Rainfall.File

/-!
# `rainfall.json`, byte for byte

`save_rainfall` prints the totals and `read_rainfall` parses what is in the file,
with every number read as a double. What was saved comes back bit for bit, and a
file that the program did not finish is never believed.
-/

namespace WfPublisher

open Syntax

variable {K : Type} [Field K] [LinearOrder K] [FloorRing K]

def rainfallFile (t : LocalTime) (wd : RainTotals K) : Option CString :=
  (printValue true 0 (saveRainfall t wd)).map (· ++ ['\n'])

/-- `read_rainfall` with the numbers as `strtod` reads them. -/
def readRainfallText (t : LocalTime) (content : CString) (wd : WeatherData K) :
    Except FileFault (WeatherData K) :=
  let json := content.take 4096
  let len := json.length
  if 4096 ≤ len then .error .outsideBuffer
  else if 0 < len then
    (wd.readRainfall t ((cJSONParse (json.takeWhile (· ≠ Char.ofNat 0))).map
      roundNumbers)).mapError Fault.inFile
  else .error .uninitialized

-- ---------------------------------------------------------------------------
-- Writing
-- ---------------------------------------------------------------------------

omit [LinearOrder K] [FloorRing K] in
theorem isDouble_intCast {n : ℤ} (h : |n| < 2 ^ 53) : IsDouble (n : K) :=
  ⟨n, 0, h, by decide, by decide, by simp⟩

def RainTotals.Doubles (totals : RainTotals K) : Prop :=
  ∀ total : Total, IsDouble (total.get totals)

variable {saved : LocalTime} {totals : RainTotals K}

def savedTime (saved : LocalTime) : List (CString × ℤ) :=
  let lt := localtime saved
  [("hour".toList, lt.tmHour), ("day".toList, lt.tmMday), ("month".toList, lt.tmMon + 1),
    ("year".toList, lt.tmYear + 1900)]

def savedTotals : List Total :=
  [.last60, .last24, .currentHour, .currentDay, .currentMonth, .currentYear]

omit [LinearOrder K] [FloorRing K] in
theorem saveRainfall_eq : saveRainfall saved totals = .object
    (("time".toList, .object ((savedTime saved).map fun m => (m.1, .number (m.2 : K)))) ::
      savedTotals.map fun total => (total.key, .number (total.get totals))) := rfl

theorem savedTime_lt : ∀ m ∈ savedTime saved, |m.2| < 2 ^ 53 := by
  have hday := Calendar.dateOf_day_bounds saved.day
  have hyear := saved.yearFits
  have hday' : 1 ≤ (localtime saved).tmMday ∧ (localtime saved).tmMday ≤ 31 := hday
  have hyear' : intMin ≤ (localtime saved).tmYear + 1900 ∧
      (localtime saved).tmYear + 1900 ≤ intMax := by
    rwa [tmYear_eq, sub_add_cancel]
  simp only [savedTime, List.forall_mem_cons, abs_lt]
  unfold intMin intMax at hyear'
  refine ⟨by omega, by omega, by omega, by omega, List.forall_mem_nil _⟩

omit [LinearOrder K] [FloorRing K] in
theorem storable_saveRainfall (saved : LocalTime) (h : totals.Doubles) :
    Storable IsDouble nestingLimit (saveRainfall saved totals) := by
  have htime : ∀ m ∈ savedTime saved, Char.ofNat 0 ∉ m.1 := by
    simp only [savedTime, List.forall_mem_cons]
    exact ⟨by decide, by decide, by decide, by decide, List.forall_mem_nil _⟩
  have htotals : ∀ total ∈ savedTotals, Char.ofNat 0 ∉ total.key := by decide
  rw [saveRainfall_eq]
  refine .object ?_ ?_
  · simp only [List.forall_mem_cons, List.forall_mem_map]
    exact ⟨by decide, htotals⟩
  · simp only [List.forall_mem_cons, List.forall_mem_map]
    refine ⟨.object (n := 998) ?_ ?_, fun total _ => .number (h total)⟩
    · simpa only [List.forall_mem_map] using htime
    · simp only [List.forall_mem_map]
      exact fun m hm => .number (isDouble_intCast (savedTime_lt m hm))

section
variable {format : Bool} {depth : ℕ} {text : CString}

theorem length_formatted_le (text : CString) : (formatted format text).length ≤ text.length := by
  cases format
  · exact Nat.zero_le _
  · exact le_rfl

theorem length_printNumber_le {d : K} (h : printNumber d = some text) : text.length ≤ 25 := by
  simp only [printNumber] at h
  split_ifs at h with _ hlength <;> cases h <;> assumption

theorem length_printMembers_le (width bound : ℕ) (members : List (CString × CJson K))
    (hname : ∀ m ∈ members, (printStringPtr m.1).length ≤ width)
    (hvalue : ∀ m ∈ members, ∀ value, printValue format depth m.2 = some value →
      value.length ≤ bound) : ∀ {text}, printMembers format depth members = some text →
    text.length ≤ members.length * (depth + width + bound + 4) := by
  induction members with
  | nil =>
    intro text h
    cases h
    exact Nat.zero_le _
  | cons m next ih =>
    intro text h
    obtain ⟨value, hprint, h⟩ := Option.bind_eq_some_iff.mp h
    obtain ⟨rest, hrest, h⟩ := Option.bind_eq_some_iff.mp h
    cases h
    have hm := hvalue m List.mem_cons_self value hprint
    have hwidth := hname m List.mem_cons_self
    have hnext := ih (fun m hm => hname m (List.mem_cons_of_mem _ hm))
      (fun m hm => hvalue m (List.mem_cons_of_mem _ hm)) hrest
    have htabs : (formatted format (tabs depth)).length ≤ _ := length_formatted_le _
    have htab : (formatted format ['\t']).length ≤ _ := length_formatted_le _
    have hline : (formatted format ['\n']).length ≤ _ := length_formatted_le _
    generalize hcomma : (if next.isEmpty then [] else [',']) = comma
    have hcomma : comma.length ≤ 1 := by
      rw [← hcomma]
      split <;> decide
    rw [tabs, List.length_replicate] at htabs
    simp only [List.length_append, List.length_cons, List.length_nil, tabs] at htab hline ⊢
    rw [Nat.succ_mul]
    omega

end

theorem length_rainfallFile_lt {file : CString} (h : rainfallFile saved totals = some file) :
    file.length < 4096 := by
  obtain ⟨text, htext, rfl⟩ := Option.map_eq_some_iff.mp h
  rw [saveRainfall_eq, printValue] at htext
  obtain ⟨lines, hlines, htext⟩ := Option.bind_eq_some_iff.mp htext
  cases htext
  have hnames : ∀ m ∈ savedTime saved, (printStringPtr m.1).length ≤ 7 := by
    simp only [savedTime, List.forall_mem_cons]
    exact ⟨by decide, by decide, by decide, by decide, List.forall_mem_nil _⟩
  have htime : ∀ time, printValue true 1 (.object ((savedTime saved).map fun m =>
      (m.1, .number (m.2 : K)))) = some time → time.length ≤ 200 := by
    intro time htime
    rw [printValue] at htime
    obtain ⟨lines, hlines, htime⟩ := Option.bind_eq_some_iff.mp htime
    cases htime
    have hle := length_printMembers_le 7 25 _ (by
      simp only [List.forall_mem_map]
      exact hnames) (by
      simp only [List.forall_mem_map]
      exact fun m _ value hvalue => length_printNumber_le hvalue) hlines
    rw [List.length_map] at hle
    change _ ≤ 4 * 38 at hle
    simp only [formatted, tabs, if_true, List.length_cons, List.length_append,
      List.length_replicate, List.length_nil]
    omega
  have hle := length_printMembers_le 20 200 _ (by
    simp only [List.forall_mem_cons, List.forall_mem_map]
    exact ⟨by decide, by decide⟩) (by
    simp only [List.forall_mem_cons, List.forall_mem_map]
    exact ⟨htime, fun total _ value hvalue => (length_printNumber_le hvalue).trans (by decide)⟩)
    hlines
  rw [List.length_cons, List.length_map] at hle
  change _ ≤ 7 * 225 at hle
  simp only [formatted, tabs, if_true, List.length_cons, List.length_append,
    List.length_replicate, List.length_nil]
  omega

-- ---------------------------------------------------------------------------
-- Reading
-- ---------------------------------------------------------------------------

theorem readRainfallText_of_fits {t : LocalTime} {content : CString} {wd : WeatherData K}
    (hne : content ≠ []) (hfits : content.length < 4096) (hclean : Char.ofNat 0 ∉ content) :
    readRainfallText t content wd =
      (wd.readRainfall t ((cJSONParse content).map roundNumbers)).mapError Fault.inFile := by
  have htext : content.takeWhile (· ≠ Char.ofNat 0) = content := cString_eq hclean
  unfold readRainfallText
  dsimp only
  rw [List.take_of_length_le hfits.le, if_neg hfits.not_ge, if_pos (List.length_pos_iff.mpr hne),
    htext]

theorem cJSONParse_brace {rest : CString} {item : CJson K}
    (h : cJSONParse ('{' :: rest) = some item) : ∃ members, item = .object members := by
  have hskip : bufferSkipWhitespace (skipUtf8Bom ('{' :: rest)) = '{' :: rest := by
    rw [skipUtf8Bom_cons (by decide), bufferSkipWhitespace_cons (by decide)]
  rw [cJSONParse, hskip] at h
  change (parseObject (parseValue 999) rest).map Prod.fst = some item at h
  obtain ⟨⟨_, after⟩, hobject, rfl⟩ := Option.map_eq_some_iff.mp h
  unfold parseObject at hobject
  split at hobject
  · cases hobject
    exact ⟨[], rfl⟩
  · obtain ⟨⟨list, after'⟩, -, heq⟩ := Option.map_eq_some_iff.mp hobject
    cases heq
    exact ⟨list, rfl⟩

theorem readRainfallText_of_none {t : LocalTime} {content : CString} {wd : WeatherData K}
    (hne : content ≠ []) (hfits : content.length < 4096) (hclean : Char.ofNat 0 ∉ content)
    (h : cJSONParse (K := K) content = none) :
    readRainfallText t content wd = .error .nullDeref := by
  rw [readRainfallText_of_fits hne hfits hclean, h]
  cases hread : wd.readRainfall t ((none : Option (CJson K)).map roundNumbers) with
  | error fault =>
    cases fault
    rfl
  | ok wd' =>
    unfold WeatherData.readRainfall at hread
    cases htotals : readRainfall t ((none : Option (CJson K)).map roundNumbers) wd.toRainTotals with
    | error =>
      rw [htotals] at hread
      cases hread
    | ok totals =>
      obtain ⟨members, hmembers⟩ := readRainfall_ok_object htotals
      cases hmembers

variable [IsStrictOrderedRing K]

theorem rainfallFile_eq (saved : LocalTime) (h : totals.Doubles) :
    ∃ text exact, rainfallFile saved totals = some ('{' :: text ++ ['\n']) ∧
      Spells nestingLimit exact ('{' :: text) ∧ roundNumbers exact = saveRainfall saved totals ∧
      Char.ofNat 0 ∉ '{' :: text := by
  obtain ⟨text, exact, htext, hspells, hround⟩ := (storable_saveRainfall saved h).prints true 0
  have hclean := (PrintBuffer.faithful_of_storable ampleHooks true
    ((storable_saveRainfall saved h).mono fun _ _ => trivial)).clean htext
  have hbrace : ∃ text', text = '{' :: text' := by
    rw [saveRainfall_eq, printValue] at htext
    obtain ⟨lines, -, htext⟩ := Option.bind_eq_some_iff.mp htext
    cases htext
    exact ⟨_, rfl⟩
  obtain ⟨text, rfl⟩ := hbrace
  exact ⟨text, exact, by rw [rainfallFile, htext]; rfl, hspells, hround, hclean⟩

/-- The totals come back bit for bit, those whose period has ended as zeros. -/
theorem saved_file_restored (saved : LocalTime) (h : totals.Doubles) (t : LocalTime)
    (wd : WeatherData K) :
    ∃ file, rainfallFile saved totals = some file ∧
      readRainfallText t file { wd with toRainTotals := .zero } =
        .ok { wd with toRainTotals := totals.shared (localtime saved) (localtime t) } := by
  obtain ⟨text, exact, hfile, hspells, hround, hclean⟩ := rainfallFile_eq saved h
  have hnumber : ∀ d, exact ≠ .number d := by
    rintro d rfl
    cases hround
  have hnul : Char.ofNat 0 ∉ '{' :: text ++ ['\n'] :=
    PrintBuffer.notMem_append hclean (by decide)
  refine ⟨_, hfile, ?_⟩
  rw [readRainfallText_of_fits (by simp) (length_rainfallFile_lt hfile) hnul,
    cJSONParse_append hspells.cJSONParse hnumber, Option.map_some, hround,
    restores_running_periods]
  rfl

theorem quarters_doubles : (⟨1 / 4, 1 / 2, 3, 4, 5, 6⟩ : RainTotals ℚ).Doubles := by
  intro total
  cases total with
  | currentHour => exact ⟨1, -2, by decide, by decide, by decide, by norm_num [Total.get]⟩
  | currentDay => exact ⟨1, -1, by decide, by decide, by decide, by norm_num [Total.get]⟩
  | currentMonth => exact ⟨3, 0, by decide, by decide, by decide, by norm_num [Total.get]⟩
  | currentYear => exact ⟨4, 0, by decide, by decide, by decide, by norm_num [Total.get]⟩
  | last60 => exact ⟨5, 0, by decide, by decide, by decide, by norm_num [Total.get]⟩
  | last24 => exact ⟨6, 0, by decide, by decide, by decide, by norm_num [Total.get]⟩

theorem saved_file_restored_morning :
    ∃ file, rainfallFile (utc 1200) (⟨1 / 4, 1 / 2, 3, 4, 5, 6⟩ : RainTotals ℚ) = some file ∧
      readRainfallText (utc 12000) file (WeatherData.initial (K := ℚ) .zero) =
        .ok (.initial ⟨0, 1 / 2, 3, 4, 0, 6⟩) := by
  have hshared : (⟨1 / 4, 1 / 2, 3, 4, 5, 6⟩ : RainTotals ℚ).shared (localtime (utc 1200))
      (localtime (utc 12000)) = ⟨0, 1 / 2, 3, 4, 0, 6⟩ := by decide +kernel
  obtain ⟨file, hfile, hread⟩ :=
    saved_file_restored (utc 1200) quarters_doubles (utc 12000) (.initial .zero)
  refine ⟨file, hfile, hread.trans ?_⟩
  rw [hshared]
  rfl

/-- A file that lacks more than its last byte stops the reader: it looks into an item that
is not there, or frees one that was never assigned if nothing was written. -/
theorem torn_file_refused (saved : LocalTime) (h : totals.Doubles) (t : LocalTime)
    (wd : WeatherData K) :
    ∃ file, rainfallFile saved totals = some file ∧
      ∀ n, n + 1 < file.length → readRainfallText t (file.take n) wd =
        .error (if n = 0 then .uninitialized else .nullDeref) := by
  obtain ⟨text, exact, hfile, hspells, hround, hclean⟩ := rainfallFile_eq saved h
  refine ⟨_, hfile, ?_⟩
  intro n hn
  have hlength : n < text.length + 1 := by simpa using hn
  rw [List.take_append_of_le_length (by rw [List.length_cons]; omega)]
  cases n with
  | zero => rfl
  | succ n =>
    rw [List.take_succ_cons, if_neg n.succ_ne_zero]
    have hsplit : '{' :: text = ('{' :: text.take n) ++ text.drop n := by
      rw [List.cons_append, List.take_append_drop]
    have hrest : text.drop n ≠ [] := fun hnil => by
      have := List.drop_eq_nil_iff.mp hnil
      omega
    refine readRainfallText_of_none (by simp) ?_ ?_ ?_
    · have := length_rainfallFile_lt hfile
      simp only [List.length_cons, List.length_append, List.length_take] at this ⊢
      omega
    · rw [hsplit] at hclean
      exact fun hmem => hclean (List.mem_append_left _ hmem)
    · rw [hsplit] at hspells
      refine Option.eq_none_iff_forall_ne_some.mpr fun item hitem => ?_
      obtain ⟨d, rfl⟩ := hspells.cut hrest hitem
      obtain ⟨members, hmembers⟩ := cJSONParse_brace hitem
      cases hmembers

theorem torn_file_refused_quarters :
    ∃ file, rainfallFile (utc 1200) (⟨1 / 4, 1 / 2, 3, 4, 5, 6⟩ : RainTotals ℚ) = some file ∧
      ∀ n, n + 1 < file.length →
        readRainfallText (utc 12000) (file.take n) (WeatherData.initial (K := ℚ) .zero) =
          .error (if n = 0 then .uninitialized else .nullDeref) :=
  torn_file_refused (utc 1200) quarters_doubles (utc 12000) (.initial .zero)

end WfPublisher
