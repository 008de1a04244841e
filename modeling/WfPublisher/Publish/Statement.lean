import Mathlib
import WfPublisher.Lib.Assignments
import WfPublisher.Publish.Conservation
import WfPublisher.Publish.Texts

/-!
# What the database is told

The statement names its columns in the format and takes their values from a list
of arguments. The list lacks the direction of the gust, so the values from there
on stand one place too early.
-/

namespace WfPublisher

open Printf

section
variable {K : Type} [Field K] [LinearOrder K] [FloorRing K]

def setColumn (name : String) (x : K) : CString :=
  name.toList ++ "=\"".toList ++ printF 6 x ++ "\"".toList

def WeatherLog.statement (row : WeatherLog K) : CString :=
  "insert into weather_log set ".toList ++ [','].intercalate
    [setColumn "pressure" row.pressure,
      setColumn "temperature" row.temperature,
      setColumn "humidity" row.humidity,
      setColumn "windspeed" row.windspeed,
      setColumn "winddirection" row.winddirection,
      setColumn "gustspeed" row.gustspeed,
      setColumn "gustdirection" row.gustdirection,
      setColumn "rainfall_1min" row.rainfall1min,
      setColumn "rainfall_1hr" row.rainfall1hr,
      setColumn "rainfall_day" row.rainfallDay,
      setColumn "rainfall_month" row.rainfallMonth,
      setColumn "rainfall_year" row.rainfallYear,
      setColumn "dewpoint" row.dewpoint,
      setColumn "heatindex" row.heatindex]

def readStatement (statement : CString) : Option (List (CString × CString)) := do
  let pairs ← statement.dropPrefix? "insert into weather_log set ".toList
  Assignments.read pairs

omit [Field K] [LinearOrder K] [FloorRing K] in
def WeatherLog.columns (row : WeatherLog K) : List (CString × K) :=
  [("pressure".toList, row.pressure), ("temperature".toList, row.temperature),
    ("humidity".toList, row.humidity), ("windspeed".toList, row.windspeed),
    ("winddirection".toList, row.winddirection), ("gustspeed".toList, row.gustspeed),
    ("gustdirection".toList, row.gustdirection), ("rainfall_1min".toList, row.rainfall1min),
    ("rainfall_1hr".toList, row.rainfall1hr), ("rainfall_day".toList, row.rainfallDay),
    ("rainfall_month".toList, row.rainfallMonth), ("rainfall_year".toList, row.rainfallYear),
    ("dewpoint".toList, row.dewpoint), ("heatindex".toList, row.heatindex)]

def WeatherLog.printed (row : WeatherLog K) : List (CString × CString) :=
  row.columns.map fun (column, x) => (column, printF 6 x)

omit [Field K] [LinearOrder K] [FloorRing K] in
def WeatherLog.ofRecord (wd : WeatherData K) : WeatherLog K where
  pressure := wd.pressure
  temperature := wd.temperature
  humidity := wd.humidity
  windspeed := wd.windspeed
  winddirection := wd.winddirection
  gustspeed := wd.gustspeed
  gustdirection := wd.gustdirection
  rainfall1min := wd.rain
  rainfall1hr := wd.rainfall1hr
  rainfallDay := wd.rainfallDay
  rainfallMonth := wd.rainfallMonth
  rainfallYear := wd.rainfallYear
  dewpoint := wd.dewpoint
  heatindex := wd.heatindex

-- ---------------------------------------------------------------------------
-- Reading a statement
-- ---------------------------------------------------------------------------

theorem statement_eq (row : WeatherLog K) : row.statement =
    "insert into weather_log set ".toList ++ Assignments.print row.printed := rfl

theorem plain_printF {column : CString} {x : K} (h : ',' ∉ column ∧ '=' ∉ column) :
    Assignments.Plain (column, printF 6 x) := by
  refine ⟨h, fun hmem => ?_, fun hmem => ?_⟩
  · obtain h | h | h := mem_printF hmem <;> revert h <;> decide
  · obtain h | h | h := mem_printF hmem <;> revert h <;> decide

omit [Field K] [LinearOrder K] [FloorRing K] in
theorem columns_plain (row : WeatherLog K) :
    ∀ column ∈ row.columns, ',' ∉ column.1 ∧ '=' ∉ column.1 := by
  simp [WeatherLog.columns]

theorem readStatement_statement (row : WeatherLog K) :
    readStatement row.statement = some row.printed := by
  have hprefix (text : CString) : ("insert into weather_log set ".toList ++ text).dropPrefix?
      "insert into weather_log set ".toList = some text :=
    List.dropPrefix?_append_of_beq text (by decide)
  have hplain : ∀ pair ∈ row.printed, Assignments.Plain pair := by
    intro pair hpair
    obtain ⟨⟨column, x⟩, hcolumn, rfl⟩ := List.mem_map.mp hpair
    exact plain_printF (columns_plain row _ hcolumn)
  rw [statement_eq, readStatement, hprefix]
  exact Assignments.read_print (by simp [WeatherLog.printed, WeatherLog.columns]) hplain

-- ---------------------------------------------------------------------------
-- A record
-- ---------------------------------------------------------------------------

/-- What the shift by one place does not change. -/
structure ShiftedAlike (wd : WeatherData K) : Prop where
  gustdirection : Alike 6 wd.rain wd.gustdirection
  rainfall1min : Alike 6 wd.rainfall1hr wd.rain
  rainfall1hr : Alike 6 wd.rainfallDay wd.rainfall1hr
  rainfallDay : Alike 6 wd.rainfallMonth wd.rainfallDay
  rainfallMonth : Alike 6 wd.rainfallYear wd.rainfallMonth
  rainfallYear : Alike 6 wd.winddirection wd.rainfallYear

/-- Each column has the field it names if and only if the seven fields that are
mixed up are printed alike. -/
theorem sendToDb_faithful_iff (call : Call K) :
    readStatement (sendToDb call).row.statement =
        some (WeatherLog.ofRecord (convertUnlessMetric call.cfg call.wd)).printed ↔
      ShiftedAlike (convertUnlessMetric call.cfg call.wd) := by
  have hprint {x y : K} : printF 6 x = printF 6 y ↔ Alike 6 x y := printF_eq_iff (by decide)
  rw [readStatement_statement]
  simp only [WeatherLog.printed, WeatherLog.columns, sendToDb, WeatherLog.ofRecord, hprint,
    Option.some.injEq, List.map_cons, List.cons.injEq, Prod.mk.injEq, true_and, and_true]
  constructor
  · rintro ⟨hgust, hrain, hhour, hday, hmonth, hyear⟩
    exact ⟨hgust, hrain, hhour, hday, hmonth, hyear⟩
  · rintro ⟨hgust, hrain, hhour, hday, hmonth, hyear⟩
    exact ⟨hgust, hrain, hhour, hday, hmonth, hyear⟩

end

-- ---------------------------------------------------------------------------
-- A gust from the east
-- ---------------------------------------------------------------------------

theorem eastWind_misfiled :
    let call : Call ℚ :=
      { gustAt 1 0 with wd := { WeatherData.zero with winddirection := 80, gustdirection := 90 } }
    readStatement (sendToDb call).row.statement ≠
      some (WeatherLog.ofRecord (convertUnlessMetric call.cfg call.wd)).printed := by
  decide +kernel

/-- A cloudburst on the first day of a year, in millimetres that are the degrees of the
wind as far as they are printed. -/
def cloudburst : Call ℚ :=
  { gustAt 1 0 with
    wd := { WeatherData.zero with
      pressure := 1004.25, temperature := 21.5, humidity := 92, windspeed := 6
      winddirection := 8, gustspeed := 14.75, gustdirection := 8, dewpoint := 20.125
      heatindex := 22, rain := 8, rainfall1hr := 8.0000001, rainfallDay := 8
      rainfallMonth := 8.0000002, rainfallYear := 8 } }

theorem cloudburst_filed :
    readStatement (sendToDb cloudburst).row.statement =
      some (WeatherLog.ofRecord (convertUnlessMetric cloudburst.cfg cloudburst.wd)).printed :=
  (sendToDb_faithful_iff cloudburst).mpr (by constructor <;> decide +kernel)

end WfPublisher
