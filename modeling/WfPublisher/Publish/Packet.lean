import Mathlib
import WfPublisher.Lib.FixedWidth
import WfPublisher.Publish.Averages
import WfPublisher.Publish.Independence
import WfPublisher.Publish.Texts

/-!
# Reading a CWOP packet

The widths in the format of the packet are least widths, and a humidity of 100
is written as 0.
-/

namespace WfPublisher

open BatchPublisher FixedWidth Printf

-- ---------------------------------------------------------------------------
-- The layout
-- ---------------------------------------------------------------------------

structure CwopReading where
  winddirection : Int
  windspeed : Int
  gustspeed : Int
  temperature : Int
  rainfall1hr : Int
  rainfallDay : Int
  humidity : Int
  pressure : Int
  solar : Int
  deriving DecidableEq

def cwopLayout : List Item :=
  [⟨"_".toList, 3⟩, ⟨"/".toList, 3⟩, ⟨"g".toList, 3⟩, ⟨"t".toList, 3⟩, ⟨"r".toList, 3⟩,
    ⟨"P".toList, 3⟩, ⟨"h".toList, 2⟩, ⟨"b".toList, 5⟩, ⟨"L".toList, 3⟩]

/-- Humidity 00 means 100. -/
def CwopReading.ofNumbers : List Int → Option CwopReading
  | [dir, speed, gust, temp, hour, day, humidity, pressure, solar] =>
    some ⟨dir, speed, gust, temp, hour, day, if humidity = 0 then 100 else humidity, pressure,
      solar⟩
  | _ => none

def readPacket (position packet : CString) : Option CwopReading := do
  let text ← packet.dropPrefix? position
  let (numbers, tail) ← FixedWidth.read cwopLayout text
  guard (tail = "400\r\n".toList)
  CwopReading.ofNumbers numbers

theorem readPacket_append {position text : CString} {reading : CwopReading} :
    readPacket position (position ++ text) = some reading ↔
      ∃ numbers, FixedWidth.read cwopLayout text = some (numbers, "400\r\n".toList) ∧
        CwopReading.ofNumbers numbers = some reading := by
  have hposition : (position ++ text).dropPrefix? position = some text :=
    List.dropPrefix?_append_of_beq text (beq_self_eq_true position)
  simp [readPacket, hposition, Option.bind_eq_some_iff, guard]

namespace CwopRequest

def numbers (r : CwopRequest) : List Int :=
  [r.winddirection, r.windspeed, r.gustspeed, r.temperature, r.rainfall1hr, r.rainfallDay,
    r.humidity, r.pressure, r.solar]

theorem packet_eq (r : CwopRequest) : r.packet =
    r.position ++ (FixedWidth.print cwopLayout r.numbers ++ "400\r\n".toList) := by
  simp [packet, cwopLayout, numbers, FixedWidth.print]

def reading (r : CwopRequest) : CwopReading where
  winddirection := r.winddirection
  windspeed := r.windspeed
  gustspeed := r.gustspeed
  temperature := r.temperature
  rainfall1hr := r.rainfall1hr
  rainfallDay := r.rainfallDay
  humidity := if r.humidity = 0 then 100 else r.humidity
  pressure := r.pressure
  solar := r.solar

theorem readPacket_iff (r : CwopRequest) (reading : CwopReading) :
    readPacket r.position r.packet = some reading ↔
      List.Forall₂ Fits cwopLayout r.numbers ∧ reading = r.reading := by
  rw [packet_eq, readPacket_append]
  constructor
  · rintro ⟨numbers, hread, hreading⟩
    have hfits := (read_print_iff rfl _).mp ⟨numbers, hread⟩
    rw [read_print hfits] at hread
    cases hread
    exact ⟨hfits, (Option.some.inj hreading).symm⟩
  · rintro ⟨hfits, rfl⟩
    exact ⟨r.numbers, read_print hfits _, rfl⟩

end CwopRequest

-- ---------------------------------------------------------------------------
-- Rounding
-- ---------------------------------------------------------------------------

section
variable {K : Type} [Field K] [LinearOrder K] [FloorRing K]

/-- The averages and totals of a batch, rounded; `last` is its last record. -/
def encoded (records : List (WeatherData K)) (last : WeatherData K) : CwopReading where
  winddirection := roundHalfAway (mean WeatherData.winddirection records)
  windspeed := roundHalfAway (mean WeatherData.windspeed records)
  gustspeed := roundHalfAway (largestGust records)
  temperature := roundHalfAway (mean WeatherData.temperature records)
  rainfall1hr := roundHalfAway (last.rainfall1hr * 100.0)
  rainfallDay := roundHalfAway (last.rainfallDay * 100.0)
  humidity := roundHalfAway (mean WeatherData.humidity records)
  pressure := roundHalfAway (mean WeatherData.pressure records * 10.0)
  solar := roundHalfAway (mean WeatherData.solar records)

omit [FloorRing K] in
structure CwopInRange (records : List (WeatherData K)) (last : WeatherData K) : Prop where
  winddirection : 0 ≤ mean WeatherData.winddirection records ∧
    mean WeatherData.winddirection records ≤ 360
  windspeed : 0 ≤ mean WeatherData.windspeed records ∧ mean WeatherData.windspeed records ≤ 999
  gustspeed : 0 ≤ largestGust records ∧ largestGust records ≤ 999
  temperature : -99 ≤ mean WeatherData.temperature records ∧
    mean WeatherData.temperature records ≤ 999
  humidity : 0 ≤ mean WeatherData.humidity records ∧ mean WeatherData.humidity records ≤ 100
  pressure : 0 ≤ mean WeatherData.pressure records ∧ mean WeatherData.pressure records ≤ 9999.9
  rain : 0 ≤ last.rainfall1hr ∧ 0 ≤ last.rainfallDay
  solar : 0 ≤ mean WeatherData.solar records

/-- Less than ten inches of rain and 1000 W of sun, and air that is not quite dry. -/
structure Presentable (records : List (WeatherData K)) (last : WeatherData K) : Prop where
  rainfall1hr : last.rainfall1hr * 100.0 < 999.5
  rainfallDay : last.rainfallDay * 100.0 < 999.5
  solar : mean WeatherData.solar records < 999.5
  humidity : 0.5 ≤ mean WeatherData.humidity records

variable [IsStrictOrderedRing K] {x : K} {n : Int}

theorem roundHalfAway_le_iff (hx : 0 ≤ x) : roundHalfAway x ≤ n ↔ x < n + 0.5 := by
  rw [roundHalfAway, if_pos hx, ← Int.lt_add_one_iff, Int.floor_lt, Int.cast_add, Int.cast_one]
  constructor
  · intro h
    linarith
  · intro h
    linarith

theorem roundHalfAway_le (h : x ≤ n) : roundHalfAway x ≤ n := by
  unfold roundHalfAway
  split
  · rw [← Int.lt_add_one_iff, Int.floor_lt, Int.cast_add, Int.cast_one]
    linarith
  · rw [Int.ceil_le]
    linarith

theorem le_roundHalfAway (h : (n : K) ≤ x) : n ≤ roundHalfAway x := by
  unfold roundHalfAway
  split
  · rw [Int.le_floor]
    linarith
  · rw [Int.le_ceil_iff]
    linarith

theorem roundInt_of_range (h : -99 ≤ x ∧ x ≤ 99999) : roundInt x = roundHalfAway x := by
  have hlower : -99 ≤ roundHalfAway x := le_roundHalfAway (by exact_mod_cast h.1)
  have hupper : roundHalfAway x ≤ 99999 := roundHalfAway_le (by exact_mod_cast h.2)
  refine roundInt_eq ?_
  unfold intMin intMax
  omega

omit [FloorRing K] [LinearOrder K] [IsStrictOrderedRing K] in
theorem mean_mul (value : WeatherData K → K) (records : List (WeatherData K)) (c : K) :
    mean (fun wd => value wd * c) records = mean value records * c := by
  rw [mean_eq_sum, mean_eq_sum, List.sum_map_mul_right, div_mul_eq_mul_div]

-- ---------------------------------------------------------------------------
-- A batch
-- ---------------------------------------------------------------------------

variable {records : List (WeatherData K)} {last : WeatherData K} {r : CwopRequest}

/-- Not too much rain and sun for three digits. -/
def ThreeDigits (records : List (WeatherData K)) (last : WeatherData K) : Prop :=
  last.rainfall1hr * 100.0 < 999.5 ∧ last.rainfallDay * 100.0 < 999.5 ∧
    mean WeatherData.solar records < 999.5

theorem reading_eq_iff (h : CwopAverages records r) (hlast : last ∈ records.getLast?)
    (hrange : CwopInRange records last) (hdigits : ThreeDigits records last) :
    encoded records last = r.reading ↔ roundHalfAway (mean WeatherData.humidity records) ≠ 0 := by
  have hround {x : K} {lower upper : K} (hx : lower ≤ x ∧ x ≤ upper) (hlower : -99 ≤ lower)
      (hupper : upper ≤ 99999) : roundInt x = roundHalfAway x :=
    roundInt_of_range ⟨hlower.trans hx.1, hx.2.trans hupper⟩
  obtain ⟨hhourDigits, hdayDigits, hsolarDigits⟩ := hdigits
  obtain ⟨hhour, hday⟩ := h.rain last hlast
  have hpressure := h.pressure
  have hpressureRange : 0 ≤ mean WeatherData.pressure records * 10.0 ∧
      mean WeatherData.pressure records * 10.0 ≤ 99999 := by
    have := hrange.pressure
    norm_num at *
    constructor <;> linarith
  have hhundredths {x : K} (hx : 0 ≤ x) (hsmall : x * 100.0 < 999.5) :
      0 ≤ x * 100.0 ∧ x * 100.0 ≤ 999.5 := by
    refine ⟨?_, hsmall.le⟩
    norm_num
    exact hx
  rw [mean_mul, hround hpressureRange (by norm_num) le_rfl] at hpressure
  have hcode (n : Int) : n = (if (if n = 100 then 0 else n) = 0 then 100
      else if n = 100 then 0 else n) ↔ n ≠ 0 := by
    split_ifs <;> omega
  rw [← hcode]
  simp only [encoded, CwopRequest.reading, CwopReading.mk.injEq, h.winddirection, h.windspeed,
    h.gustspeed, h.temperature, hhour, hday, h.humidity, hpressure, h.solar,
    hround hrange.winddirection (by norm_num) (by norm_num),
    hround hrange.windspeed (by norm_num) (by norm_num),
    hround hrange.gustspeed (by norm_num) (by norm_num),
    hround hrange.temperature le_rfl (by norm_num),
    hround hrange.humidity (by norm_num) (by norm_num),
    hround (hhundredths hrange.rain.1 hhourDigits) (by norm_num) (by norm_num),
    hround (hhundredths hrange.rain.2 hdayDigits) (by norm_num) (by norm_num),
    hround ⟨hrange.solar, hsolarDigits.le⟩ (by norm_num) (by norm_num), true_and, and_true]

theorem fits_of_range {x : K} {n : Int} (tag : CString) (hn : n = roundInt x)
    (hrange : -99 ≤ x ∧ x ≤ 999) : Fits ⟨tag, 3⟩ n := by
  rw [roundInt_of_range ⟨hrange.1, hrange.2.trans (by norm_num)⟩] at hn
  have hlower : -99 ≤ n := hn ▸ le_roundHalfAway (by exact_mod_cast hrange.1)
  have hupper : n ≤ 999 := hn ▸ roundHalfAway_le (by exact_mod_cast hrange.2)
  refine (length_printD (by simp)).mpr ?_
  norm_num
  omega

theorem fits_iff_of_nonneg {x : K} {n : Int} (tag : CString) (hx : 0 ≤ x)
    (hn : n = roundInt x) : Fits ⟨tag, 3⟩ n ↔ x < 999.5 := by
  have hfits : Fits ⟨tag, 3⟩ n ↔ _ := length_printD (by simp)
  have hsmall := roundHalfAway_le_iff (n := 999) hx
  have hge : 0 ≤ roundHalfAway x := le_roundHalfAway (by exact_mod_cast hx)
  norm_num at hfits hsmall
  norm_num
  rw [hfits, ← hsmall]
  cases le_or_gt (roundHalfAway x) intMax with
  | inl hint =>
    rw [roundInt_eq ⟨by unfold intMin; omega, hint⟩] at hn
    omega
  | inr hover =>
    have hmin : n = intMin := hn.trans (if_neg fun hint => hint.2.not_gt hover)
    unfold intMin intMax at *
    omega

theorem humidity_fits {x : K} (hrange : 0 ≤ x ∧ x ≤ 100) :
    Fits ⟨"h".toList, 2⟩ (if roundInt x = 100 then 0 else roundInt x) := by
  rw [roundInt_of_range ⟨by linarith [hrange.1], by linarith [hrange.2]⟩]
  have hlower : 0 ≤ roundHalfAway x := le_roundHalfAway (by exact_mod_cast hrange.1)
  have hupper : roundHalfAway x ≤ 100 := roundHalfAway_le (by exact_mod_cast hrange.2)
  refine (length_printD (by simp)).mpr ?_
  split
  · norm_num
  · norm_num
    omega

theorem pressure_fits {x : K} (hrange : 0 ≤ x ∧ x ≤ 9999.9) :
    Fits ⟨"b".toList, 5⟩ (roundInt (x * 10.0)) := by
  have htenths : 0 ≤ x * 10.0 ∧ x * 10.0 ≤ 99999 := by
    norm_num at *
    constructor <;> linarith
  rw [roundInt_of_range ⟨by linarith [htenths.1], htenths.2⟩]
  have hlower : 0 ≤ roundHalfAway (x * 10.0) := le_roundHalfAway (by exact_mod_cast htenths.1)
  have hupper : roundHalfAway (x * 10.0) ≤ 99999 :=
    roundHalfAway_le (by exact_mod_cast htenths.2)
  generalize roundHalfAway (x * 10.0) = n at hlower hupper ⊢
  refine (length_printD (by simp)).mpr ?_
  norm_num
  omega

theorem numbers_fit_iff (h : CwopAverages records r) (hlast : last ∈ records.getLast?)
    (hrange : CwopInRange records last) :
    List.Forall₂ Fits cwopLayout r.numbers ↔ ThreeDigits records last := by
  have hwide {x upper : K} (hx : 0 ≤ x ∧ x ≤ upper) (hupper : upper ≤ 999) : -99 ≤ x ∧ x ≤ 999 := by
    constructor <;> linarith
  have hdir := fits_of_range "_".toList h.winddirection (hwide hrange.winddirection (by norm_num))
  have hspeed := fits_of_range "/".toList h.windspeed (hwide hrange.windspeed le_rfl)
  have hgust := fits_of_range "g".toList h.gustspeed (hwide hrange.gustspeed le_rfl)
  have htemp := fits_of_range "t".toList h.temperature hrange.temperature
  have hhumidity := humidity_fits hrange.humidity
  have hpressure := pressure_fits hrange.pressure
  rw [← mean_mul, ← h.pressure] at hpressure
  rw [← h.humidity] at hhumidity
  obtain ⟨hhour, hday⟩ := h.rain last hlast
  have hhour := fits_iff_of_nonneg "r".toList (by linarith [hrange.rain.1]) hhour
  have hday := fits_iff_of_nonneg "P".toList (by linarith [hrange.rain.2]) hday
  have hsolar := fits_iff_of_nonneg "L".toList hrange.solar h.solar
  rw [ThreeDigits, ← hhour, ← hday, ← hsolar]
  constructor
  · intro hall
    simp only [cwopLayout, CwopRequest.numbers, List.forall₂_cons] at hall
    obtain ⟨-, -, -, -, hr, hP, -, -, hL, -⟩ := hall
    exact ⟨hr, hP, hL⟩
  · rintro ⟨hr, hP, hL⟩
    exact .cons hdir (.cons hspeed (.cons hgust (.cons htemp (.cons hr (.cons hP
      (.cons hhumidity (.cons hpressure (.cons hL .nil))))))))

theorem roundHalfAway_ne_zero_iff {x : K} (hx : 0 ≤ x) : roundHalfAway x ≠ 0 ↔ 0.5 ≤ x := by
  have hle := roundHalfAway_le_iff (n := 0) hx
  have hge : 0 ≤ roundHalfAway x := le_roundHalfAway (by exact_mod_cast hx)
  rw [Int.cast_zero, zero_add] at hle
  rw [← not_lt, ← hle]
  omega

/-- The packet of a batch in range. -/
theorem cwopPacket_read_iff (call : Call K) (calls : List (Call K))
    (hlast : last ∈ (cwop.records calls).getLast?)
    (hrange : CwopInRange (cwop.records calls) last) :
    let request := cwop.request call (cwop.batchOf calls)
    readPacket request.position request.packet = some (encoded (cwop.records calls) last) ↔
      Presentable (cwop.records calls) last := by
  intro request
  have h := cwop_averages call calls
  rw [CwopRequest.readPacket_iff, numbers_fit_iff h hlast hrange]
  constructor
  · rintro ⟨hdigits, hreading⟩
    have hhumidity := (reading_eq_iff h hlast hrange hdigits).mp hreading
    exact ⟨hdigits.1, hdigits.2.1, hdigits.2.2,
      (roundHalfAway_ne_zero_iff hrange.humidity.1).mp hhumidity⟩
  · rintro ⟨hhour, hday, hsolar, hhumidity⟩
    have hdigits : ThreeDigits (cwop.records calls) last := ⟨hhour, hday, hsolar⟩
    exact ⟨hdigits, (reading_eq_iff h hlast hrange hdigits).mpr
      ((roundHalfAway_ne_zero_iff hrange.humidity.1).mpr hhumidity)⟩

end

-- ---------------------------------------------------------------------------
-- A wet day
-- ---------------------------------------------------------------------------

def rainyCall (minute : Int) (rainfallDay : ℚ) : Call ℚ where
  cfg := ⟨some "cwop.example".toList, some "TEST01".toList, none, none, 0⟩
  station := ⟨none, none, some "4500.00N".toList, some "12200.00W".toList, 0⟩
  time := minuteTime minute
  wd := { WeatherData.zero with humidity := 50, pressure := 1000, rainfallDay := rainfallDay }

def rainyRecord (rainfallDay : ℚ) : WeatherData ℚ :=
  unitConvert noPressure (rainyCall 1 rainfallDay).wd

theorem wetDay_unreadable :
    CwopInRange (cwop.records [rainyCall 1 300]) (rainyRecord 300) ∧
    let request := cwop.request (rainyCall 10 300) (cwop.batchOf [rainyCall 1 300])
    readPacket request.position request.packet ≠
      some (encoded (cwop.records [rainyCall 1 300]) (rainyRecord 300)) := by
  constructor
  · constructor <;> decide +kernel
  · decide +kernel

theorem dryDay_readable :
    let request := cwop.request (rainyCall 10 100) (cwop.batchOf [rainyCall 1 100])
    readPacket request.position request.packet =
      some (encoded (cwop.records [rainyCall 1 100]) (rainyRecord 100)) := by
  refine (cwopPacket_read_iff (rainyCall 10 100) [rainyCall 1 100] rfl ?_).mpr ?_
  · constructor <;> decide +kernel
  · constructor <;> decide +kernel

end WfPublisher
