import Mathlib
import WfPublisher.Publish.Averages
import WfPublisher.Publish.Conservation

/-!
# What a PWS Weather report says

All parameters but two are those of the batch, as for WeatherBug. Solar radiation
and UV index are read from the statics too, but nothing is ever stored there.
-/

namespace WfPublisher

open BatchPublisher

section
variable {K : Type} [Field K] [LinearOrder K]

/-- The value of a report comes from the batch: its mean or its last one. -/
def MeanOrLast (value : WeatherData K → K) (records : List (WeatherData K)) (x : K) : Prop :=
  x = mean value records ∨ ∃ last ∈ records.getLast?, x = value last

structure PwsFaithful (records : List (WeatherData K)) (request : PwsRequest K) : Prop where
  baromin : request.baromin = mean WeatherData.pressure records
  winddir : request.winddir = mean WeatherData.winddirection records
  windspeedmph : request.windspeedmph = mean WeatherData.windspeed records
  humidity : request.humidity = mean WeatherData.humidity records
  dewptf : request.dewptf = mean WeatherData.dewpoint records
  tempf : request.tempf = mean WeatherData.temperature records
  windgustmph : request.windgustmph = largestGust records
  rain : ∀ last ∈ records.getLast?,
    request.dailyrainin = last.rainfallDay ∧ request.rainin = last.rainfall1hr ∧
      request.monthrainin = last.rainfallMonth ∧ request.yearrainin = last.rainfallYear
  solarradiation : MeanOrLast WeatherData.solar records request.solarradiation
  uv : MeanOrLast WeatherData.uv records request.uv
  sunny : (∀ wd ∈ records, 0 < wd.solar ∧ 0 < wd.uv) →
    request.solarradiation ≠ 0 ∧ request.uv ≠ 0

/-- On the average, or at last, there is neither sun nor UV. -/
def Sunless (records : List (WeatherData K)) : Prop :=
  MeanOrLast WeatherData.solar records 0 ∧ MeanOrLast WeatherData.uv records 0

-- ---------------------------------------------------------------------------
-- The two parameters
-- ---------------------------------------------------------------------------

omit [LinearOrder K] in
theorem mean_congr {f g : WeatherData K → K} {xs ys : List (WeatherData K)}
    (h : xs.map f = ys.map g) : mean f xs = mean g ys := by
  have hlength : xs.length = ys.length := by
    simpa using congrArg List.length h
  rw [mean, mean, h, hlength]

theorem mean_pos [IsStrictOrderedRing K] {value : WeatherData K → K}
    {records : List (WeatherData K)} (hne : records ≠ []) (h : ∀ wd ∈ records, 0 < value wd) :
    0 < mean value records := by
  have hsum : 0 < (records.map value).sum := by
    refine List.sum_pos _ (fun x hx => ?_) (by simpa using hne)
    obtain ⟨wd, hwd, rfl⟩ := List.mem_map.mp hx
    exact h wd hwd
  have hcount : 0 < (records.length : K) := by
    exact_mod_cast List.length_pos_iff.mpr hne
  rw [mean_eq_sum]
  exact div_pos hsum hcount

theorem MeanOrLast.pos [IsStrictOrderedRing K] {value : WeatherData K → K}
    {records : List (WeatherData K)} {x : K} (hx : MeanOrLast value records x) (hne : records ≠ [])
    (h : ∀ wd ∈ records, 0 < value wd) : 0 < x := by
  obtain rfl | ⟨last, hlast, rfl⟩ := hx
  · exact mean_pos hne h
  · exact h last (List.mem_of_getLast? hlast)

-- ---------------------------------------------------------------------------
-- A report
-- ---------------------------------------------------------------------------

namespace BatchPublisher

theorem pws_sunless (debug : Bool) (call : Call K) (calls : List (Call K)) :
    ((pws debug).request call ((pws debug).batchOf calls)).solarradiation = 0 ∧
      ((pws debug).request call ((pws debug).batchOf calls)).uv = 0 := by
  have hsolar (ws wd : WeatherData K) : ((pws debug).add ws wd).solar = ws.solar := rfl
  have huv (ws wd : WeatherData K) : ((pws debug).add ws wd).uv = ws.uv := rfl
  constructor
  · exact Folded.foldl_unwritten hsolar _ WeatherData.zero
  · exact Folded.foldl_unwritten huv _ WeatherData.zero

omit [LinearOrder K] in
theorem meanOrLast_records {p : BatchPublisher K (PwsRequest K)}
    {value : WeatherData K → K} (hvalue : ∀ cfg wd, value (p.convert cfg wd) = value wd)
    (calls : List (Call K)) (x : K) :
    MeanOrLast value (p.records calls) x ↔ MeanOrLast value (calls.map Call.wd) x := by
  have hmean : mean value (p.records calls) = mean value (calls.map Call.wd) := by
    refine mean_congr ?_
    simp [records, hvalue]
  unfold MeanOrLast
  rw [hmean]
  simp [records, hvalue]

theorem sunless_records (debug : Bool) (calls : List (Call K)) :
    Sunless ((pws debug).records calls) ↔ Sunless (calls.map Call.wd) := by
  refine and_congr (meanOrLast_records (fun cfg wd => ?_) calls 0)
    (meanOrLast_records (fun cfg wd => ?_) calls 0)
  · exact apply_ite WeatherData.solar (cfg.metric = 0) _ _ |>.trans (ite_self _)
  · exact apply_ite WeatherData.uv (cfg.metric = 0) _ _ |>.trans (ite_self _)

theorem pws_faithful_iff [IsStrictOrderedRing K] (debug : Bool) (call : Call K)
    {calls : List (Call K)} (hne : calls ≠ []) :
    PwsFaithful ((pws debug).records calls)
        ((pws debug).request call ((pws debug).batchOf calls)) ↔
      Sunless (calls.map Call.wd) := by
  obtain ⟨hsolar, huv⟩ := pws_sunless debug call calls
  rw [← sunless_records debug]
  constructor
  · intro h
    exact ⟨hsolar ▸ h.solarradiation, huv ▸ h.uv⟩
  · rintro ⟨hsun, hindex⟩
    have hmean {f : WeatherData K → K} := mean_batchOf (p := pws debug) (f := f) (g := f)
    constructor
    · exact hmean rfl (fun _ _ => rfl) calls
    · exact hmean rfl (fun _ _ => rfl) calls
    · exact hmean rfl (fun _ _ => rfl) calls
    · exact hmean rfl (fun _ _ => rfl) calls
    · exact hmean rfl (fun _ _ => rfl) calls
    · exact hmean rfl (fun _ _ => rfl) calls
    · exact gust_batchOf (p := pws debug) (fun _ _ => rfl) calls
    · intro last hlast
      have hkept {f : WeatherData K → K} := last_batchOf (p := pws debug) (f := f)
      exact ⟨hkept (f := fun wd => wd.rainfallDay) (fun _ _ => rfl) hlast,
        hkept (f := fun wd => wd.rainfall1hr) (fun _ _ => rfl) hlast,
        hkept (f := fun wd => wd.rainfallMonth) (fun _ _ => rfl) hlast,
        hkept (f := fun wd => wd.rainfallYear) (fun _ _ => rfl) hlast⟩
    · rwa [hsolar]
    · rwa [huv]
    · -- where the sun shines on every record, the batch is not sunless
      intro hsunny
      have hrecords : (pws debug).records calls ≠ [] := by simpa [records] using hne
      have hpos := hsun.pos hrecords fun wd hwd => (hsunny wd hwd).1
      exact absurd hpos (lt_irrefl 0)

end BatchPublisher

theorem pwsReports_faithful_iff [IsStrictOrderedRing K] (debug : Bool) (calls : List (Call K)) :
    ∀ r ∈ ((pws debug).ledger calls).reports,
      PwsFaithful ((pws debug).records r.covers) r.request ↔ Sunless (r.covers.map Call.wd) := by
  intro r hr
  obtain ⟨-, hne, hrequest⟩ := (ledger_right (pws debug) calls).reports r hr
  rw [hrequest]
  exact pws_faithful_iff debug r.call hne

end

-- ---------------------------------------------------------------------------
-- A sunny minute
-- ---------------------------------------------------------------------------

def sunAt (minute : Int) (solar uv : ℚ) : Call ℚ where
  cfg := noStrings
  station := noStation
  time := ⟨utc (60 * minute), localtime (utc (60 * minute))⟩
  wd := { WeatherData.zero with solar := solar, uv := uv }

theorem sunnyMinute_dark : ¬ ∀ r ∈ ((pws false).ledger [sunAt 1 500 3, sunAt 2 500 3]).reports,
    PwsFaithful ((pws false).records r.covers) r.request := by
  intro h
  have hsun := (h _ (List.mem_singleton_self _)).solarradiation
  revert hsun
  unfold MeanOrLast
  decide +kernel

def duskAt (minute : Int) (temperature gust solar : ℚ) : Call ℚ where
  cfg := { noStrings with metric := 0 }
  station := noStation
  time := ⟨utc (60 * minute), localtime (utc (60 * minute))⟩
  wd := { WeatherData.zero with
    pressure := 1010 + temperature, temperature, humidity := 60, windspeed := gust / 2
    winddirection := 200 + gust, gustspeed := gust, dewpoint := temperature - 8
    rainfall1hr := 1.5, rainfallDay := 4, rainfallMonth := 20.25, rainfallYear := 310
    solar, uv := solar / 100 }

def duskCalls : List (Call ℚ) :=
  [duskAt 1 18.5 5 12, duskAt 1 18.25 7.5 0, duskAt 2 18 6 0, duskAt 3 17.75 4 0,
    duskAt 4 17.5 3 0]

theorem duskReports_faithful :
    ((pws false).ledger duskCalls).reports.map
        (fun r => r.covers.map fun call => call.wd.solar) = [[12, 0], [0]] ∧
      ∀ r ∈ ((pws false).ledger duskCalls).reports,
        PwsFaithful ((pws false).records r.covers) r.request := by
  refine ⟨by decide +kernel, fun r hr => ?_⟩
  have h := pwsReports_faithful_iff false duskCalls r hr
  have hlast : ∀ r ∈ ((pws false).ledger duskCalls).reports,
      (∃ last ∈ (r.covers.map Call.wd).getLast?, 0 = last.solar) ∧
        ∃ last ∈ (r.covers.map Call.wd).getLast?, 0 = last.uv := by
    decide +kernel
  obtain ⟨hsolar, huv⟩ := hlast r hr
  exact h.mpr ⟨.inr hsolar, .inr huv⟩

end WfPublisher
