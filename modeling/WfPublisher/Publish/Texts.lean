import Mathlib
import WfPublisher.Lib.Printf
import WfPublisher.Publish.Requests

/-!
# The texts of requests

What `sprintf` makes of a request, in the order of its format, and the buffers
of fixed size it writes to. A null pointer is printed as the C library prints it.
-/

namespace WfPublisher

open Printf hiding printF
open CDouble (printF)

def printS (s : Option CString) : CString := s.getD "(null)".toList

def timeStampUrl (gt : Tm) : CString :=
  [padded 4 ' ' (gt.tmYear + 1900), "-".toList, padded 2 '0' (gt.tmMon + 1), "-".toList,
    padded 2 '0' gt.tmMday, "%20".toList, padded 2 '0' gt.tmHour, ":".toList,
    padded 2 '0' gt.tmMin, ":".toList, padded 2 '0' gt.tmSec].flatten

-- ---------------------------------------------------------------------------
-- CWOP
-- ---------------------------------------------------------------------------

namespace CwopRequest

def position (r : CwopRequest) : CString :=
  [printS r.name, ">APRS,TCPIP*:/".toList, printD 2 r.gm.tmMday, printD 2 r.gm.tmHour,
    printD 2 r.gm.tmMin, "z".toList, printS r.latitude, "/".toList, printS r.longitude].flatten

def packet (r : CwopRequest) : CString :=
  [r.position, "_".toList, printD 3 r.winddirection, "/".toList, printD 3 r.windspeed,
    "g".toList, printD 3 r.gustspeed, "t".toList, printD 3 r.temperature,
    "r".toList, printD 3 r.rainfall1hr, "P".toList, printD 3 r.rainfallDay,
    "h".toList, printD 2 r.humidity, "b".toList, printD 5 r.pressure,
    "L".toList, printD 3 r.solar, "400\r\n".toList].flatten

def ident (r : CwopRequest) : CString :=
  ["user ".toList, printS r.name, " pass -1 vers linux-acu-link 1.00\r\n".toList].flatten

end CwopRequest

-- ---------------------------------------------------------------------------
-- Requests over HTTP
-- ---------------------------------------------------------------------------

/-- Literal parts of a format, each with the text of the conversion behind it. -/
def printParams (params : List (String × CString)) : CString :=
  params.flatMap fun (name, value) => name.toList ++ value

section
variable {K : Type} [CDouble K]

def WundergroundRequest.params (r : WundergroundRequest K) : List (String × CString) :=
  [("weatherstation/updateweatherstation.php?ID=", printS r.id), ("&PASSWORD=", printS r.password),
    ("&dateutc=", timeStampUrl r.dateutc),
    ("&softwaretype=Experimental&action=updateraw&baromin=", printF 6 r.baromin),
    ("&dailyrainin=", printF 6 r.dailyrainin), ("&rainin=", printF 6 r.rainin),
    ("&windgustdir=", printF 6 r.windgustdir), ("&winddir=", printF 6 r.winddir),
    ("&windgustmph=", printF 6 r.windgustmph), ("&windspeedmph=", printF 6 r.windspeedmph),
    ("&humidity=", printF 6 r.humidity), ("&dewptf=", printF 6 r.dewptf),
    ("&tempf=", printF 6 r.tempf)]

def WundergroundRequest.text (r : WundergroundRequest K) : CString := printParams r.params

def WeatherbugRequest.params (r : WeatherbugRequest K) : List (String × CString) :=
  [("data/livedata.aspx?action=live&ID=", printS r.id), ("&Key=", printS r.key),
    ("&Num=", printS r.num), ("&dateutc=", timeStampUrl r.dateutc),
    ("&softwaretype=Experimental&baromin=", printF 6 r.baromin),
    ("&dailyrainin=", printF 6 r.dailyrainin), ("&rainin=", printF 6 r.rainin),
    ("&windgustdir=", printF 6 r.windgustdir), ("&winddir=", printF 6 r.winddir),
    ("&windgustmph=", printF 6 r.windgustmph), ("&windspeedmph=", printF 6 r.windspeedmph),
    ("&humidity=", printF 6 r.humidity), ("&dewptf=", printF 6 r.dewptf),
    ("&tempf=", printF 6 r.tempf), ("&monthlyrainin=", printF 2 r.monthlyrainin),
    ("&Yearlyrainin=", printF 2 r.yearlyrainin)]

def WeatherbugRequest.text (r : WeatherbugRequest K) : CString := printParams r.params

def PwsRequest.params (r : PwsRequest K) : List (String × CString) :=
  [("pwsupdate/pwsupdate.php?&ID=", printS r.id), ("&PASSWORD=", printS r.password),
    ("&dateutc=", timeStampUrl r.dateutc), ("&baromin=", printF 6 r.baromin),
    ("&dailyrainin=", printF 6 r.dailyrainin), ("&rainin=", printF 6 r.rainin),
    ("&winddir=", printF 6 r.winddir), ("&windgustmph=", printF 6 r.windgustmph),
    ("&windspeedmph=", printF 6 r.windspeedmph), ("&humidity=", printF 6 r.humidity),
    ("&dewptf=", printF 6 r.dewptf), ("&tempf=", printF 6 r.tempf),
    ("&monthrainin=", printF 2 r.monthrainin), ("&yearrainin=", printF 2 r.yearrainin),
    ("&solarradiation=", printF 2 r.solarradiation), ("&UV=", printF 2 r.uv),
    ("&softwaretype=ACU-LINK&action=updateraw", [])]

def PwsRequest.text (r : PwsRequest K) : CString := printParams r.params

end

/-- `tpl` with the page, the host and the user agent. -/
def httpText (page : CString) (host : Option CString) : CString :=
  printParams [("GET /", page), (" HTTP/1.0\r\nHost: ", printS host),
    ("\r\nUser-Agent: ", "acu-link".toList), ("\r\n\r\n", [])]

-- ---------------------------------------------------------------------------
-- Buffers
-- ---------------------------------------------------------------------------

/-- `ident[50]`, the `malloc`s of a packet, of a request and of the text around it,
`buf[30]` and `topic[80]`. -/
inductive SendBuffer
  | ident
  | packet
  | request
  | str
  | buf
  | topic
  deriving DecidableEq

def SendBuffer.capacity : SendBuffer → Nat
  | .ident => 50
  | .packet => 4000
  | .request => 1024
  | .str => 4096
  | .buf => 30
  | .topic => 80

structure SendWrite where
  buffer : SendBuffer
  text : CString

def SendWrite.Fits (w : SendWrite) : Prop := w.text.length + 1 ≤ w.buffer.capacity

instance decidableSendFits (w : SendWrite) : Decidable w.Fits := inferInstanceAs (Decidable (_ ≤ _))

section
variable {K : Type} [CDouble K]

def CwopRequest.writes (r : CwopRequest) : List SendWrite :=
  [⟨.packet, r.packet⟩, ⟨.ident, r.ident⟩]

def WundergroundRequest.writes (r : WundergroundRequest K) : List SendWrite :=
  [⟨.request, r.text⟩, ⟨.str, httpText r.text r.header⟩]

def WeatherbugRequest.writes (r : WeatherbugRequest K) : List SendWrite :=
  [⟨.request, r.text⟩, ⟨.str, httpText r.text r.header⟩]

def PwsRequest.writes (r : PwsRequest K) : List SendWrite :=
  [⟨.request, r.text⟩, ⟨.str, httpText r.text r.header⟩]

/-- Other texts than that of the wind's direction are not copied. -/
def Printed.writes : Printed K → List SendWrite
  | .number x => [⟨.buf, printF 6 x⟩]
  | .integer n => [⟨.buf, printD 0 n⟩]
  | .text _ => []

variable [Zero K] [OfScientific K] [Add K] [Mul K] [Div K] [BEq K]

def mqttWrites (call : Call K) : List SendWrite :=
  let wd := convertUnlessMetric call.cfg call.wd
  (mqttPublish call).flatMap (fun message => message.payload.writes) ++
    ⟨.buf, wd.windDir⟩ :: wd.towerList.flatMap fun sensor =>
      (sensorTopics sensor).map fun message => ⟨.topic, message.topic⟩

variable [Neg K] [NatCast K] [LT K] [DecidableLT K]

def sendWrites (debug : Bool) (service : ServiceInfo) (time : CallTime) (wd : WeatherData K)
    (s : Statics K) : List SendWrite :=
  let call : Call K := ⟨service.cfg, service.station, time, wd⟩
  match service.kind with
  | .weatherUnderground => (sendToWunderground debug call).writes
  | .weatherBug => (sendToWeatherbug debug call s.weatherbug).2.toList.flatMap fun r => r.writes
  | .personalWeatherStation => (sendToPws debug call s.pws).2.toList.flatMap fun r => r.writes
  | .cwop => (sendToCwop call s.cwop).2.toList.flatMap fun r => r.writes
  | .mqtt => mqttWrites call
  | .logfile | .mysql | .display => []

end

-- ---------------------------------------------------------------------------
-- Lengths
-- ---------------------------------------------------------------------------

theorem length_printParams (params : List (String × CString)) : (printParams params).length =
    (params.map fun param => param.1.length).sum +
      (params.map fun param => param.2.length).sum := by
  induction params with
  | nil => rfl
  | cons param params ih =>
    have hcons : printParams (param :: params) =
        param.1.toList ++ param.2 ++ printParams params := rfl
    simp only [hcons, List.length_append, String.length_toList, ih, List.map_cons, List.sum_cons]
    omega

end WfPublisher
