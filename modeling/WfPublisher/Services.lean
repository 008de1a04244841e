import WfPublisher.Convert

/-!
# Services

What an update function is called with: the service's configuration, the station
and a record of its own, at some time.
-/

namespace WfPublisher

/-- A string that the configuration file does not have is a null pointer. -/
structure CfgInfo where
  host : Option CString
  name : Option CString
  pass : Option CString
  extra : Option CString
  metric : Int
  deriving DecidableEq

structure StationInfo where
  name : Option CString
  location : Option CString
  latitude : Option CString
  longitude : Option CString
  elevation : Int
  deriving DecidableEq

/-- The clocks of one call: `lt` is broken down from `clock`. The C library may
keep one `struct tm` for `localtime` and `gmtime`; where it does, `clock` is UTC. -/
structure CallTime where
  clock : LocalTime
  gm : Tm

def CallTime.lt (t : CallTime) : Tm := localtime t.clock

inductive Kind
  | logfile
  | weatherUnderground
  | weatherBug
  | personalWeatherStation
  | cwop
  | mqtt
  | mysql
  | display
  deriving DecidableEq

/-- The `skip` of the one `unit_convert` in the kind's update function, if it is called. -/
def Kind.conversion (cfg : CfgInfo) : Kind → Option Nat
  | .cwop => some noPressure
  | _ => if cfg.metric = 0 then some convertAll else none

def Kind.converted {K : Type} [Add K] [Mul K] [Div K] [OfScientific K] [Zero K] [BEq K]
    (cfg : CfgInfo) (kind : Kind) (wd : WeatherData K) : WeatherData K :=
  match kind.conversion cfg with
  | none => wd
  | some skip => unitConvert skip wd

structure ServiceInfo where
  kind : Kind
  enabled : Int
  station : StationInfo
  cfg : CfgInfo
  deriving DecidableEq

def ServiceInfo.conversion (service : ServiceInfo) : Option Nat :=
  service.kind.conversion service.cfg

structure Call (K : Type) where
  cfg : CfgInfo
  station : StationInfo
  time : CallTime
  wd : WeatherData K

end WfPublisher
