import DnsBalancer.Balancer.Control
import DnsBalancer.Settings.Load
import DnsBalancer.Zone.Load

/-!
# Starting up

The settings file comes first, then the shared profiles, the location table, the
databases and the zones. A zone that cannot be loaded is left out; anything else that
fails ends the start.
-/
namespace DnsBalancer

/-- Why the service does not start. -/
inductive StartFault where
  | settingsFile (path : String)
  | settings (cause : ConfigError)
  | profiles (path : String) (cause : ConfigError)
  | locations (path : String) (cause : ConfigError)
  | databases (cause : ConfigError)
  deriving DecidableEq, Repr

def StartFault.message : StartFault → String
  | .settingsFile path => "Failed to read config file " ++ path
  | .settings (.invalidSetting fault) => (ConfigError.invalidSetting fault).message
  | .settings _ => "Failed to parse engine config"
  | .profiles path _ => "Failed to load healthcheck profiles from " ++ path
  | .locations path _ => "Failed to load location map from " ++ path
  | .databases _ => "Failed to open MaxMind databases"

/-- The content of files by name. -/
abbrev ReadFile := String → Except ReadFault ByteArray

/-- The text of a file. -/
def ReadFile.text (read : ReadFile) (path : String) : Except ReadFault String := do
  match String.fromUTF8? (← read path) with
  | some s => .ok s
  | none => .error .notText

/-- Loads every zone that can be loaded. -/
def ZoneDefinition.loadAll (read : ReadFile) (zones : List (String × String)) (shared : Profiles) :
    List ZoneDefinition :=
  zones.filterMap fun (zone, path) =>
    (ZoneDefinition.load zone path (read.text path) shared).toOption

def Settings.load (read : ReadFile) (path : String) (environment : List (String × String)) :
    Except StartFault Settings :=
  match read.text path with
  | .error _ => .error (.settingsFile path)
  | .ok text => (Settings.read path text environment).mapError .settings

namespace Balancer

/-- The settings file where none is named. -/
def defaultSettings : String := "gslb.yml"

/-- The balancer that settings describe, at rest. -/
def ofSettings (read : ReadFile) (s : Settings) : Except StartFault Balancer := do
  let profiles ← match s.profiles with
    | some path => (Profiles.load path (read.text path)).mapError (.profiles path)
    | none => .ok []
  let locations ← match s.locations with
    | some path => (LocationTable.load path (read.text path)).mapError (.locations path)
    | none => .ok {}
  let geo ← (GeoSources.load s.databases read).mapError .databases
  let zones := ZoneDefinition.loadAll read s.zones profiles
  return { ofDefinitions zones with profiles, locations, geo, pacing := s.pacing }

/-- Starts up with the arguments of a command line, the first of which may name the
settings file. -/
def startUp (read : ReadFile) (arguments : List String) (environment : List (String × String)) :
    Except StartFault Balancer := do
  (ofSettings read (← Settings.load read (arguments.head?.getD defaultSettings) environment)).map
    start

end Balancer

end DnsBalancer
