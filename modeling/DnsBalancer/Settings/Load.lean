import DnsBalancer.Balancer.State
import DnsBalancer.Database.Places
import DnsBalancer.Settings.Json
import DnsBalancer.Settings.Path
import DnsBalancer.Settings.Plain

/-!
# The settings of the service

What the settings file says, YAML or JSON by the ending of its name, with what the
environment says over it.
-/
namespace DnsBalancer

structure MetricsSettings where
  enabled : Bool := true
  port : Nat := 9153
  path : String := "/metrics"
  deriving DecidableEq, Repr, Inhabited

structure Settings where
  /-- Where the zone files are found, by zone, names sorted. -/
  zones : List (String × String) := []
  maxStagger : Duration := .ofSeconds 60
  batchSize : Nat := 100
  idleTimeout : Duration := .ofSeconds 3600
  idleMultiplier : Nat := 10
  locations : Option String := none
  databases : DatabasePaths := {}
  profiles : Option String := none
  metrics : MetricsSettings := {}
  deriving DecidableEq, Repr, Inhabited

namespace Settings

/-- The names under which settings are written. -/
def names : List String := [
  "zones", "max_stagger_start", "batch_size_start", "resolution_idle_timeout",
  "healthcheck_idle_multiplier", "geoip_custom", "geoip_maxmind", "healthcheck_profiles",
  "metrics"]

/-- Every file that settings name. -/
def files (s : Settings) : List String :=
  s.profiles.toList ++ s.locations.toList ++ s.databases.country.toList ++
    s.databases.city.toList ++ s.databases.asn.toList ++ s.zones.map (·.2)

def policy (s : Settings) : IdlePolicy := ⟨s.idleTimeout, s.idleMultiplier⟩

def pacing (s : Settings) : Pacing := ⟨s.policy, s.maxStagger, s.batchSize⟩

/-- Puts a zone in its place by name. -/
def placeZone (name path : String) : List (String × String) → List (String × String)
  | [] => [(name, path)]
  | (n, p) :: rest =>
    if n = name then (name, path) :: rest
    else if name < n then (name, path) :: (n, p) :: rest
    else (n, p) :: placeZone name path rest

def zones? (s : Setting) : Option (List (String × String)) := do
  (← s.table?).foldlM (fun zs (name, path) => do return placeZone name (← path.text?) zs) []

def metrics? (s : Setting) : Option MetricsSettings := do
  let es ← s.table?
  let d : MetricsSettings := {}
  return {
    enabled := ← Setting.entry? "enabled" d.enabled Setting.flag? es
    port := ← Setting.entry? "port" d.port (Setting.natural? 16) es
    path := ← Setting.entry? "path" d.path Setting.text? es }

def databases? (s : Setting) : Option DatabasePaths := do
  let es ← s.table?
  let path (name : String) := Setting.entry? name none (Setting.optional? Setting.text?) es
  return { country := ← path "country_db", city := ← path "city_db", asn := ← path "asn_db" }

def ofTable? (es : List (String × Setting)) : Option Settings := do
  let d : Settings := {}
  let path (name : String) := Setting.entry? name none (Setting.optional? Setting.text?) es
  return {
    zones := ← Setting.entry? "zones" d.zones zones? es
    maxStagger := ← Setting.entry? "max_stagger_start" d.maxStagger Setting.duration? es
    batchSize := ← Setting.entry? "batch_size_start" d.batchSize (Setting.natural? 64) es
    idleTimeout := ← Setting.entry? "resolution_idle_timeout" d.idleTimeout Setting.duration? es
    idleMultiplier :=
      ← Setting.entry? "healthcheck_idle_multiplier" d.idleMultiplier (Setting.natural? 32) es
    locations := ← path "geoip_custom"
    databases := ← Setting.entry? "geoip_maxmind" d.databases databases? es
    profiles := ← path "healthcheck_profiles"
    metrics := ← Setting.entry? "metrics" d.metrics metrics? es }

/-- The first thing that is not allowed. -/
def fault? (s : Settings) : Option SettingFault :=
  if s.zones.isEmpty then some .noZones
  else if s.batchSize = 0 then some .zeroBatch
  else if s.idleMultiplier = 0 then some .zeroMultiplier
  else if s.idleTimeout.isZero then some .zeroIdleTimeout
  else if s.metrics.enabled && s.metrics.path.toList.head? != some '/' then
    some (.metricsPath s.metrics.path)
  else none

/-- The ending of a file's name, behind its last point. A point that the name begins
with does not count. -/
def ending? (path : String) : Option String :=
  let name := (Text.splitOn '/' (Text.dropEndWhile (· == '/') path.toList)).getLast?.getD []
  let back := name.reverse.takeWhile (· != '.')
  if name == ['.', '.'] || back.length + 1 ≥ name.length then none
  else some (String.ofList back.reverse)

/-- The settings a text holds. One that holds no table sets nothing. -/
def parse? (path text : String) : Option (List (String × Setting)) :=
  let yaml := ending? path == some "yaml" || ending? path == some "yml"
  (if yaml then Setting.ofYaml? text else Setting.Json.parse? text).map Setting.entries

/-- What the names of our own variables in the environment begin with, in any letter
case. -/
def mark : String := "gslb_"

/-- Our own variables, under the names of the settings. -/
def overrides (environment : List (String × String)) : List (String × Setting) :=
  environment.filterMap fun (name, value) =>
    let name := (Text.asciiLower name).toList
    if mark.toList.isPrefixOf name then
      some (String.ofList (name.drop mark.length), Setting.ofEnvironment value)
    else none

/-- Reads settings from a text and the environment, and judges them. -/
def read (path text : String) (environment : List (String × String)) :
    Except ConfigError Settings :=
  let settings : Option Settings := do
    let written ← parse? path text
    let root := (Setting.table []).overlay written
    ofTable? (root.overlay (overrides environment)).entries
  match settings with
  | none => .error .notSettings
  | some s =>
    match s.fault? with
    | some fault => .error (.invalidSetting fault)
    | none => .ok s

end Settings

end DnsBalancer
