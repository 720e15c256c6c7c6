import DnsBalancer.Zone.Definition

/-!
# Records from values

Reads one record, its defaults merged in and its profiles resolved. The shape is
judged first and as a whole; then the mode, the timings, and the backends in order,
each by address, coordinates and checks.
-/
namespace DnsBalancer

open Yaml (Value)

/-- A backend of the right shape, not yet judged. -/
structure BackendFields where
  address : String
  description : Option String
  priority : Int
  weight : Int
  enable : Bool
  tags : List String
  timeout : Duration
  country : Option String
  city : Option String
  asn : Option String
  location : Option String
  latitude : Option Float
  longitude : Option Float
  checks : List CheckSpec
  deriving Repr

/-- A record of the right shape, not yet judged. -/
structure RecordFields where
  mode : Option String
  owner : Option String
  description : Option String
  ttl : Nat
  scrapeInterval : Duration
  scrapeRetries : Nat
  scrapeTimeout : Duration
  backends : List BackendFields
  deriving Repr

/-- Drops every `word` that `s` begins with. -/
def dropLeading (word : List Char) : Nat → List Char → List Char
  | 0, s => s
  | fuel + 1, s =>
    if word.isPrefixOf s then dropLeading word fuel (s.drop word.length) else s

/-- The number of an autonomous system, written as a number or as text with the
letters in front. -/
def asnText? : Value → Option String
  | .number (.int n) => if 0 ≤ n && n < Nat.pow 2 64 then some (Text.Decimal.renderInt n) else none
  | .string s =>
    let cs := s.toList
    some (String.ofList
      (dropLeading ['a', 's'] cs.length (dropLeading ['A', 'S'] cs.length cs)))
  | _ => none

namespace BackendFields

def ofValue? (v : Value) : Option BackendFields := do
  let es ← v.fields? ["address", "description", "priority", "weight", "enable", "tags", "timeout",
    "country", "city", "asn", "location", "latitude", "longitude", "healthchecks"]
  let text (name : String) := Value.defaulted? name none (Value.optional? Value.text?) es
  let number (name : String) := Value.defaulted? name none (Value.optional? Value.float?) es
  return {
    address := ← Value.required? "address" Value.text? es
    description := ← text "description"
    priority := ← Value.defaulted? "priority" 0 (Value.signed? 32) es
    weight := ← Value.defaulted? "weight" 1 (Value.signed? 64) es
    enable := ← Value.defaulted? "enable" true Value.bool? es
    tags := ← Value.defaulted? "tags" [] (Value.list? Value.text?) es
    timeout := ← Value.defaulted? "timeout" (.ofSeconds 5) Duration.ofValue? es
    country := ← text "country"
    city := ← text "city"
    asn := ← Value.defaulted? "asn" none (Value.optional? asnText?) es
    location := ← text "location"
    latitude := ← number "latitude"
    longitude := ← number "longitude"
    checks := ← Value.defaulted? "healthchecks" [] (Value.list? CheckSpec.ofValue?) es }

/-- Both numbers or neither, the latitude within 90 degrees and the longitude within
180. -/
def coordinates (b : BackendFields) : Except ConfigError (Option Coordinates) :=
  match b.latitude, b.longitude with
  | none, none => .ok none
  | some lat, some lon =>
    if -90.0 ≤ lat ∧ lat ≤ 90.0 ∧ -180.0 ≤ lon ∧ lon ≤ 180.0 then .ok (some ⟨lat, lon⟩)
    else .error (.invalidCoordinates b.address)
  | _, _ => .error (.invalidCoordinates b.address)

/-- The weight within one and the largest of 32 bits. -/
def clampWeight (n : Int) : Nat :=
  if n < 1 then 1 else if (Nat.pow 2 32 - 1 : Int) < n then Nat.pow 2 32 - 1 else n.toNat

def nonEmpty (s : Option String) : Option String := s.filter (!·.isEmpty)

/-- The address, blanks around it left out. -/
def judgeAddress (b : BackendFields) : Except ConfigError Address :=
  match Address.parse? (Text.trim b.address) with
  | some a => .ok a
  | none => .error (.invalidAddress b.address)

/-- Judges a backend: its address, its coordinates, then its checks in order. -/
def judge (b : BackendFields) : Except ConfigError BackendDefinition := do
  let address ← b.judgeAddress
  let coordinates ← b.coordinates
  let checks ← b.checks.mapM (Check.ofSpec · b.timeout)
  return {
    address
    description := b.description
    priority := b.priority
    weight := clampWeight b.weight
    enabled := b.enable
    tags := b.tags
    timeout := b.timeout
    country := nonEmpty b.country
    city := nonEmpty b.city
    asn := nonEmpty b.asn
    location := nonEmpty b.location
    coordinates
    probes := checks.map fun check => { check } }

end BackendFields

namespace RecordFields

def ofValue? (v : Value) : Option RecordFields := do
  let es ← v.fields? ["mode", "owner", "description", "record_ttl", "scrape_interval",
    "scrape_retries", "scrape_timeout", "backends"]
  let text (name : String) := Value.defaulted? name none (Value.optional? Value.text?) es
  return {
    mode := ← text "mode"
    owner := ← text "owner"
    description := ← text "description"
    ttl := ← Value.defaulted? "record_ttl" 30 (Value.nat? 32) es
    scrapeInterval := ← Value.defaulted? "scrape_interval" (.ofSeconds 10) Duration.ofValue? es
    scrapeRetries := ← Value.defaulted? "scrape_retries" 1 (Value.nat? 32) es
    scrapeTimeout := ← Value.defaulted? "scrape_timeout" (.ofSeconds 5) Duration.ofValue? es
    backends := ← Value.defaulted? "backends" [] (Value.list? BackendFields.ofValue?) es }

/-- Judges backends in order; an address may stand there only once. -/
def judgeBackends (fqdn : String) :
    List Address → List BackendFields → Except ConfigError (List BackendDefinition)
  | _, [] => .ok []
  | seen, b :: bs => do
    let d ← b.judge
    if d.address ∈ seen then .error (.duplicateBackend fqdn d.address)
    else return d :: (← judgeBackends fqdn (d.address :: seen) bs)

def judgeMode (r : RecordFields) : Except ConfigError Mode :=
  match r.mode with
  | some word => Mode.parse word
  | none => .ok .failover

/-- Neither timing is zero and there is a backend. -/
def judgeExtent (fqdn : String) (r : RecordFields) : Except ConfigError Unit :=
  if r.scrapeInterval.isZero then .error (.invalidSetting (.zeroInterval fqdn))
  else if r.scrapeTimeout.isZero then .error (.invalidSetting (.zeroTimeout fqdn))
  else if r.backends.isEmpty then .error (.emptyRecord fqdn)
  else .ok ()

/-- Judges a record: its mode, its extent, then its backends in order. -/
def judge (fqdn : String) (r : RecordFields) : Except ConfigError RecordDefinition := do
  let mode ← r.judgeMode
  r.judgeExtent fqdn
  let backends ← judgeBackends fqdn [] r.backends
  return {
    fqdn
    mode
    owner := r.owner
    description := r.description
    ttl := r.ttl
    scrapeInterval := r.scrapeInterval
    scrapeRetries := r.scrapeRetries
    scrapeTimeout := r.scrapeTimeout
    backends }

end RecordFields

/-- A record from its value. -/
def RecordDefinition.ofValue (fqdn : String) (v : Value) : Except ConfigError RecordDefinition :=
  match RecordFields.ofValue? v with
  | some r => r.judge fqdn
  | none => .error .notYaml

end DnsBalancer
