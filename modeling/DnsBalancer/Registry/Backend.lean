import DnsBalancer.Selection.Request
import DnsBalancer.Timestamp
import DnsBalancer.Zone.Definition

/-!
# Live backends

A backend is its definition and what the latest probe cycle found. Cycles are numbered
when they begin; one that ends after a later one was recorded changes nothing.
-/
namespace DnsBalancer

/-- What a probe cycle found. A backend is dead and unmeasured until the first. -/
structure Health where
  alive : Bool := false
  responseTime : Duration := .zero
  probedAt : Option Timestamp := none
  deriving DecidableEq, Repr, Inhabited

structure Backend where
  /-- The name of the record it belongs to. -/
  record : String
  definition : BackendDefinition
  health : Health := {}
  /-- The cycle whose finding is held; zero before the first. -/
  applied : Nat := 0
  /-- The last cycle number given out. -/
  begun : Nat := 0
  deriving Repr, Inhabited

namespace Backend

def address (b : Backend) : Address := b.definition.address

def probes (b : Backend) : List Probe := b.definition.probes

def enabled (b : Backend) : Bool := b.definition.enabled

def healthy (b : Backend) : Bool := b.enabled && b.health.alive

/-- What the selection policies see of it. -/
def candidate (b : Backend) : Candidate where
  address := b.address
  priority := b.definition.priority
  weight := Nat.max b.definition.weight 1
  enabled := b.enabled
  alive := b.health.alive
  responseTime := b.health.responseTime
  country := b.definition.country
  city := b.definition.city
  asn := b.definition.asn
  location := b.definition.location
  coordinates := b.definition.coordinates

/-- Gives out the next cycle number. -/
def beginCycle (b : Backend) : Nat × Backend :=
  (b.begun + 1, { b with begun := b.begun + 1 })

/-- Holds the finding of a cycle and tells the aliveness before; nothing when the
finding of that cycle or a later one is held already. -/
def recordCycle (b : Backend) (cycle : Nat) (finding : Health) : Option (Bool × Backend) :=
  if cycle ≤ b.applied then none
  else some (b.health.alive, { b with health := finding, applied := cycle })

/-- Both absent, or equal as numbers. -/
def sameCoordinates : Option Coordinates → Option Coordinates → Bool
  | none, none => true
  | some a, some b => a.same b
  | _, _ => false

/-- The definition with every field of the new one; a field that is equal stays as it
is, and probes stay while they are equivalent. -/
def mergeDefinition (current new : BackendDefinition) : BackendDefinition where
  address := current.address
  description := new.description
  priority := new.priority
  weight := new.weight
  enabled := new.enabled
  tags := new.tags
  timeout := new.timeout
  country := new.country
  city := new.city
  asn := new.asn
  location := new.location
  coordinates :=
    if sameCoordinates current.coordinates new.coordinates then current.coordinates
    else new.coordinates
  probes :=
    if Probe.allEquivalent current.probes new.probes then current.probes else new.probes

/-- Whether any field differs, the address apart. -/
def definitionChanged (current new : BackendDefinition) : Bool :=
  current.priority != new.priority || current.weight != new.weight ||
  current.enabled != new.enabled || current.description != new.description ||
  current.tags != new.tags || current.timeout != new.timeout ||
  current.country != new.country || current.city != new.city ||
  current.asn != new.asn || current.location != new.location ||
  !sameCoordinates current.coordinates new.coordinates ||
  !Probe.allEquivalent current.probes new.probes

/-- Takes over a new definition, health and cycles untouched; tells whether anything
changed. -/
def updateFrom (b : Backend) (new : BackendDefinition) : Bool × Backend :=
  (definitionChanged b.definition new,
    { b with definition := mergeDefinition b.definition new })

/-- The status line. -/
def summary (b : Backend) : String :=
  let time := b.health.responseTime
  "Backend: " ++ b.address.render ++
  " | Priority: " ++ Text.Decimal.renderInt b.definition.priority ++
  " | Status: " ++ (if b.healthy then "healthy" else "unhealthy") ++
  " | Enabled: " ++ (if b.enabled then "true" else "false") ++
  " | LastHealthcheck: " ++ (b.health.probedAt.map Timestamp.render).getD "" ++
  " | ResponseTime: " ++
    (if time.isZero then "N/A" else Text.Decimal.render (time.nanos / 1000000) ++ "ms")

end Backend

end DnsBalancer
