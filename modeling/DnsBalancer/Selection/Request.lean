import DnsBalancer.Duration
import DnsBalancer.Geo.Sources
import DnsBalancer.Location.Table
import DnsBalancer.Selection.Mode

/-!
# Selection requests

A candidate is a copy of a backend taken when a query comes in. Only enabled and
alive candidates of the family asked for are eligible, and they keep their order.
-/
namespace DnsBalancer

structure Candidate where
  address : Address
  priority : Int := 0
  /-- Never below one. -/
  weight : Nat := 1
  enabled : Bool := true
  alive : Bool := true
  /-- Zero until a probe cycle measured it. -/
  responseTime : Duration := .zero
  country : Option String := none
  city : Option String := none
  asn : Option String := none
  location : Option String := none
  coordinates : Option Coordinates := none
  deriving Repr, Inhabited

def Candidate.healthy (c : Candidate) : Bool := c.enabled && c.alive

structure Request where
  family : Family
  client : Address
  candidates : List Candidate
  geo : GeoSources := {}
  locations : LocationTable := {}

def Candidate.eligibleFor (c : Candidate) (family : Family) : Bool :=
  c.healthy && c.address.family == family

def Request.eligible (r : Request) : List Candidate :=
  r.candidates.filter (·.eligibleFor r.family)

/-- Why a query gets no answer. -/
inductive SelectionError where
  | recordNotFound (name : String)
  | noHealthyBackend (mode : Mode) (family : Family)
  | noBackends (fqdn : String) (family : Family)
  | noCoordinates (family : Family)
  | weightedExhausted
  deriving DecidableEq, Repr

def SelectionError.message : SelectionError → String
  | .recordNotFound name => "domain not found: " ++ name
  | .noHealthyBackend mode family =>
    "no healthy backends in " ++ mode.render ++ " mode for " ++ family.render
  | .noBackends fqdn family => "no backends exist for " ++ fqdn ++ " (" ++ family.render ++ ")"
  | .noCoordinates family => "no healthy backends with coordinates for " ++ family.render
  | .weightedExhausted => "weighted selection failed"

end DnsBalancer
