import DnsBalancer.Balancer.State

/-!
# Queries

What the balancer answers. A query that finds nothing healthy is answered with every
configured address of the family instead.
-/
namespace DnsBalancer

structure Answer where
  addresses : List Address
  ttl : Nat
  /-- Whether the policy chose them; otherwise they are all there are. -/
  healthy : Bool
  deriving DecidableEq, Repr

namespace Balancer

/-- The record of a name, in the first zone that has one. -/
def findRecord (b : Balancer) (name : String) : Option Record := b.zones.findRecord b.order name

/-- The record of a name. The error names it as it was asked for. -/
def record (b : Balancer) (name : String) : Except SelectionError Record :=
  match b.findRecord name with
  | some r => .ok r
  | none => .error (.recordNotFound name)

/-- Notes that a name was asked for. -/
def noteQuery (b : Balancer) (name : String) : Balancer :=
  { b with tracker := b.tracker.touch (DomainName.normalize name) b.now }

/-- Counts a selection when it is a single address. -/
def countSelected (m : Metrics) (fqdn : String) : Except SelectionError (List Address) → Metrics
  | .ok [a] => m.backendSelected fqdn a.render
  | _ => m

/-- What the policy of a record chooses. -/
def selectFrom (b : Balancer) (r : Record) (family : Family) (client : Address) (chance : Chance) :
    Except SelectionError (List Address) × Balancer :=
  let (answer, r) := r.select family client b.geo b.locations chance
  (answer, { b with zones := b.zones.put r, metrics := countSelected b.metrics r.fqdn answer })

def pick (b : Balancer) (name : String) (family : Family) (client : Address) (chance : Chance) :
    Except SelectionError (List Address) × Balancer :=
  match b.record name with
  | .ok r => b.selectFrom r family client chance
  | .error e => (.error e, b)

/-- Every enabled address of the family, healthy or not. -/
def pickAll (b : Balancer) (name : String) (family : Family) :
    Except SelectionError (List Address) := do
  (← b.record name).allAddresses family

def countResolved (b : Balancer) (fqdn outcome : String) : Balancer :=
  { b with metrics := b.metrics.resolved fqdn outcome .zero }

/-- The whole way of a query: it is noted, and answered by the policy, or else by all
addresses. -/
def answer (b : Balancer) (name : String) (family : Family) (client : Address) (chance : Chance) :
    Except SelectionError Answer × Balancer :=
  match b.record name with
  | .error e => (.error e, b)
  | .ok r =>
    match (b.noteQuery r.fqdn).pick r.fqdn family client chance with
    | (.ok addresses, b) =>
      (.ok ⟨addresses, r.settings.ttl, true⟩, b.countResolved r.fqdn "success")
    | (.error _, b) =>
      ((r.allAddresses family).map fun addresses => ⟨addresses, r.settings.ttl, false⟩,
        b.countResolved r.fqdn "fail")

def summaries (b : Balancer) (name : String) : Except SelectionError (List String) := do
  return (← b.record name).backends.map Backend.summary

def ttl? (b : Balancer) (name : String) : Option Nat :=
  (b.findRecord name).map (·.settings.ttl)

def isAuthoritative (b : Balancer) (name : String) : Bool := b.zones.isAuthoritative name

def zoneNames (b : Balancer) : List String := b.zones.names

def records (b : Balancer) (zone : String) : List Record := b.zones.records zone

/-- Records a finding on one backend of a record that was found. -/
def mark (b : Balancer) (r : Record) (a : Address) (finding : Health) :
    Option (Option Bool × Balancer) :=
  (r.mark a finding).map fun (previous, r) => (previous, { b with zones := b.zones.put r })

end Balancer

end DnsBalancer
