import DnsBalancer.Probing.Flight
import DnsBalancer.Probing.Pace
import DnsBalancer.Registry.Zones

/-!
# The balancer

All that lives while the balancer serves: the registry, what is known about clients,
the probing loops, the clock, and what was counted. Each record has a loop, which waits
for its start, probes all backends at once, and sleeps until the next round.
-/
namespace DnsBalancer

/-- Where a probing loop stands. -/
inductive Phase where
  | waiting (wakes : Instant)
  | probing (started : Instant) (flights : List Flight)
  | sleeping (started wakes : Instant)
  deriving Repr, Inhabited

/-- The cycles under way. -/
def Phase.flights : Phase → List Flight
  | .probing _ flights => flights
  | _ => []

structure ProbeLoop where
  number : Nat
  zone : String
  fqdn : String
  phase : Phase
  /-- Whether its record's token was cancelled. The loop learns of it when it goes on. -/
  cancelled : Bool := false
  deriving Repr, Inhabited

def ProbeLoop.flights (l : ProbeLoop) : List Flight := l.phase.flights

/-- How loops are started and paced. -/
structure Pacing where
  policy : IdlePolicy := {}
  maxStagger : Duration := .ofSeconds 60
  batchSize : Nat := 100
  deriving DecidableEq, Repr, Inhabited

structure Balancer where
  zones : Zones := {}
  order : ZoneOrder := .byName
  locations : LocationTable := {}
  geo : GeoSources := {}
  /-- Profiles shared by all zone files, used again on reload. -/
  profiles : Profiles := []
  pacing : Pacing := {}
  metrics : Metrics := {}
  tracker : QueryTracker := {}
  loops : List ProbeLoop := []
  /-- The number of the loop that was last started for a name. -/
  tasks : NameMap Nat := {}
  /-- Attempts that go on though their cycle is over. -/
  strays : List Run := []
  network : Network := .silent
  tally : Tally := {}
  nextLoop : Nat := 0
  nextProbe : Nat := 0
  running : Bool := false
  /-- Shut down for good: every record, present or to come, is cancelled. -/
  stopped : Bool := false
  now : Instant := .zero
  /-- The date that findings are stamped with. -/
  date : Timestamp := ⟨0⟩

namespace BackendDefinition

/-- Gives each probe a serial number of its own, from `next` on. -/
def numberProbes (next : Nat) (d : BackendDefinition) : Nat × BackendDefinition :=
  (next + d.probes.length,
    { d with probes := d.probes.mapIdx fun i p => { p with serial := next + i } })

end BackendDefinition

/-- Threads a number through a list. -/
def threadNat {α : Type} (f : Nat → α → Nat × α) : Nat → List α → Nat × List α
  | n, [] => (n, [])
  | n, a :: as =>
    let (n, a) := f n a
    let (n, as) := threadNat f n as
    (n, a :: as)

def ZoneDefinition.numberProbes (next : Nat) (z : ZoneDefinition) : Nat × ZoneDefinition :=
  let (next, records) := threadNat
    (fun n (r : RecordDefinition) =>
      let (n, backends) := threadNat BackendDefinition.numberProbes n r.backends
      (n, { r with backends }))
    next z.records
  (next, { z with records })

namespace Balancer

/-- A balancer at rest over the zones given. -/
def ofDefinitions (zs : List ZoneDefinition) : Balancer :=
  let (nextProbe, zs) := threadNat ZoneDefinition.numberProbes 0 zs
  { zones := .ofDefinitions zs, nextProbe }

def inventory (b : Balancer) : Inventory :=
  let records := b.zones.allRecords
  { zones := b.zones.size
    records := records.length
    backends := (records.map (·.backends.length)).foldr (· + ·) 0
    checks := (records.map Record.checkCount).foldr (· + ·) 0 }

def countInventory (b : Balancer) : Balancer :=
  { b with metrics := b.metrics.setInventory b.inventory }

end Balancer

end DnsBalancer
