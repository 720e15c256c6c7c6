import DnsBalancer.Balancer.Clockwork
import DnsBalancer.Zone.Load

/-!
# Control

Starting, stopping and reloading. Reloading a zone cancels the loops of records that go,
leaves those of records that stay, and starts one for each record that is new. A reload
that fails changes nothing but the count of failed reloads.
-/
namespace DnsBalancer.Balancer

/-- Cancels the tokens of loops. -/
def cancelLoops (which : ProbeLoop → Bool) (b : Balancer) : Balancer :=
  { b with loops := b.loops.map fun l => if which l then { l with cancelled := true } else l }

/-- Starts the loop of a record after a delay. It ends the loop that was started last
under the same name. -/
def spawn (zone fqdn : String) (delay : Duration) (b : Balancer) : Balancer :=
  let b := match b.tasks.find? fqdn with
    | some old => b.endLoops (·.number == old)
    | none => b
  let cancelled := ((b.zones.record? zone fqdn).map (·.cancelled)).getD true
  let l : ProbeLoop :=
    { number := b.nextLoop, zone, fqdn, phase := .waiting (b.now + delay).nextMilli, cancelled }
  { b with
    nextLoop := b.nextLoop + 1
    tasks := b.tasks.insert fqdn b.nextLoop
    loops := b.loops ++ [l] }

/-- Starts the loop of every record, in batches. Does nothing while running. -/
def start (b : Balancer) : Balancer :=
  if b.running then b
  else
    let records := b.zones.listed
    let delays := staggerDelays records.length b.pacing.batchSize b.pacing.maxStagger
    let b := (records.zip delays).foldl (fun b (r, delay) => b.spawn r.zone r.fqdn delay)
      { b with running := true }
    b.countInventory

/-- Cancels every record, now and for ever. -/
def shutdown (b : Balancer) : Balancer :=
  let b := b.cancelLoops fun _ => true
  { b with
    zones := b.zones.mapRecords Record.cancel
    tasks := {}
    running := false
    stopped := true }

/-- Leaves cycles under way to the backends they began with, which are no longer the
record's. -/
def detachFlights (zone : String) (d : Zones.Dropped) (l : ProbeLoop) : ProbeLoop :=
  if l.zone = zone ∧ l.fqdn = d.fqdn then
    match l.phase with
    | .probing started flights =>
      let detach (f : Flight) : Flight :=
        match f.detached with
        | some _ => f
        | none => { f with detached := d.backends.find? (·.address == f.address) }
      { l with phase := .probing started (flights.map detach) }
    | _ => l
  else l

def forgetHealth (m : Metrics) (fqdn : String) (backends : List Backend) : Metrics :=
  backends.foldl (fun m x => m.removeBackend fqdn x.address.render) m

/-- Takes backends off a record that stays. -/
def dropBackends (zone : String) (b : Balancer) (d : Zones.Dropped) : Balancer :=
  { b with
    loops := b.loops.map (detachFlights zone d)
    metrics := forgetHealth b.metrics d.fqdn d.backends }

/-- Cancels a record that was taken out of its zone. -/
def removeRecord (b : Balancer) (r : Record) : Balancer :=
  let b := b.cancelLoops fun l => l.zone == r.zone && l.fqdn == r.fqdn
  { b with
    tasks := b.tasks.erase r.fqdn
    tracker := b.tracker.forget r.fqdn
    metrics := forgetHealth b.metrics r.fqdn r.backends }

/-- Merges a zone's new definition. -/
def reloadZone (b : Balancer) (z : ZoneDefinition) : ReloadSummary × Balancer :=
  let (nextProbe, z) := z.numberProbes b.nextProbe
  let r := b.zones.reload z b.stopped
  let b := { b with zones := r.zones, nextProbe }
  let b := r.dropped.foldl (dropBackends z.zone) b
  let b := r.removed.foldl removeRecord b
  let b :=
    if b.running then r.added.foldl (fun b fqdn => b.spawn z.zone fqdn .zero) b else b
  (r.summary, b.countInventory)

def countReload (ok : Bool) (b : Balancer) : Balancer :=
  { b with metrics := b.metrics.reloaded ok }

/-- Loads a zone file and merges it. -/
def reloadZoneFile (b : Balancer) (zone path : String) (content : Except ReadFault String) :
    Except ConfigError ReloadSummary × Balancer :=
  match ZoneDefinition.load zone path content b.profiles with
  | .ok z =>
    let (summary, b) := b.reloadZone z
    (.ok summary, b.countReload true)
  | .error e => (.error e, b.countReload false)

/-- Loads a location table and takes it in the place of the present one. -/
def reloadLocations (b : Balancer) (path : String) (content : Except ReadFault String) :
    Except ConfigError Nat × Balancer :=
  match LocationTable.load path content with
  | .ok t => (.ok t.entries.length, { b with locations := t }.countReload true)
  | .error e => (.error e, b.countReload false)

end DnsBalancer.Balancer
