import DnsBalancer.Registry.Backend
import DnsBalancer.Selection.Selector

/-!
# Live records

A record answers for one name with the backends its policy chooses. A new definition
is merged into it: backends that stay keep their health, and the selector starts anew
only when the mode changes.
-/
namespace DnsBalancer

structure RecordSettings where
  mode : Mode
  owner : Option String
  description : Option String
  ttl : Nat
  scrapeInterval : Duration
  scrapeRetries : Nat
  scrapeTimeout : Duration
  deriving DecidableEq, Repr, Inhabited

def RecordDefinition.settings (d : RecordDefinition) : RecordSettings where
  mode := d.mode
  owner := d.owner
  description := d.description
  ttl := d.ttl
  scrapeInterval := d.scrapeInterval
  scrapeRetries := d.scrapeRetries
  scrapeTimeout := d.scrapeTimeout

structure Record where
  fqdn : String
  zone : String
  settings : RecordSettings
  selector : Selector
  /-- In the order of configuration. -/
  backends : List Backend
  cancelled : Bool := false
  deriving Repr, Inhabited

/-- What a new definition did to a record. -/
structure RecordChanges where
  settingsChanged : Bool
  added : List Address
  updated : List Address
  removed : List Address
  deriving DecidableEq, Repr

def RecordChanges.isEmpty (c : RecordChanges) : Bool :=
  !c.settingsChanged && c.added.isEmpty && c.updated.isEmpty && c.removed.isEmpty

namespace Record

def ofDefinition (zone : String) (d : RecordDefinition) (cancelled : Bool) : Record where
  fqdn := d.fqdn
  zone
  settings := d.settings
  selector := .ofMode d.mode
  backends := d.backends.map fun definition => { record := d.fqdn, definition }
  cancelled

def backend? (r : Record) (a : Address) : Option Backend :=
  r.backends.find? (·.address == a)

/-- Puts a backend in the place of the first one with its address. -/
def setBackend (r : Record) (b : Backend) : Record :=
  let rec place : List Backend → List Backend
    | [] => []
    | c :: cs => if c.address == b.address then b :: cs else c :: place cs
  { r with backends := place r.backends }

def candidates (r : Record) : List Candidate := r.backends.map Backend.candidate

def checkCount (r : Record) : Nat := (r.backends.map (·.probes.length)).foldr (· + ·) 0

def cancel (r : Record) : Record := { r with cancelled := true }

/-- Asks the policy. -/
def select (r : Record) (family : Family) (client : Address) (geo : GeoSources)
    (locations : LocationTable) (chance : Chance) :
    Except SelectionError (List Address) × Record :=
  let (answer, selector) := r.selector.select chance
    { family, client, candidates := r.candidates, geo, locations }
  (answer, { r with selector })

/-- Every enabled backend of the family, whether or not it is alive. -/
def allAddresses (r : Record) (family : Family) : Except SelectionError (List Address) :=
  let found := (r.candidates.filter fun c => c.enabled && c.address.family == family).map
    (·.address)
  if found.isEmpty then .error (.noBackends r.fqdn family) else .ok found

/-- One backend of a new definition: the live one of its address, brought up to date
and with whether it changed, or a new one. -/
def mergeBackend (r : Record) (d : BackendDefinition) : Option Bool × Backend :=
  match r.backend? d.address with
  | some b =>
    let (changed, b) := b.updateFrom d
    (some changed, b)
  | none => (none, { record := r.fqdn, definition := d })

/-- Merges a new definition into the record. Each entry is merged on its own: a definition lists
no address twice, as those that load do not. -/
def updateFrom (r : Record) (d : RecordDefinition) : RecordChanges × Record :=
  let merged := d.backends.map r.mergeBackend
  let backends := merged.map (·.2)
  let kept (a : Address) : Bool := backends.any (·.address == a)
  ({ settingsChanged := r.settings != d.settings
     added := (merged.filter (·.1 == none)).map (·.2.address)
     updated := (merged.filter (·.1 == some true)).map (·.2.address)
     removed := (r.backends.filter (!kept ·.address)).map (·.address) },
   { r with
     settings := d.settings
     selector := if r.settings.mode == d.mode then r.selector else .ofMode d.mode
     backends })

/-- Begins a cycle on one backend and records its finding at once. Tells the aliveness
before; nothing when the record has no such backend. -/
def mark (r : Record) (a : Address) (finding : Health) : Option (Option Bool × Record) :=
  (r.backend? a).map fun b =>
    let (cycle, b) := b.beginCycle
    match b.recordCycle cycle finding with
    | some (previous, b) => (some previous, r.setBackend b)
    | none => (none, r.setBackend b)

end Record

end DnsBalancer
