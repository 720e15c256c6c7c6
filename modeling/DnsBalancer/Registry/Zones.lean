import DnsBalancer.NameMap
import DnsBalancer.Registry.Record

/-!
# The registry

Live records by zone and name. Reloading a zone merges its new definition into the
records that stay, adds and removes the others, and keeps a live record whose new
definition was rejected.
-/
namespace DnsBalancer

/-- Records by zone, then by name. -/
abbrev Zones := NameMap (NameMap Record)

/-- In which order zones are looked through when several could have what is looked for. -/
structure ZoneOrder where
  arrange : List String → List String
  perm : ∀ names, (arrange names).Perm names

namespace ZoneOrder

def byName : ZoneOrder := ⟨id, fun _ => .refl _⟩

instance : Inhabited ZoneOrder := ⟨byName⟩

theorem mem_arrange (order : ZoneOrder) {name : String} {names : List String} :
    name ∈ order.arrange names ↔ name ∈ names := (order.perm names).mem_iff

end ZoneOrder

/-- What a reload did to a zone, names sorted. -/
structure ReloadSummary where
  zone : String
  added : List String
  updated : List String
  removed : List String
  /-- Live records whose new definition was rejected. -/
  kept : List String
  deriving DecidableEq, Repr

def ReloadSummary.isNoop (s : ReloadSummary) : Bool :=
  s.added.isEmpty && s.updated.isEmpty && s.removed.isEmpty

namespace Zones

/-- The records of a new zone, or those of a zone seen again, with more beside them. -/
def addRecords (rs : NameMap Record) (z : ZoneDefinition) : NameMap Record :=
  z.records.foldl (fun rs d => rs.insert d.fqdn (.ofDefinition z.zone d false)) rs

/-- The registry at the start. A name defined again takes the place of the one before. -/
def ofDefinitions (zs : List ZoneDefinition) : Zones :=
  zs.foldl
    (fun (m : Zones) z => NameMap.insert m z.zone (addRecords ((NameMap.find? m z.zone).getD {}) z))
    {}

def recordsOf (m : Zones) (zone : String) : NameMap Record := (NameMap.find? m zone).getD {}

/-- The record of a zone, by its normal name. -/
def record? (m : Zones) (zone fqdn : String) : Option Record := (recordsOf m zone).find? fqdn

/-- The record of a name in the first zone that has one; the name is normalized first. -/
def findRecord (m : Zones) (order : ZoneOrder) (name : String) : Option Record :=
  let fqdn := DomainName.normalize name
  (order.arrange (NameMap.names m)).findSome? fun zone => m.record? zone fqdn

def isAuthoritative (m : Zones) (name : String) : Bool :=
  let fqdn := DomainName.normalize name
  (NameMap.names m).any fun zone => DomainName.inZone fqdn zone

/-- The records of a zone, sorted by name; the zone's name is normalized first. -/
def records (m : Zones) (zone : String) : List Record :=
  (recordsOf m (DomainName.normalize zone)).values

/-- Every record of the zones, each zone asked for by its name. -/
def listed (m : Zones) : List Record := (NameMap.names m).flatMap m.records

/-- Every record, sorted by zone, then by name. -/
def allRecords (m : Zones) : List Record := (NameMap.values m).flatMap (·.values)

/-- Puts a record in its place. -/
def put (m : Zones) (r : Record) : Zones :=
  NameMap.insert m r.zone ((recordsOf m r.zone).insert r.fqdn r)

def mapRecords (f : Record → Record) (m : Zones) : Zones := m.mapValues (·.mapValues f)

/-- Backends that a reload took off a record that stays. -/
structure Dropped where
  fqdn : String
  backends : List Backend
  deriving Repr

/-- A merge under way: the zone's next records and what was done so far. -/
structure Merge where
  next : NameMap Record := {}
  added : List String := []
  updated : List String := []
  dropped : List Dropped := []

/-- Merges one record's definition. `live` are the zone's records before the reload. -/
def Merge.step (zone : String) (cancelled : Bool) (live : NameMap Record) (m : Merge)
    (d : RecordDefinition) : Merge :=
  match live.find? d.fqdn with
  | some before =>
    let current := (m.next.find? d.fqdn).getD before
    let (changes, r) := current.updateFrom d
    { m with
      next := m.next.insert d.fqdn r
      updated := if changes.isEmpty then m.updated else m.updated ++ [d.fqdn]
      dropped := m.dropped ++
        [⟨d.fqdn, current.backends.filter (changes.removed.contains ·.address)⟩] }
  | none =>
    { m with
      next := m.next.insert d.fqdn (.ofDefinition zone d cancelled)
      added := m.added ++ [d.fqdn] }

/-- A zone after its reload. -/
structure Reloaded where
  zones : Zones
  summary : ReloadSummary
  /-- Records taken out of the zone. -/
  removed : List Record
  dropped : List Dropped
  /-- New names in the order of the definition. -/
  added : List String

def sortNames (names : List String) : List String :=
  names.mergeSort fun a b => decide (a < b) || a == b

/-- Merges a zone's new definition. New records are born cancelled after the shutdown. -/
def reload (m : Zones) (z : ZoneDefinition) (cancelled : Bool) : Reloaded :=
  let live := recordsOf m z.zone
  let merge := z.records.foldl (Merge.step z.zone cancelled live) {}
  let rest := live.entries.filter fun e => !merge.next.contains e.1
  let (kept, removed) := rest.partition fun e => z.isRejected e.1
  let next := kept.foldl (fun rs e => rs.insert e.1 e.2) merge.next
  { zones := NameMap.insert m z.zone next
    summary := {
      zone := z.zone
      added := sortNames merge.added
      updated := sortNames merge.updated
      removed := sortNames (removed.map (·.1))
      kept := sortNames (kept.map (·.1)) }
    removed := removed.map (·.2)
    dropped := merge.dropped
    added := merge.added }

end Zones

end DnsBalancer
