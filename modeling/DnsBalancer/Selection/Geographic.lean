import DnsBalancer.Selection.Policies

/-!
# Policies that look at the client's place

The labelled policy compares, in order, the client's country, city, autonomous
system and location label with those of the candidates. The nearest policy measures
the distance to the client's city. Both fall back on failover.
-/
namespace DnsBalancer

namespace GeoIp

def firstMatch? (r : Request) (wanted : String) (label : Candidate → Option String) :
    Option Address :=
  (r.eligible.find? fun c => label c == some wanted).map (·.address)

/-- What is known of the client in each tier, with the candidates' own label. Empty
names and the number zero count as unknown. -/
def keys (r : Request) : List (Option String × (Candidate → Option String)) :=
  [ ((r.geo.countryOf r.client).filter (!·.isEmpty), Candidate.country),
    (((r.geo.cityOf r.client).bind (·.name)).filter (!·.isEmpty), Candidate.city),
    (((r.geo.asnOf r.client).filter (· != 0)).map Text.Decimal.render, Candidate.asn),
    (r.locations.lookup r.client, Candidate.location) ]

/-- The first match of the first tier that has one. -/
def match? (r : Request) : Option Address :=
  (keys r).findSome? fun (key, label) => key.bind fun wanted => firstMatch? r wanted label

def select (r : Request) : Except SelectionError (List Address) :=
  match match? r with
  | some a => .ok [a]
  | none => Failover.select r

end GeoIp

namespace Nearest

/-- The first element of lowest rank. -/
def lowest? {α : Type} (rank : α → Int) : List α → Option α
  | [] => none
  | a :: as =>
    match lowest? rank as with
    | none => some a
    | some b => if rank a ≤ rank b then some a else some b

/-- The eligible candidates that have coordinates, each with its distance. -/
def distances (distance : Coordinates → Coordinates → Double) (r : Request) (place : Coordinates) :
    List (Double × Address) :=
  r.eligible.filterMap fun c => c.coordinates.map fun p => (distance place p, c.address)

def closestTo (distance : Coordinates → Coordinates → Double) (r : Request) (place : Coordinates) :
    Except SelectionError Address :=
  match lowest? (fun d => d.1.key) (distances distance r place) with
  | some (_, a) => .ok a
  | none => .error (.noCoordinates r.family)

def select (distance : Coordinates → Coordinates → Double) (r : Request) :
    Except SelectionError (List Address) :=
  match (r.geo.cityOf r.client).bind City.coordinates? with
  | none => Failover.select r
  | some place =>
    match closestTo distance r place with
    | .ok a => .ok [a]
    | .error _ => Failover.select r

end Nearest

end DnsBalancer
