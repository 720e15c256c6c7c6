import DnsBalancer.Address
import DnsBalancer.Geo.Distance

/-!
# What is known about a client's place

Up to three sources tell an address's country, city and autonomous system. A source
that is not configured is absent; one that is may know nothing about an address.
-/
namespace DnsBalancer

structure City where
  name : Option String
  latitude : Option Float
  longitude : Option Float
  deriving Repr, Inhabited

/-- The city's place, where both of its numbers are known. -/
def City.coordinates? (c : City) : Option Coordinates :=
  match c.latitude, c.longitude with
  | some latitude, some longitude => some ⟨latitude, longitude⟩
  | _, _ => none

structure GeoSources where
  country : Option (Address → Option String) := none
  city : Option (Address → Option City) := none
  asn : Option (Address → Option Nat) := none

namespace GeoSources

def isEmpty (g : GeoSources) : Bool :=
  g.country.isNone && g.city.isNone && g.asn.isNone

def countryOf (g : GeoSources) (a : Address) : Option String := g.country.bind (· a)

def cityOf (g : GeoSources) (a : Address) : Option City := g.city.bind (· a)

def asnOf (g : GeoSources) (a : Address) : Option Nat := g.asn.bind (· a)

end GeoSources

end DnsBalancer
