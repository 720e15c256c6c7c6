import DnsBalancer.Selection.Selector

/-!
# What a choice depends on

No policy looks beyond the eligible candidates, and of the client it sees what the sources tell:
requests that agree in these are answered in the same way, and lead to the same cursor.
-/
namespace DnsBalancer

/-- The requests are for one family, the same is known of their clients, and they have the same
eligible candidates in the same order. -/
structure Request.Alike (q r : Request) : Prop where
  family : r.family = q.family
  country : r.geo.countryOf r.client = q.geo.countryOf q.client
  city : r.geo.cityOf r.client = q.geo.cityOf q.client
  asn : r.geo.asnOf r.client = q.geo.asnOf q.client
  location : r.locations.lookup r.client = q.locations.lookup q.client
  eligible : r.eligible = q.eligible

namespace Request.Alike

variable {q r : Request} (alike : q.Alike r)

include alike

theorem failover : Failover.select r = Failover.select q := by
  rw [Failover.select, Failover.select, alike.eligible, alike.family]

theorem roundRobin (cursor : Nat) : RoundRobin.select cursor r = RoundRobin.select cursor q := by
  rw [RoundRobin.select, RoundRobin.select, alike.eligible, alike.family]

theorem random (shuffle : List Address → List Address) :
    Random.select shuffle r = Random.select shuffle q := by
  rw [Random.select, Random.select, alike.eligible, alike.family]

theorem weighted (draw : Nat → Nat) : Weighted.select draw r = Weighted.select draw q := by
  rw [Weighted.select, Weighted.select, alike.eligible, alike.family]

theorem fastest : Fastest.select r = Fastest.select q := by
  rw [Fastest.select, Fastest.select, alike.eligible, alike.family, alike.failover]

theorem geoip : GeoIp.select r = GeoIp.select q := by
  have first (wanted : String) (label : Candidate → Option String) :
      GeoIp.firstMatch? r wanted label = GeoIp.firstMatch? q wanted label := by
    rw [GeoIp.firstMatch?, GeoIp.firstMatch?, alike.eligible]
  have known : GeoIp.keys r = GeoIp.keys q := by
    rw [GeoIp.keys, GeoIp.keys, alike.country, alike.city, alike.asn, alike.location]
  have tiers : GeoIp.match? r = GeoIp.match? q := by
    simp only [GeoIp.match?, first, known]
  rw [GeoIp.select, GeoIp.select, tiers, alike.failover]

theorem nearest (distance : Coordinates → Coordinates → Double) :
    Nearest.select distance r = Nearest.select distance q := by
  have closest (place : Coordinates) :
      Nearest.closestTo distance r place = Nearest.closestTo distance q place := by
    rw [Nearest.closestTo, Nearest.closestTo, Nearest.distances, Nearest.distances,
      alike.eligible, alike.family]
  simp only [Nearest.select, alike.city, closest, alike.failover]

theorem select (s : Selector) (chance : Chance) : s.select chance r = s.select chance q := by
  rw [Selector.select, Selector.select]
  simp only [alike.failover, alike.roundRobin, alike.random, alike.weighted, alike.geoip,
    alike.nearest, alike.fastest]

end Request.Alike

end DnsBalancer
