import DnsBalancer.ConfigError
import DnsBalancer.Database.File
import DnsBalancer.Geo.Sources

/-!
# Places in databases

What databases of countries, cities and autonomous systems hold for an address. An
entry counts only when all of it has the shape of its kind.
-/
namespace DnsBalancer

namespace Shape

def names : String × Shape := ("names", .texts)

def geonameId : String × Shape := ("geoname_id", .natural 32)

def continent : Shape := .record [("code", .text), geonameId, names]

def country : Shape :=
  .record [geonameId, ("is_in_european_union", .flag), ("iso_code", .text), names]

def representedCountry : Shape :=
  .record [geonameId, ("is_in_european_union", .flag), ("iso_code", .text), names, ("type", .text)]

def traits : Shape :=
  .record [("is_anonymous_proxy", .flag), ("is_anycast", .flag), ("is_satellite_provider", .flag)]

def subdivision : Shape := .record [geonameId, ("iso_code", .text), names]

def place : Shape :=
  .record [("accuracy_radius", .natural 16), ("latitude", .real), ("longitude", .real),
    ("metro_code", .natural 16), ("time_zone", .text)]

def countryEntry : Shape := .record [
  ("continent", continent), ("country", country), ("registered_country", country),
  ("represented_country", representedCountry), ("traits", traits)]

def cityEntry : Shape := .record [
  ("city", .record [geonameId, names]), ("continent", continent), ("country", country),
  ("location", place), ("postal", .record [("code", .text)]), ("registered_country", country),
  ("represented_country", representedCountry), ("subdivisions", .list subdivision),
  ("traits", traits)]

def asnEntry : Shape := .record [
  ("autonomous_system_number", .natural 32), ("autonomous_system_organization", .text)]

end Shape

namespace Database

def country? (db : Database) (a : Address) : Option String := do
  let entry ← db.find? Shape.countryEntry a
  ((← entry.field? "country").field? "iso_code").bind (·.text?)

/-- The city's name in English and its place, as far as they are known. -/
def city? (db : Database) (a : Address) : Option City := do
  let entry ← db.find? Shape.cityEntry a
  let names := (((entry.field? "city").bind (·.field? "names")).bind (·.texts?)).getD []
  let number (name : String) := ((entry.field? "location").bind (·.field? name)).bind (·.real?)
  return ⟨names.lookup "en", number "latitude", number "longitude"⟩

def asn? (db : Database) (a : Address) : Option Nat := do
  let entry ← db.find? Shape.asnEntry a
  (entry.field? "autonomous_system_number").bind (·.natural? 32)

/-- Opens the database that was read at `path`. -/
def load (path : String) (content : Except ReadFault ByteArray) : Except ConfigError Database :=
  match content with
  | .error fault => .error (.unreadable path fault)
  | .ok b =>
    match open? b with
    | some db => .ok db
    | none => .error (.invalidDatabase path)

end Database

/-- Where the databases are found, as far as any are configured. -/
structure DatabasePaths where
  country : Option String := none
  city : Option String := none
  asn : Option String := none
  deriving DecidableEq, Repr, Inhabited

namespace GeoSources

/-- Opens one database, if it is configured. -/
def source {α : Type} (read : String → Except ReadFault ByteArray)
    (find : Database → Address → Option α) :
    Option String → Except ConfigError (Option (Address → Option α))
  | none => .ok none
  | some path => (Database.load path (read path)).map fun db => some (find db)

/-- Opens the databases in the order country, city, autonomous system. -/
def load (paths : DatabasePaths) (read : String → Except ReadFault ByteArray) :
    Except ConfigError GeoSources := do
  return {
    country := ← source read Database.country? paths.country
    city := ← source read Database.city? paths.city
    asn := ← source read Database.asn? paths.asn }

/-- A one-line description of which sources there are. -/
def describe (g : GeoSources) : String :=
  let word (b : Bool) : String := if b then "true" else "false"
  "GeoDatabases \x7b country: " ++ word g.country.isSome ++ ", city: " ++ word g.city.isSome ++
    ", asn: " ++ word g.asn.isSome ++ " \x7d"

end GeoSources

end DnsBalancer
