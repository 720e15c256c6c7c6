import DnsBalancer.Check.Probe
import DnsBalancer.DomainName
import DnsBalancer.Geo.Distance
import DnsBalancer.Selection.Mode

/-!
# Definitions

What a zone file says about its records and their backends, judged and completed
with defaults. A record that is refused for its own content is listed with the
reason.
-/
namespace DnsBalancer

structure BackendDefinition where
  address : Address
  description : Option String := none
  priority : Int := 0
  /-- Never below one. -/
  weight : Nat := 1
  enabled : Bool := true
  tags : List String := []
  timeout : Duration := .ofSeconds 5
  country : Option String := none
  city : Option String := none
  asn : Option String := none
  location : Option String := none
  coordinates : Option Coordinates := none
  probes : List Probe := []
  deriving Repr, Inhabited

structure RecordDefinition where
  fqdn : String
  mode : Mode := .failover
  owner : Option String := none
  description : Option String := none
  ttl : Nat := 30
  scrapeInterval : Duration := .ofSeconds 10
  scrapeRetries : Nat := 1
  scrapeTimeout : Duration := .ofSeconds 5
  backends : List BackendDefinition
  deriving Repr, Inhabited

structure RejectedRecord where
  fqdn : String
  error : ConfigError
  deriving Repr

structure ZoneDefinition where
  zone : String
  records : List RecordDefinition
  rejected : List RejectedRecord := []
  deriving Repr

/-- A record with default settings, under the normal form of its name. -/
def RecordDefinition.ofBackends (name : String) (backends : List BackendDefinition) :
    RecordDefinition :=
  { fqdn := DomainName.normalize name, backends }

namespace ZoneDefinition

def ofRecords (zone : String) (records : List RecordDefinition) : ZoneDefinition :=
  { zone := DomainName.normalize zone, records }

def isRejected (z : ZoneDefinition) (fqdn : String) : Bool :=
  z.rejected.any (·.fqdn == fqdn)

end ZoneDefinition

end DnsBalancer
