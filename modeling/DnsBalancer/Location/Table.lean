import DnsBalancer.ConfigError
import DnsBalancer.Location.Subnet
import DnsBalancer.Yaml.Reader

/-!
# The location table

Gives subnets a location label. The most specific subnet that holds an address
decides; of two equally specific ones, the one listed last.
-/
namespace DnsBalancer

structure LocationEntry where
  subnet : Subnet
  location : String
  deriving DecidableEq, Repr, Inhabited

structure LocationTable where
  entries : List LocationEntry := []
  deriving DecidableEq, Repr, Inhabited

namespace LocationTable

/-- The more specific of two entries, or the later one. -/
def moreSpecific (best : Option LocationEntry) (e : LocationEntry) : Option LocationEntry :=
  match best with
  | none => some e
  | some b => if b.subnet.bits ≤ e.subnet.bits then some e else some b

def lookup (t : LocationTable) (a : Address) : Option String :=
  ((t.entries.filter (·.subnet.contains a)).foldl moreSpecific none).map (·.location)

/-- Reads subnets with their labels; the first that is no subnet decides the fault. -/
def ofRows (rows : List (String × String)) : Except ConfigError LocationTable := do
  let entries ← rows.mapM fun (subnet, location) =>
    match Subnet.parse? subnet with
    | some s => .ok ⟨s, location⟩
    | none => .error (.invalidSubnet subnet)
  return ⟨entries⟩

open Yaml (Read Node)

def readRow (n : Node) : Read (String × String) := do
  let es ← Read.fields ["subnet", "location"] n
  return (← Read.required "subnet" Read.text es, ← Read.required "location" Read.text es)

/-- Reads the rows listed under `subnets`. -/
def readRows (n : Node) : Read (List (String × String)) := do
  let es ← Read.fields ["subnets"] n
  Read.defaulted "subnets" [] (fun rows => do (← Read.items rows).mapM readRow) es

def parse (text : String) : Except ConfigError LocationTable :=
  match Yaml.readText? readRows text with
  | none => .error .notYaml
  | some rows => ofRows rows

/-- Loads a table from what was read at `path`. -/
def load (path : String) (content : Except ReadFault String) : Except ConfigError LocationTable :=
  match content with
  | .error fault => .error (.unreadable path fault)
  | .ok text => parse text

end LocationTable

end DnsBalancer
