import DnsBalancer.ConfigError
import DnsBalancer.Yaml.Fields

/-!
# Health checks as written

A zone file or a profile names the kind of a check and gives its parameters, which
only the kind itself understands.
-/
namespace DnsBalancer

open Yaml (Value Node Read)

structure CheckSpec where
  kind : String
  params : Value := .null
  deriving Repr, Inhabited

/-- Checks under the names by which zone files refer to them. -/
abbrev Profiles := List (String × CheckSpec)

namespace CheckSpec

/-- Reads a check from a document whose collections nest `depth` levels from here. -/
def read (depth : Nat) (n : Node) : Read CheckSpec := do
  let es ← Read.fields ["type", "params"] n
  return {
    kind := ← Read.required "type" Read.text es
    params := ← Read.defaulted "params" .null (Read.value (depth - 1)) es }

def ofValue? (v : Value) : Option CheckSpec := do
  let es ← v.fields? ["type", "params"]
  return {
    kind := ← Value.required? "type" Value.text? es
    params := (es.lookup "params").getD .null }

/-- The check as a mapping, as if it were written out in place. -/
def toValue (c : CheckSpec) : Value :=
  .mapping [(.string "type", .string c.kind), (.string "params", c.params)]

/-- Reads a list of checks. -/
def parseList (text : String) : Except ConfigError (List CheckSpec) :=
  let readList (n : Node) : Read (List CheckSpec) := do
    (← Read.items n).mapM (read (Yaml.nestingLimit - 1))
  match Yaml.readText? readList text with
  | some cs => .ok cs
  | none => .error .notYaml

end CheckSpec

namespace Profiles

/-- Adds a profile. A later one of the same name takes the place of an earlier. -/
def add (ps : Profiles) (name : String) (c : CheckSpec) : Profiles :=
  match ps with
  | [] => [(name, c)]
  | (n, d) :: rest => if n == name then (name, c) :: rest else (n, d) :: add rest name c

/-- Reads profiles by name. -/
def read (depth : Nat) (n : Node) : Read Profiles := do
  let es ← Read.textEntries n
  es.foldlM (fun ps (name, n) => do return add ps name (← CheckSpec.read (depth - 1) n)) []

/-- Reads a profile file. A blank one holds no profiles. -/
def parse (text : String) : Except ConfigError Profiles :=
  let readFile (n : Node) : Read Profiles := do
    let es ← Read.fields ["healthcheck_profiles"] n
    Read.defaulted "healthcheck_profiles" [] (read (Yaml.nestingLimit - 1)) es
  if (Text.trimBlank text.toList).isEmpty then .ok []
  else match Yaml.readText? readFile text with
    | some ps => .ok ps
    | none => .error .notYaml

/-- Loads profiles from what was read at `path`. -/
def load (path : String) (content : Except ReadFault String) : Except ConfigError Profiles :=
  match content with
  | .error fault => .error (.unreadable path fault)
  | .ok text => parse text

end Profiles

end DnsBalancer
