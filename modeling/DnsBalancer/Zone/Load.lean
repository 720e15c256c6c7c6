import DnsBalancer.Zone.Record

/-!
# Zones from text

A zone file has defaults, named check profiles and records. Each record is merged
over the defaults and its profile names give way to the checks they stand for, the
file's own before the shared ones. What is wrong with the file as a whole ends the
load; what is wrong with one record only rejects that record.
-/
namespace DnsBalancer

open Yaml (Value Node Read)

/-- The parts of a zone file as they were read. -/
structure ZoneFile where
  defaults : List (Value × Value) := []
  profiles : Profiles := []
  records : List (Value × Value) := []
  deriving Repr

namespace ZoneFile

def read (n : Node) : Read ZoneFile := do
  let depth := Yaml.nestingLimit - 1
  let es ← Read.fields ["defaults", "healthcheck_profiles", "records"] n
  return {
    defaults := ← Read.defaulted "defaults" [] (Read.valueEntries depth) es
    profiles := ← Read.defaulted "healthcheck_profiles" [] (Profiles.read depth) es
    records := ← Read.defaulted "records" [] (Read.valueEntries depth) es }

def parse (text : String) : Except ConfigError ZoneFile :=
  match Yaml.readText? read text with
  | some f => .ok f
  | none => .error .notYaml

/-- The check a profile name stands for: the file's own profile, or the shared one. -/
def profile? (own shared : Profiles) (name : String) : Option CheckSpec :=
  match own.lookup name with
  | some c => some c
  | none => shared.lookup name

/-- Puts a check in the place of its profile name. -/
def resolveCheck (own shared : Profiles) (v : Value) : Except ConfigError Value :=
  match v with
  | .string name =>
    match profile? own shared name with
    | some c => .ok c.toValue
    | none => .error (.undefinedProfile name)
  | other => .ok other

def resolveBackend (own shared : Profiles) (fqdn : String) (v : Value) :
    Except ConfigError Value :=
  match v with
  | .mapping es =>
    match Yaml.lookup "healthchecks" es with
    | none => .ok v
    | some (.sequence checks) => do
      let checks ← checks.mapM (resolveCheck own shared)
      return .mapping (Yaml.insert (.string "healthchecks") (.sequence checks) es)
    | some _ => .error (.malformedRecord (fqdn ++ ": healthchecks must be a list"))
  | other => .ok other

/-- Resolves the profile names of every backend, as far as the record has the shape
to hold any. -/
def resolve (own shared : Profiles) (fqdn : String) (record : List (Value × Value)) :
    Except ConfigError (List (Value × Value)) :=
  match Yaml.lookup "backends" record with
  | some (.sequence backends) => do
    let backends ← backends.mapM (resolveBackend own shared fqdn)
    return Yaml.insert (.string "backends") (.sequence backends) record
  | _ => .ok record

/-- The defaults, with the record's own entries in place of theirs or behind them. -/
def merge (defaults record : List (Value × Value)) : List (Value × Value) :=
  record.foldl (fun es (k, v) => Yaml.insert k v es) defaults

/-- The name of a record's entry in normal form; it has to lie in the zone. -/
def recordName (zone : String) (key : Value) : Except ConfigError String :=
  match key.text? with
  | none => .error (.malformedRecord key.describe)
  | some name =>
    let fqdn := DomainName.normalize name
    if DomainName.inZone fqdn zone then .ok fqdn else .error (.zoneMismatch fqdn zone)

/-- What one entry comes to: a definition or a rejection, or a fault of the file. -/
def loadEntry (f : ZoneFile) (zone : String) (shared : Profiles) (key value : Value) :
    Except ConfigError (Sum RecordDefinition RejectedRecord) := do
  let fqdn ← recordName zone key
  match value with
  | .mapping record =>
    let merged ← resolve f.profiles shared fqdn (merge f.defaults record)
    match RecordDefinition.ofValue fqdn (.mapping merged) with
    | .ok d => return .inl d
    | .error e => return .inr ⟨fqdn, e⟩
  | _ => .error (.malformedRecord fqdn)

/-- Loads entries in order, up to the first fault of the file. -/
def loadEntries (f : ZoneFile) (zone : String) (shared : Profiles) :
    List (Value × Value) → Except ConfigError (List RecordDefinition × List RejectedRecord)
  | [] => .ok ([], [])
  | (key, value) :: rest => do
    let entry ← f.loadEntry zone shared key value
    let (records, rejected) ← loadEntries f zone shared rest
    match entry with
    | .inl d => return (d :: records, rejected)
    | .inr r => return (records, r :: rejected)

def load (f : ZoneFile) (zone : String) (shared : Profiles) :
    Except ConfigError ZoneDefinition := do
  let zone := DomainName.normalize zone
  let (records, rejected) ← f.loadEntries zone shared f.records
  return ⟨zone, records, rejected⟩

end ZoneFile

/-- Loads a zone from the text of its file. -/
def ZoneDefinition.parse (zone text : String) (shared : Profiles) :
    Except ConfigError ZoneDefinition := do
  (← ZoneFile.parse text).load zone shared

/-- Loads a zone from what was read at `path`. A blank file is a fault. -/
def ZoneDefinition.load (zone path : String) (content : Except ReadFault String)
    (shared : Profiles) : Except ConfigError ZoneDefinition :=
  match content with
  | .error fault => .error (.unreadable path fault)
  | .ok text =>
    if (Text.trimBlank text.toList).isEmpty then .error (.emptyFile path)
    else ZoneDefinition.parse zone text shared

end DnsBalancer
