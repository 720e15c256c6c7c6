import DnsBalancer.Proofs.Yaml.Entries
import DnsBalancer.Proofs.Zone.Verdicts

/-!
# Profile names are an indirection

A zone file loads as the file in which every profile name is written out as the check that it
stands for, the file's own before the shared one. A name that stands for nothing ends the load;
of several, the first in the order of the file is reported.

Names are looked for where the loader looks: in lists and mappings that have no tag of the
document's own on them. What stands below such a tag is left as it is.
-/
namespace DnsBalancer

open Yaml (Value)

/-- What a record comes to by itself. -/
def Verdict.ofValue (fqdn : String) (v : Value) : Verdict :=
  match RecordDefinition.ofValue fqdn v with
  | .ok d => .inl d
  | .error e => .inr ⟨fqdn, e⟩

namespace ZoneFile

/-! ### Names written out -/

section

variable (own shared : Profiles)

/-- The name stands for no check. -/
def isUndefined (name : String) : Bool :=
  (own.lookup name).isNone && (shared.lookup name).isNone

/-- A check as it is written in place. -/
def writtenOut (c : CheckSpec) : Value :=
  .mapping [(.string "type", .string c.kind), (.string "params", c.params)]

def inlineCheck : Value → Value
  | .string name => (((own.lookup name).or (shared.lookup name)).map writtenOut).getD (.string name)
  | other => other

def inlineBackend : Value → Value
  | .mapping es =>
    match Yaml.lookup "healthchecks" es with
    | some (.sequence checks) => .mapping
      (Yaml.insert (.string "healthchecks") (.sequence (checks.map (inlineCheck own shared))) es)
    | _ => .mapping es
  | other => other

def inlineBackends : Value → Value
  | .sequence backends => .sequence (backends.map (inlineBackend own shared))
  | other => other

def inlineField (key value : Value) : Value :=
  if key.isText "backends" then inlineBackends own shared value else value

/-- The record, or the defaults, with the names in its backends written out. -/
def inlineEntries (es : List (Value × Value)) : List (Value × Value) :=
  es.map fun e => (e.1, inlineField own shared e.1 e.2)

/-- What the loader makes of a record: it looks for one list of backends. -/
def resolvedEntries (es : List (Value × Value)) : List (Value × Value) :=
  match Yaml.lookup "backends" es with
  | some (.sequence backends) =>
    Yaml.insert (.string "backends") (inlineBackends own shared (.sequence backends)) es
  | _ => es

def inlineRecord : Value → Value
  | .mapping es => .mapping (inlineEntries own shared es)
  | other => other

end

/-- The file with all profile names written out. -/
def inlined (f : ZoneFile) (shared : Profiles) : ZoneFile where
  defaults := inlineEntries f.profiles shared f.defaults
  profiles := f.profiles
  records := f.records.map fun e => (e.1, inlineRecord f.profiles shared e.2)

/-- The file without profiles of its own. -/
def bare (f : ZoneFile) : ZoneFile := { f with profiles := [] }

/-! ### What is wrong with the checks of a record -/

section

variable (own shared : Profiles)

def checkFault? : Value → Option ConfigError
  | .string name => if isUndefined own shared name then some (.undefinedProfile name) else none
  | _ => none

def backendFault? (fqdn : String) : Value → Option ConfigError
  | .mapping es =>
    match Yaml.lookup "healthchecks" es with
    | none => none
    | some (.sequence checks) => checks.findSome? (checkFault? own shared)
    | some _ => some (.malformedRecord (fqdn ++ ": healthchecks must be a list"))
  | _ => none

/-- The first thing wrong with the checks of a record, in the order in which they stand. -/
def recordFault? (fqdn : String) (es : List (Value × Value)) : Option ConfigError :=
  match Yaml.lookup "backends" es with
  | some (.sequence backends) => backends.findSome? (backendFault? own shared fqdn)
  | _ => none

variable {own shared : Profiles} {fqdn : String}

theorem resolveCheck_eq (v : Value) : resolveCheck own shared v =
    (checkFault? own shared v).elim (.ok (inlineCheck own shared v)) .error := by
  cases v with
  | string name =>
    rw [resolveCheck, profile?, checkFault?, isUndefined, inlineCheck]
    cases own.lookup name with
    | some c => rfl
    | none => cases shared.lookup name <;> rfl
  | _ => rfl

theorem resolveBackend_eq (v : Value) : resolveBackend own shared fqdn v =
    (backendFault? own shared fqdn v).elim (.ok (inlineBackend own shared v)) .error := by
  cases v with
  | mapping es =>
    rw [resolveBackend, backendFault?, inlineBackend]
    cases found : Yaml.lookup "healthchecks" es with
    | none => rfl
    | some w =>
      cases w with
      | sequence checks =>
        dsimp only
        rw [mapM_eq_findSome? checks fun v _ => resolveCheck_eq v]
        cases checks.findSome? (checkFault? own shared) <;> rfl
      | _ => rfl
  | _ => rfl

theorem resolve_eq (es : List (Value × Value)) : resolve own shared fqdn es =
    (recordFault? own shared fqdn es).elim (.ok (resolvedEntries own shared es)) .error := by
  rw [resolve, recordFault?, resolvedEntries]
  cases found : Yaml.lookup "backends" es with
  | none => rfl
  | some w =>
    cases w with
    | sequence backends =>
      dsimp only
      rw [mapM_eq_findSome? backends fun v _ => resolveBackend_eq v]
      cases backends.findSome? (backendFault? own shared fqdn) <;> rfl
    | _ => rfl

end

/-! ### A record with its names written out -/

section

variable {own shared : Profiles} {fqdn : String} {es : List (Value × Value)}

theorem inlineEntries_cons (e : Value × Value) : inlineEntries own shared (e :: es) =
    (e.1, inlineField own shared e.1 e.2) :: inlineEntries own shared es := rfl

theorem lookup_inlineEntries : Yaml.lookup "backends" (inlineEntries own shared es) =
    (Yaml.lookup "backends" es).map (inlineBackends own shared) := by
  induction es with
  | nil => rfl
  | cons e es ih =>
    rw [inlineEntries_cons, Yaml.lookup_cons, Yaml.lookup_cons, ih, inlineField]
    split <;> rfl

theorem inlineEntries_of_absent (absent : ∀ e ∈ es, e.1.isText "backends" = false) :
    inlineEntries own shared es = es := by
  induction es with
  | nil => rfl
  | cons e es ih =>
    obtain ⟨first, rest⟩ := List.forall_mem_cons.mp absent
    rw [inlineEntries_cons, inlineField, first, ih rest]
    rfl

theorem resolvedEntries_eq (once : Yaml.occurrences "backends" es ≤ 1) :
    resolvedEntries own shared es = inlineEntries own shared es := by
  induction es with
  | nil => rfl
  | cons e es ih =>
    rw [Yaml.occurrences, List.countP_cons] at once
    rw [inlineEntries_cons, inlineField, resolvedEntries, Yaml.lookup_cons]
    cases own : e.1.isText "backends" with
    | true =>
      rw [own] at once
      have absent : ∀ e ∈ es, e.1.isText "backends" = false := by
        have none : es.countP (·.1.isText "backends") = 0 := by simpa using once
        simpa using List.countP_eq_zero.mp none
      rw [inlineEntries_of_absent absent]
      obtain ⟨k, v⟩ := e
      cases v with
      | sequence backends => simp only [if_pos, Yaml.insert_cons, Value.same_string, own]
      | _ => rfl
    | false =>
      rw [own] at once
      rw [← ih (by simpa [Yaml.occurrences] using once), resolvedEntries]
      simp only [Bool.false_eq_true, if_false]
      cases Yaml.lookup "backends" es with
      | none => rfl
      | some v =>
        cases v with
        | sequence backends =>
          simp only [Yaml.insert_cons, Value.same_string, own, Bool.false_eq_true, if_false]
        | _ => rfl

theorem keys_inlineEntries : (inlineEntries own shared es).map (·.1) = es.map (·.1) := by
  rw [inlineEntries, List.map_map]
  rfl

theorem keys_resolvedEntries : (resolvedEntries own shared es).map (·.1) = es.map (·.1) := by
  rw [resolvedEntries]
  split
  · rename_i found
    exact Yaml.keys_insert found _
  · rfl

theorem ofValue_of_repeated (repeated : 1 < Yaml.occurrences "backends" es) :
    RecordDefinition.ofValue fqdn (.mapping es) = .error .notYaml := by
  have unread : RecordFields.ofValue? (.mapping es) = none := by
    rw [RecordFields.ofValue?, Value.fields?_of_repeated (by decide) repeated]
    rfl
  rw [RecordDefinition.ofValue, unread]

/-- A record with a second list of backends cannot be read, whatever names are in it. -/
theorem ofValue_resolvedEntries :
    RecordDefinition.ofValue fqdn (.mapping (resolvedEntries own shared es)) =
      RecordDefinition.ofValue fqdn (.mapping (inlineEntries own shared es)) := by
  -- The loader writes out the first list only, which is all there may be.
  by_cases once : Yaml.occurrences "backends" es ≤ 1
  · rw [resolvedEntries_eq once]
  · have repeated {fs : List (Value × Value)} (keys : fs.map (·.1) = es.map (·.1)) :
        1 < Yaml.occurrences "backends" fs := by
      rw [Yaml.occurrences_congr keys]
      exact Nat.lt_of_not_le once
    rw [ofValue_of_repeated (repeated keys_resolvedEntries),
      ofValue_of_repeated (repeated keys_inlineEntries)]

theorem insert_inlineEntries (k v : Value) :
    Yaml.insert k (inlineField own shared k v) (inlineEntries own shared es) =
      inlineEntries own shared (Yaml.insert k v es) := by
  induction es with
  | nil => rfl
  | cons e es ih =>
    rw [inlineEntries_cons, Yaml.insert_cons, Yaml.insert_cons]
    split
    · rename_i same
      have own : inlineField own shared e.1 v = inlineField own shared k v := by
        rw [inlineField, inlineField, Value.isText_of_same same]
      rw [inlineEntries_cons, own]
    · rw [ih, inlineEntries_cons]

/-- Defaults and record may be written out before they are merged. -/
theorem merge_inlineEntries (defaults record : List (Value × Value)) :
    merge (inlineEntries own shared defaults) (inlineEntries own shared record) =
      inlineEntries own shared (merge defaults record) := by
  induction record generalizing defaults with
  | nil => rfl
  | cons e record ih =>
    rw [merge, inlineEntries_cons, List.foldl_cons]
    dsimp only
    rw [insert_inlineEntries]
    exact ih _

/-- What an entry comes to that is a mapping with a name in the zone. -/
theorem loadEntry_mapping {f : ZoneFile} {zone : String} {key : Value}
    (named : recordName zone key = .ok fqdn) (record : List (Value × Value)) :
    f.loadEntry zone shared key (.mapping record) =
      (recordFault? f.profiles shared fqdn (merge f.defaults record)).elim
        (.ok (Verdict.ofValue fqdn
          (.mapping (inlineEntries f.profiles shared (merge f.defaults record))))) .error := by
  rw [loadEntry, named]
  dsimp only [bind, Except.bind]
  rw [resolve_eq]
  cases recordFault? f.profiles shared fqdn (merge f.defaults record) with
  | some err => rfl
  | none =>
    dsimp only [Option.elim]
    rw [ofValue_resolvedEntries, Verdict.ofValue]
    cases RecordDefinition.ofValue fqdn
      (.mapping (inlineEntries f.profiles shared (merge f.defaults record))) <;> rfl

end

/-! ### Written out once more -/

theorem inlineCheck_cases (own shared : Profiles) (name : String) :
    (isUndefined own shared name = true ∧ inlineCheck own shared (.string name) = .string name) ∨
      (isUndefined own shared name = false ∧
        ∃ c, inlineCheck own shared (.string name) = writtenOut c) := by
  rw [isUndefined, inlineCheck]
  cases own.lookup name with
  | some c => exact .inr ⟨rfl, c, rfl⟩
  | none =>
    cases shared.lookup name with
    | some c => exact .inr ⟨rfl, c, rfl⟩
    | none => exact .inl ⟨rfl, rfl⟩

section

variable {own shared own' shared' : Profiles} {fqdn : String}
  (fewer : ∀ name, isUndefined own shared name = true → isUndefined own' shared' name = true)

include fewer

theorem checkFault?_inlineCheck (v : Value) :
    checkFault? own' shared' (inlineCheck own shared v) = checkFault? own shared v := by
  cases v with
  | string name =>
    rcases inlineCheck_cases own shared name with ⟨undefined, kept⟩ | ⟨defined, c, written⟩
    · rw [kept, checkFault?, checkFault?, undefined, fewer name undefined]
    · simp only [written, writtenOut, checkFault?, defined, Bool.false_eq_true, if_false]
  | _ => rfl

theorem inlineCheck_inlineCheck (v : Value) :
    inlineCheck own' shared' (inlineCheck own shared v) = inlineCheck own shared v := by
  cases v with
  | string name =>
    rcases inlineCheck_cases own shared name with ⟨undefined, kept⟩ | ⟨defined, c, written⟩
    · rw [kept]
      rcases inlineCheck_cases own' shared' name with ⟨_, again⟩ | ⟨known, _⟩
      · exact again
      · rw [fewer name undefined] at known
        cases known
    · rw [written]
      rfl
  | _ => rfl

theorem backendFault?_inlineBackend (v : Value) :
    backendFault? own' shared' fqdn (inlineBackend own shared v) =
      backendFault? own shared fqdn v := by
  cases v with
  | mapping es =>
    cases found : Yaml.lookup "healthchecks" es with
    | none => simp only [inlineBackend, backendFault?, found]
    | some w =>
      cases w with
      | sequence checks =>
        simp only [inlineBackend, backendFault?, found, Yaml.lookup_insert, List.findSome?_map,
          Function.comp_def, checkFault?_inlineCheck fewer]
      | _ => simp only [inlineBackend, backendFault?, found]
  | _ => rfl

theorem inlineBackend_inlineBackend (v : Value) :
    inlineBackend own' shared' (inlineBackend own shared v) = inlineBackend own shared v := by
  cases v with
  | mapping es =>
    cases found : Yaml.lookup "healthchecks" es with
    | none => simp only [inlineBackend, found]
    | some w =>
      cases w with
      | sequence checks =>
        simp only [inlineBackend, found, Yaml.lookup_insert, List.map_map,
          Function.comp_def, inlineCheck_inlineCheck fewer, Yaml.insert_insert]
      | _ => simp only [inlineBackend, found]
  | _ => rfl

theorem inlineField_inlineField (k v : Value) :
    inlineField own' shared' k (inlineField own shared k v) = inlineField own shared k v := by
  rw [inlineField, inlineField]
  split
  · cases v with
    | sequence backends =>
      simp only [inlineBackends, List.map_map, Function.comp_def,
        inlineBackend_inlineBackend fewer]
    | _ => rfl
  · rfl

theorem inlineEntries_inlineEntries (es : List (Value × Value)) :
    inlineEntries own' shared' (inlineEntries own shared es) = inlineEntries own shared es := by
  simp only [inlineEntries, List.map_map, Function.comp_def, inlineField_inlineField fewer]

theorem recordFault?_inlineEntries (es : List (Value × Value)) :
    recordFault? own' shared' fqdn (inlineEntries own shared es) =
      recordFault? own shared fqdn es := by
  rw [recordFault?, recordFault?, lookup_inlineEntries]
  cases Yaml.lookup "backends" es with
  | none => rfl
  | some w =>
    cases w with
    | sequence backends =>
      simp only [Option.map_some, inlineBackends, List.findSome?_map, Function.comp_def,
        backendFault?_inlineBackend fewer]
    | _ => rfl

end

section

variable {own' shared shared' : Profiles} {f : ZoneFile} {zone : String}
  (fewer : ∀ name, isUndefined f.profiles shared name = true → isUndefined own' shared' name = true)

include fewer

/-- An entry whose names are written out needs none of the profiles that they named. -/
theorem loadEntry_inlined (key value : Value) :
    { f.inlined shared with profiles := own' }.loadEntry zone shared' key
      (inlineRecord f.profiles shared value) = f.loadEntry zone shared key value := by
  cases named : recordName zone key with
  | error err => simp only [loadEntry, named, bind, Except.bind]
  | ok fqdn =>
    cases value with
    | mapping record =>
      rw [inlineRecord, loadEntry_mapping named, loadEntry_mapping named]
      dsimp only [inlined]
      rw [merge_inlineEntries, recordFault?_inlineEntries fewer, inlineEntries_inlineEntries fewer]
    | _ => simp only [inlineRecord, loadEntry, named, bind, Except.bind]

theorem loadEntries_inlined (es : List (Value × Value)) :
    { f.inlined shared with profiles := own' }.loadEntries zone shared'
      (es.map fun e : Value × Value => (e.1, inlineRecord f.profiles shared e.2)) =
      f.loadEntries zone shared es := by
  induction es with
  | nil => rfl
  | cons e es ih => rw [List.map_cons, loadEntries, loadEntries, loadEntry_inlined fewer, ih]

theorem load_inlined_of_fewer :
    { f.inlined shared with profiles := own' }.load zone shared' = f.load zone shared := by
  rw [load, load]
  exact congrArg (· >>= _) (loadEntries_inlined fewer f.records)

end

/-! ### The first name that stands for nothing -/

def checkName? : Value → Option String
  | .string name => some name
  | _ => none

def backendNames : Value → List String
  | .mapping es =>
    match Yaml.lookup "healthchecks" es with
    | some (.sequence checks) => checks.filterMap checkName?
    | _ => []
  | _ => []

/-- The profile names in a record, in the order in which they stand. -/
def recordNames (es : List (Value × Value)) : List String :=
  match Yaml.lookup "backends" es with
  | some (.sequence backends) => backends.flatMap backendNames
  | _ => []

/-- Where a backend has checks, they are a list. -/
def ListsChecks : Value → Prop
  | .mapping es =>
    match Yaml.lookup "healthchecks" es with
    | none | some (.sequence _) => True
    | some _ => False
  | _ => True

/-- The entries that are loaded as one record. -/
def mergedRecord (f : ZoneFile) : Value → List (Value × Value)
  | .mapping record => merge f.defaults record
  | _ => []

/-- The profile names of all records, each merged over the defaults, in the order of the file. -/
def names (f : ZoneFile) : List String :=
  f.records.flatMap fun e => recordNames (f.mergedRecord e.2)

/-- The entry has no fault, if not that a profile name in it stands for nothing. -/
def ProperEntry (f : ZoneFile) (zone : String) (e : Value × Value) : Prop :=
  (∃ fqdn, recordName zone e.1 = .ok fqdn) ∧ (∃ record, e.2 = .mapping record) ∧
    ∀ backends, Yaml.lookup "backends" (f.mergedRecord e.2) = some (.sequence backends) →
      ∀ b ∈ backends, ListsChecks b

def Proper (f : ZoneFile) (zone : String) : Prop :=
  ∀ e ∈ f.records, f.ProperEntry (DomainName.normalize zone) e

section

variable {own shared : Profiles}

/-- What is wrong with names of which the first undefined one is this. -/
def namesFault? (own shared : Profiles) (names : List String) : Option ConfigError :=
  (names.find? (isUndefined own shared)).map .undefinedProfile

theorem findSome?_namesFault? {α : Type} {fault? : α → Option ConfigError}
    {namesOf : α → List String} (as : List α)
    (each : ∀ a ∈ as, fault? a = namesFault? own shared (namesOf a)) :
    as.findSome? fault? = namesFault? own shared (as.flatMap namesOf) := by
  induction as with
  | nil => rfl
  | cons a as ih =>
    obtain ⟨first, rest⟩ := List.forall_mem_cons.mp each
    rw [List.findSome?_cons, ih rest, first, List.flatMap_cons, namesFault?, namesFault?,
      namesFault?, List.find?_append]
    cases (namesOf a).find? (isUndefined own shared) <;> rfl

theorem checkFault?_eq (v : Value) :
    checkFault? own shared v = namesFault? own shared (checkName? v).toList := by
  cases v with
  | string name =>
    simp only [checkFault?, namesFault?, checkName?, Option.toList_some, List.find?_cons,
      List.find?_nil]
    cases isUndefined own shared name <;> rfl
  | _ => rfl

theorem backendFault?_eq {fqdn : String} {v : Value} (lists : ListsChecks v) :
    backendFault? own shared fqdn v = namesFault? own shared (backendNames v) := by
  cases v with
  | mapping es =>
    rw [ListsChecks] at lists
    rw [backendFault?, backendNames]
    cases found : Yaml.lookup "healthchecks" es with
    | none => rfl
    | some w =>
      rw [found] at lists
      cases w with
      | sequence checks =>
        dsimp only
        rw [findSome?_namesFault? checks fun v _ => checkFault?_eq v,
          List.filterMap_eq_flatMap_toList]
      | _ => exact lists.elim
  | _ => rfl

theorem recordFault?_eq {fqdn : String} {es : List (Value × Value)}
    (lists : ∀ backends, Yaml.lookup "backends" es = some (.sequence backends) →
      ∀ b ∈ backends, ListsChecks b) :
    recordFault? own shared fqdn es = namesFault? own shared (recordNames es) := by
  rw [recordFault?, recordNames]
  cases found : Yaml.lookup "backends" es with
  | none => rfl
  | some w =>
    cases w with
    | sequence backends =>
      exact findSome?_namesFault? backends fun b there =>
        backendFault?_eq (lists backends found b there)
    | _ => rfl

variable {f : ZoneFile} {zone : String}

/-- A proper entry has a verdict or a name in it that stands for nothing. -/
theorem loadEntry_of_proper {e : Value × Value} (proper : f.ProperEntry zone e) :
    ∃ v, f.loadEntry zone shared e.1 e.2 =
      (namesFault? f.profiles shared (recordNames (f.mergedRecord e.2))).elim (.ok v) .error := by
  obtain ⟨⟨fqdn, named⟩, ⟨record, mapping⟩, lists⟩ := proper
  rw [mapping, mergedRecord] at lists ⊢
  rw [loadEntry_mapping named, recordFault?_eq lists]
  exact ⟨_, rfl⟩

theorem loadEntries_of_proper {es : List (Value × Value)} {err : ConfigError}
    (proper : ∀ e ∈ es, f.ProperEntry zone e) : f.loadEntries zone shared es = .error err ↔
      namesFault? f.profiles shared (es.flatMap fun e => recordNames (f.mergedRecord e.2)) =
        some err := by
  induction es with
  | nil => exact ⟨nofun, nofun⟩
  | cons e es ih =>
    obtain ⟨first, rest⟩ := List.forall_mem_cons.mp proper
    obtain ⟨v, own⟩ := @loadEntry_of_proper shared f zone e first
    rw [List.flatMap_cons, namesFault?, List.find?_append]
    rw [namesFault?] at own
    cases undefined : (recordNames (f.mergedRecord e.2)).find? (isUndefined f.profiles shared) with
    | some name =>
      rw [undefined] at own
      rw [loadEntries, own]
      exact ⟨fun failure => congrArg some (Except.error.inj failure),
        fun failure => congrArg Except.error (Option.some.inj failure)⟩
    | none =>
      rw [undefined] at own
      rw [loadEntries_cons_eq_error_iff own, ih rest]
      rfl

end

/-- A file loads as the one in which its profile names are written out, with its profiles and
without any. One in which nothing else is wrong fails to load when one of its names stands for
nothing, and the first such name is reported. -/
theorem load_inlined (f : ZoneFile) (zone : String) (shared : Profiles) :
    (f.inlined shared).load zone shared = f.load zone shared ∧
    (f.inlined shared).bare.load zone [] = f.load zone shared ∧
    (f.Proper zone → ∀ err, f.load zone shared = .error err ↔
      ∃ name, f.names.find? (isUndefined f.profiles shared) = some name ∧
        err = .undefinedProfile name) := by
  refine ⟨load_inlined_of_fewer fun _ => id, load_inlined_of_fewer fun _ _ => rfl,
    fun proper err => ?_⟩
  rw [load_eq_error, loadEntries_of_proper proper, names, namesFault?, Option.map_eq_some_iff]
  simp only [eq_comm]

/-- Two records that take their backend from the defaults, the second with checks of its own
besides; of the profiles that they name there is no `gone`. -/
def profiled : ZoneFile where
  defaults := [(.string "backends", .sequence [.mapping [(.string "address", .string "10.0.0.1"),
    (.string "healthchecks", .sequence [.string "web"])]])]
  profiles := [("web", ⟨"tcp", .null⟩)]
  records := [(.string "a.example.org.", .mapping []),
    (.string "b.example.org.", .mapping [(.string "backends", .sequence [
      .mapping [(.string "address", .string "10.0.0.2")],
      .mapping [(.string "address", .string "10.0.0.3"), (.string "healthchecks", .sequence [
        .string "api", .mapping [(.string "type", .string "tcp")], .string "gone"])]])])]

theorem load_inlined_profiled : profiled.Proper "example.org." ∧
    profiled.load "example.org." [("api", ⟨"tcp", .null⟩)] = .error (.undefinedProfile "gone") := by
  have proper : profiled.Proper "example.org." := by
    simp only [Proper, profiled, List.forall_mem_cons]
    refine ⟨⟨⟨_, rfl⟩, ⟨_, rfl⟩, ?_⟩, ⟨⟨_, rfl⟩, ⟨_, rfl⟩, ?_⟩, by simp⟩
    all_goals
      rintro backends ⟨⟩
      simp [ListsChecks, Yaml.lookup]
  exact ⟨proper, ((load_inlined profiled "example.org." _).2.2 proper _).mpr ⟨"gone", rfl, rfl⟩⟩

/-- A check of a port. -/
def portCheck : CheckSpec := ⟨"tcp", .mapping [(.string "port", .number (.int 80))]⟩

/-- One backend with one check, in a list that is under a tag. -/
def underTag (check : Value) : ZoneFile where
  profiles := [("web", portCheck)]
  records := [(.string "a.example.org.", .mapping [(.string "backends", .tagged "!" (.sequence [
    .mapping [(.string "address", .string "10.0.0.1"),
      (.string "healthchecks", .sequence [check])]]))])]

/-- The decoder looks through tags and the search for names does not: where a check is taken,
its name is not. -/
theorem load_underTag :
    ((underTag (.string "web")).load "example.org." []).toOption.map
      (fun z => (z.records.length, z.rejected.length)) = some (0, 1) ∧
    ((underTag (writtenOut portCheck)).load "example.org." []).toOption.map
      (fun z => (z.records.length, z.rejected.length)) = some (1, 0) :=
  ⟨rfl, rfl⟩

end ZoneFile

end DnsBalancer
