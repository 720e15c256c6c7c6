import DnsBalancer.Proofs.Registry.Repetition

/-!
# A registry that serves a definition

A registry that was built from a definition holds the last record of each name, whatever
probing has found since: cycles begin and findings come in without touching what is
written. Reloading the definition then reports nothing just when each of its records is
written like the last one of its name.
-/
namespace DnsBalancer

open RecordDefinition (lastNamed? lastNamed?_nil lastNamed?_concat mem_of_lastNamed?
  exists_lastNamed?)

/-! ### Probing -/

/-- What probing does to a backend. -/
inductive ProbeStep where
  /-- A cycle begins. -/
  | begins
  /-- What a cycle found comes in, in time or too late. -/
  | ends (cycle : Nat) (finding : Health)

/-- A step of probing on a backend of the registry. -/
structure ProbeEvent where
  zone : String
  fqdn : String
  address : Address
  step : ProbeStep

def Backend.probed (b : Backend) : ProbeStep → Backend
  | .begins => b.beginCycle.2
  | .ends cycle finding => ((b.recordCycle cycle finding).map (·.2)).getD b

/-- Nothing happens when the registry has no such backend. -/
def Zones.probed (m : Zones) (e : ProbeEvent) : Zones :=
  match m.record? e.zone e.fqdn with
  | none => m
  | some r =>
    match r.backend? e.address with
    | none => m
    | some b => m.put (r.setBackend (b.probed e.step))

@[simp] theorem Backend.definition_probed (b : Backend) (s : ProbeStep) :
    (b.probed s).definition = b.definition := by
  cases s with
  | begins => rfl
  | ends cycle finding =>
    simp only [probed, recordCycle]
    split <;> rfl

/-- Putting a backend back leaves the definitions as they were. -/
theorem Record.definitions_setBackend {r : Record} {old b : Backend}
    (found : r.backend? b.address = some old) (same : b.definition = old.definition) :
    (r.setBackend b).backends.map (·.definition) = r.backends.map (·.definition) := by
  have walk (bs : List Backend) (first : bs.find? (·.address == b.address) = some old) :
      (setBackend.place b bs).map (·.definition) = bs.map (·.definition) := by
    induction bs with
    | nil => rfl
    | cons c cs ih =>
      rw [List.find?_cons] at first
      cases met : c.address == b.address with
      | true =>
        rw [met] at first
        obtain rfl : c = old := Option.some.inj first
        simp [setBackend.place, met, same]
      | false =>
        rw [met] at first
        simp [setBackend.place, met, ih first]
  exact walk r.backends found

/-! ### Serving -/

/-- The record has what `d` says, probing and serial numbers apart. -/
structure Record.Serves (r : Record) (zone : String) (d : RecordDefinition) : Prop where
  fqdn : r.fqdn = d.fqdn
  zone : r.zone = zone
  settings : r.settings = d.settings
  definitions : r.backends.map (·.definition.unnumbered) =
    d.backends.map BackendDefinition.unnumbered

/-- The zone of `z` and no other is there, with the last record of each name. -/
structure Zones.Serves (m : Zones) (z : ZoneDefinition) : Prop where
  present : ∃ rs, NameMap.find? m z.zone = some rs
  others : ∀ zone, zone ≠ z.zone → NameMap.find? m zone = none
  records : ∀ fqdn, Option.Rel (fun r d => r.Serves z.zone d) (m.record? z.zone fqdn)
    (lastNamed? fqdn z.records)

namespace Zones

variable {m : Zones} {z : ZoneDefinition} {fqdn : String}

/-- A name that is written is live, and the last record of the name is served there. -/
theorem exists_record_of_serves (serves : m.Serves z) {d : RecordDefinition}
    (last : lastNamed? fqdn z.records = some d) :
    ∃ r, m.record? z.zone fqdn = some r ∧ r.Serves z.zone d := by
  have served := serves.records fqdn
  rw [last] at served
  cases live : m.record? z.zone fqdn with
  | none =>
    rw [live] at served
    cases served
  | some r =>
    rw [live] at served
    obtain ⟨record⟩ := served
    exact ⟨r, rfl, record⟩

/-- A name that is live is written. -/
theorem exists_written_of_serves (serves : m.Serves z) {r : Record}
    (live : m.record? z.zone fqdn = some r) :
    ∃ d, lastNamed? fqdn z.records = some d ∧ r.Serves z.zone d := by
  have served := serves.records fqdn
  rw [live] at served
  cases last : lastNamed? fqdn z.records with
  | none =>
    rw [last] at served
    cases served
  | some d =>
    rw [last] at served
    obtain ⟨record⟩ := served
    exact ⟨d, rfl, record⟩

end Zones

namespace Record

theorem serves_ofDefinition (zone : String) (d : RecordDefinition) (cancelled : Bool) :
    (ofDefinition zone d cancelled).Serves zone d where
  fqdn := rfl
  zone := rfl
  settings := rfl
  definitions := by simp [ofDefinition, Function.comp_def]

theorem serves_unnumbered {r : Record} {zone : String} {d : RecordDefinition} :
    r.Serves zone d.unnumbered ↔ r.Serves zone d := by
  have definitions : d.unnumbered.backends.map BackendDefinition.unnumbered =
      d.backends.map BackendDefinition.unnumbered := by
    simp [RecordDefinition.unnumbered, BackendDefinition.unnumbered, Function.comp_def]
  constructor
  · intro serves
    exact { serves with definitions := serves.definitions.trans definitions }
  · intro serves
    exact { serves with definitions := serves.definitions.trans definitions.symm }

theorem serves_setBackend {r : Record} {zone : String} {d : RecordDefinition} {old b : Backend}
    (serves : r.Serves zone d) (found : r.backend? b.address = some old)
    (same : b.definition = old.definition) : (r.setBackend b).Serves zone d := by
  have definitions := congrArg (List.map BackendDefinition.unnumbered)
    (definitions_setBackend found same)
  simp only [List.map_map, Function.comp_def] at definitions
  exact { serves with definitions := definitions.trans serves.definitions }

end Record

namespace Zones

theorem find?_addRecords (rs : NameMap Record) (zone fqdn : String)
    (ds : List RecordDefinition) :
    (ds.foldl (fun rs d => rs.insert d.fqdn (.ofDefinition zone d false)) rs).find? fqdn =
      ((lastNamed? fqdn ds).map (.ofDefinition zone · false)).or (rs.find? fqdn) := by
  induction ds using List.reverseRecOn with
  | nil => rfl
  | append_singleton ds d ih =>
    rw [List.foldl_concat, NameMap.find?_insert, ih, lastNamed?_concat]
    split <;> rfl

/-- The registry at the start serves what it was built from. -/
theorem serves_ofDefinitions (z : ZoneDefinition) : (ofDefinitions [z]).Serves z where
  present := by simp [ofDefinitions]
  others := by
    intro zone other
    rw [ofDefinitions, List.foldl_cons, List.foldl_nil, NameMap.find?_insert,
      if_neg (Ne.symm other)]
    rfl
  records := by
    intro fqdn
    rw [ofDefinitions, List.foldl_cons, List.foldl_nil, record?_insert, if_pos rfl, addRecords,
      find?_addRecords]
    cases lastNamed? fqdn z.records with
    | none => exact .none
    | some d => exact .some (Record.serves_ofDefinition z.zone d false)

theorem record?_put (m : Zones) (r : Record) (zone fqdn : String) :
    (m.put r).record? zone fqdn =
      if r.zone = zone ∧ r.fqdn = fqdn then some r else m.record? zone fqdn := by
  rw [put, record?_insert, NameMap.find?_insert, find?_recordsOf]
  by_cases equal : r.zone = zone
  · simp [equal]
  · simp [equal]

/-- Putting a record back that still serves its definition. -/
theorem serves_put {m : Zones} {z : ZoneDefinition} {r : Record} {d : RecordDefinition}
    (serves : m.Serves z) (found : lastNamed? r.fqdn z.records = some d)
    (record : r.Serves z.zone d) : (m.put r).Serves z where
  present := by
    rw [put, NameMap.find?_insert, if_pos record.zone]
    exact ⟨_, rfl⟩
  others := by
    intro zone other
    have elsewhere : r.zone ≠ zone := fun equal => other (equal ▸ record.zone)
    rw [put, NameMap.find?_insert, if_neg elsewhere]
    exact serves.others zone other
  records := by
    intro fqdn
    rw [record?_put]
    split
    · rename_i own
      rw [← own.2, found]
      exact .some record
    · exact serves.records fqdn

theorem serves_probed {m : Zones} {z : ZoneDefinition} (serves : m.Serves z) (e : ProbeEvent) :
    (m.probed e).Serves z := by
  unfold probed
  split
  · exact serves
  · rename_i r present
    split
    · exact serves
    · rename_i b held
      -- The registry has no other zone, so the event is about this one.
      have zone : e.zone = z.zone := by
        by_contra other
        rw [record?, recordsOf, serves.others e.zone other] at present
        cases present
      rw [zone] at present
      obtain ⟨d, last, record⟩ := exists_written_of_serves serves present
      have name : r.fqdn = e.fqdn := record.fqdn.trans (mem_of_lastNamed? last).2
      have address : (b.probed e.step).address = e.address := by
        rw [Backend.address, Backend.definition_probed]
        exact (Record.mem_of_backend? held).2
      rw [← address] at held
      refine serves_put serves ?_ (Record.serves_setBackend record held ?_)
      · exact name ▸ last
      · exact b.definition_probed e.step

/-- Whatever is begun and found, in whatever order, the definition is still served. -/
theorem serves_run {m : Zones} {z : ZoneDefinition} (serves : m.Serves z)
    (events : List ProbeEvent) : (events.foldl probed m).Serves z := by
  induction events generalizing m with
  | nil => exact serves
  | cons e events ih => exact ih (serves_probed serves e)

end Zones

end DnsBalancer
