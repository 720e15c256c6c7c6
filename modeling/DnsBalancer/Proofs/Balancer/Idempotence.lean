import DnsBalancer.Proofs.Balancer.Reload
import DnsBalancer.Proofs.Registry.Idempotence
import DnsBalancer.Proofs.Zone.Accepted

/-!
# Loading the same file again

The registry is built from a zone file, cycles begin and end in any order, and the same
file is loaded again. This reports nothing and touches nothing when no name stands in the
file twice. Otherwise it does so only if all that the file says of a name is the same.
-/
namespace DnsBalancer

open RecordDefinition (lastNamed? lastNamed?_of_nodup)

theorem RecordDefinition.lastNamed?_unnumbered (fqdn : String) (ds : List RecordDefinition) :
    lastNamed? fqdn (ds.map unnumbered) = (lastNamed? fqdn ds).map unnumbered := by
  rw [lastNamed?, ← List.map_reverse, List.find?_map]
  rfl

theorem RecordDefinition.repeats_unnumbered {d e : RecordDefinition} :
    d.unnumbered.Repeats e.unnumbered ↔ d.Repeats e := by
  have written : (∀ x ∈ d.unnumbered.backends, ∃ y ∈ e.unnumbered.backends, y.InPlace x) ↔
      ∀ x ∈ d.backends, ∃ y ∈ e.backends, y.InPlace x := by
    simp [unnumbered]
  have held : (∀ y ∈ e.unnumbered.backends, ∃ x ∈ d.unnumbered.backends,
        x.address = y.address) ↔
      ∀ y ∈ e.backends, ∃ x ∈ d.backends, x.address = y.address := by
    simp [unnumbered]
  constructor
  · intro repeats
    exact ⟨repeats.settings, written.mp repeats.written, held.mp repeats.held⟩
  · intro repeats
    exact ⟨repeats.settings, written.mpr repeats.written, held.mpr repeats.held⟩

namespace ZoneDefinition

variable {z₁ z₂ : ZoneDefinition}

theorem namesakesRepeat_iff_unnumbered {z : ZoneDefinition} : z.NamesakesRepeat ↔
    ∀ d ∈ z.records.map RecordDefinition.unnumbered, ∀ e,
      lastNamed? d.fqdn (z.records.map RecordDefinition.unnumbered) = some e → d.Repeats e := by
  simp only [NamesakesRepeat, List.forall_mem_map, RecordDefinition.fqdn_unnumbered,
    RecordDefinition.lastNamed?_unnumbered, Option.map_eq_some_iff, forall_exists_index, and_imp,
    forall_apply_eq_imp_iff₂, RecordDefinition.repeats_unnumbered]

theorem namesakesRepeat_of_unnumbered
    (same : z₁.records.map RecordDefinition.unnumbered =
      z₂.records.map RecordDefinition.unnumbered) : z₁.NamesakesRepeat ↔ z₂.NamesakesRepeat := by
  rw [namesakesRepeat_iff_unnumbered, namesakesRepeat_iff_unnumbered, same]

/-- An accepted record says the same as itself. -/
theorem repeats_self {d : RecordDefinition} (accepted : d.Accepted) : d.Repeats d where
  settings := rfl
  written := fun x member => ⟨x, member, .refl x, accepted.numbers x member⟩
  held := fun y member => ⟨y, member, rfl⟩

theorem namesakesRepeat_of_nodup {z : ZoneDefinition} (accepted : ∀ d ∈ z.records, d.Accepted)
    (distinct : (z.records.map (·.fqdn)).Nodup) : z.NamesakesRepeat := by
  intro d member e last
  rw [lastNamed?_of_nodup distinct member] at last
  obtain rfl : d = e := Option.some.inj last
  exact repeats_self (accepted d member)

end ZoneDefinition

namespace Zones

/-- To serve a definition is to serve it under other numbers. -/
theorem serves_of_unnumbered {m : Zones} {z₁ z₂ : ZoneDefinition} (serves : m.Serves z₁)
    (zone : z₁.zone = z₂.zone)
    (same : z₁.records.map RecordDefinition.unnumbered =
      z₂.records.map RecordDefinition.unnumbered) : m.Serves z₂ where
  present := zone ▸ serves.present
  others := zone ▸ serves.others
  records := by
    intro fqdn
    have served := serves.records fqdn
    have last : (lastNamed? fqdn z₁.records).map RecordDefinition.unnumbered =
        (lastNamed? fqdn z₂.records).map RecordDefinition.unnumbered := by
      rw [← RecordDefinition.lastNamed?_unnumbered, same, RecordDefinition.lastNamed?_unnumbered]
    rw [zone] at served
    cases first : lastNamed? fqdn z₁.records with
    | none =>
      rw [first] at served last
      rw [Option.map_eq_none_iff.mp last.symm]
      exact served
    | some d =>
      rw [first] at served last
      obtain ⟨e, second, equal⟩ := Option.map_eq_some_iff.mp last.symm
      rw [second]
      cases live : m.record? z₂.zone fqdn with
      | none =>
        rw [live] at served
        cases served
      | some r =>
        rw [live] at served
        obtain ⟨record⟩ := served
        rw [← Record.serves_unnumbered, ← equal, Record.serves_unnumbered] at record
        exact .some record

end Zones

namespace Balancer

theorem serves_ofDefinitions (z : ZoneDefinition) (events : List ProbeEvent) (n : Nat) :
    (events.foldl Zones.probed (ofDefinitions [z]).zones).Serves (z.numberProbes n).2 := by
  have first : (events.foldl Zones.probed (ofDefinitions [z]).zones).Serves
      (z.numberProbes 0).2 := Zones.serves_run (Zones.serves_ofDefinitions _) events
  have same := (z.unnumbered_numberProbes 0).trans (z.unnumbered_numberProbes n).symm
  exact Zones.serves_of_unnumbered first rfl same

/-- The file that the registry was built from is loaded again, after cycles have begun and
ended in any order. Nothing is reported just when the records of a name are written alike,
and then nothing in the registry is touched. They are when no name stands twice. -/
theorem reloadZone_of_parse {zone text : String} {shared : Profiles} {z : ZoneDefinition}
    (loaded : ZoneDefinition.parse zone text shared = .ok z) (b : Balancer)
    (events : List ProbeEvent)
    (history : b.zones = events.foldl Zones.probed (ofDefinitions [z]).zones) :
    ((b.reloadZone z).1.isNoop = true ↔ z.NamesakesRepeat) ∧
      (z.NamesakesRepeat → (b.reloadZone z).2.zones = b.zones) ∧
      ((z.records.map (·.fqdn)).Nodup → z.NamesakesRepeat) := by
  have accepted := ZoneDefinition.accepted_parse loaded
  -- The file is numbered anew for the reload, and serves under these numbers as well.
  have same := z.unnumbered_numberProbes b.nextProbe
  have serves : b.zones.Serves (z.numberProbes b.nextProbe).2 :=
    history ▸ serves_ofDefinitions z events b.nextProbe
  have distinct := ZoneDefinition.addresses_of_unnumbered same fun d member =>
    (accepted d member).distinct
  have condition := ZoneDefinition.namesakesRepeat_of_unnumbered same
  rw [zones_reloadZone, summary_reloadZone]
  refine ⟨?_, fun repeats => ?_, ZoneDefinition.namesakesRepeat_of_nodup accepted⟩
  · rw [Zones.isNoop_reload_iff serves distinct, condition]
  · exact Zones.zones_reload_of_serves serves distinct (condition.mpr repeats)

/-- Two records of different names. -/
def onceWritten : String :=
  "records:\n  a.example.org.:\n    backends:\n      - address: 10.0.0.1\n" ++
  "  b.example.org.:\n    backends:\n      - address: 10.0.0.2\n"

/-- The same name in two spellings, with a backend each. -/
def twiceWritten : String :=
  "records:\n  a.example.org.:\n    backends:\n      - address: 10.0.0.1\n" ++
  "  A.example.org:\n    backends:\n      - address: 10.0.0.2\n"

theorem reloadZone_of_parse_once :
    ∃ z, ZoneDefinition.parse "example.org." onceWritten [] = .ok z ∧
      ((ofDefinitions [z]).reloadZone z).1.isNoop = true := by
  have read : (ZoneDefinition.parse "example.org." onceWritten []).toOption.map
      (fun z => decide (z.records.map (·.fqdn)).Nodup) = some true := by decide +kernel
  cases loaded : ZoneDefinition.parse "example.org." onceWritten [] with
  | error e =>
    rw [loaded] at read
    cases read
  | ok z =>
    rw [loaded] at read
    have distinct := of_decide_eq_true (Option.some.inj read)
    obtain ⟨noop, _, repeats⟩ := reloadZone_of_parse loaded (ofDefinitions [z]) [] rfl
    exact ⟨z, rfl, noop.mpr (repeats distinct)⟩

/-- Whether the backends of a record of `example.org.` are alive. -/
def aliveness (b : Balancer) (fqdn : String) : Option (List Bool) :=
  (b.zones.record? "example.org." fqdn).map fun r => r.backends.map (·.health.alive)

/-- A cycle that begins on the second backend of `twiceWritten` and finds it alive. -/
def foundAlive : List ProbeEvent :=
  [⟨"example.org.", "a.example.org.", .v4 0x0a000002#32, .begins⟩,
    ⟨"example.org.", "a.example.org.", .v4 0x0a000002#32, .ends 1 { alive := true }⟩]

/-- A backend that was found alive is dead after the same file was loaded again. -/
theorem reloadZone_of_parse_twice : ¬ ∀ (zone text : String) (shared : Profiles)
    (z : ZoneDefinition) (b : Balancer) (events : List ProbeEvent),
    ZoneDefinition.parse zone text shared = .ok z →
    b.zones = events.foldl Zones.probed (ofDefinitions [z]).zones →
      (b.reloadZone z).1.isNoop = true ∧ (b.reloadZone z).2.zones = b.zones := by
  intro untouched
  have resets : (ZoneDefinition.parse "example.org." twiceWritten []).toOption.map (fun z =>
      let b : Balancer := { zones := foundAlive.foldl Zones.probed (ofDefinitions [z]).zones }
      (aliveness b "a.example.org.", aliveness (b.reloadZone z).2 "a.example.org.")) =
      some (some [true], some [false]) := by decide +kernel
  cases loaded : ZoneDefinition.parse "example.org." twiceWritten [] with
  | error e =>
    rw [loaded] at resets
    cases resets
  | ok z =>
    rw [loaded] at resets
    obtain ⟨alive, dead⟩ := Prod.mk.inj (Option.some.inj resets)
    have same := (untouched _ _ _ z
      { zones := foundAlive.foldl Zones.probed (ofDefinitions [z]).zones } foundAlive loaded rfl).2
    rw [aliveness, same] at dead
    rw [aliveness, dead] at alive
    cases alive

end Balancer

end DnsBalancer
