import DnsBalancer.Proofs.Balancer.Reload
import DnsBalancer.Proofs.Registry.Unreported

/-!
# Answers around a reload that reports nothing

A summary that lists no addition, change or removal does not say that all is answered as before:
it is silent on the order of backends and on a zone that comes without records. Where neither is
the case, nothing that can be asked for tells the reload.
-/
namespace DnsBalancer

/-- Numbers are no part of what is listed. -/
theorem RecordDefinition.listed_of_unnumbered {d e : RecordDefinition}
    (same : d.unnumbered = e.unnumbered) (family : Family) : d.listed family = e.listed family := by
  have listed (d : RecordDefinition) : d.unnumbered.listed family = d.listed family := by
    simp [RecordDefinition.listed, unnumbered, List.filter_map, Function.comp_def,
      BackendDefinition.unnumbered]
  rw [← listed d, same, listed e]

theorem Zones.inOrder_of_unnumbered {m : Zones} {order : ZoneOrder} {z₁ z₂ : ZoneDefinition}
    (zone : z₁.zone = z₂.zone) (same : z₁.records.map RecordDefinition.unnumbered =
      z₂.records.map RecordDefinition.unnumbered) (inOrder : m.InOrder order z₁) :
    m.InOrder order z₂ := by
  intro d member normal holder r live family
  obtain ⟨e, present, equal⟩ := ZoneDefinition.exists_unnumbered same member
  have fqdn : e.fqdn = d.fqdn := by rw [← e.fqdn_unnumbered, equal, d.fqdn_unnumbered]
  have listed := inOrder e present (fqdn ▸ normal) (by rw [fqdn, zone, holder]) r
    (by rw [fqdn, zone, live]) family
  exact listed.trans (RecordDefinition.listed_of_unnumbered equal family)

namespace Balancer

/-- Whatever is asked, the two answer alike. -/
structure SameAnswers (b c : Balancer) : Prop where
  pick : ∀ name family client chance,
    (c.pick name family client chance).1 = (b.pick name family client chance).1
  pickAll : ∀ name family, c.pickAll name family = b.pickAll name family
  ttl : ∀ name, c.ttl? name = b.ttl? name
  authoritative : ∀ name, c.isAuthoritative name = b.isAuthoritative name
  zoneNames : c.zoneNames = b.zoneNames

theorem sameAnswers_of_answersAs {b c : Balancer}
    (zones : Zones.AnswersAs b.order b.zones c.zones) (order : c.order = b.order)
    (geo : c.geo = b.geo) (locations : c.locations = b.locations) : b.SameAnswers c where
  pick := by
    intro name family client chance
    unfold pick record findRecord
    rw [order]
    rcases zones.findRecord_cases name with ⟨before, after⟩ | ⟨r, s, before, after, same⟩
    · rw [before, after]
    · rw [before, after]
      change (s.select family client c.geo c.locations chance).1 =
        (r.select family client b.geo b.locations chance).1
      rw [geo, locations, same.select]
  pickAll := by
    intro name family
    unfold pickAll record findRecord
    rw [order]
    rcases zones.findRecord_cases name with ⟨before, after⟩ | ⟨r, s, before, after, same⟩
    · rw [before, after]
    · rw [before, after]
      exact same.allAddresses family
  ttl := by
    intro name
    unfold ttl? findRecord
    rw [order]
    rcases zones.findRecord_cases name with ⟨before, after⟩ | ⟨r, s, before, after, same⟩
    · rw [before, after]
    · rw [before, after, Option.map_some, Option.map_some, same.settings]
  authoritative := by
    intro name
    rw [isAuthoritative, isAuthoritative, Zones.isAuthoritative, Zones.isAuthoritative,
      zones.names]
  zoneNames := zones.names

/-- Besides the registry, what queries are answered from. -/
def outlook (b : Balancer) : ZoneOrder × GeoSources × LocationTable := (b.order, b.geo, b.locations)

theorem outlook_reloadZone (b : Balancer) (z : ZoneDefinition) :
    (b.reloadZone z).2.outlook = b.outlook := by
  have spawned (zone fqdn : String) (b : Balancer) :
      (spawn zone fqdn .zero b).outlook = b.outlook := by
    unfold spawn
    cases b.tasks.find? fqdn <;> rfl
  exact frame_reloadZone outlook spawned (fun _ _ => rfl) (fun _ _ _ => rfl) (fun _ => rfl) b z

/-- After a reload that reports nothing all is answered as before, just when the zone was there
before and the records that names find, whatever the order in which zones are looked through, have
their enabled backends in the order of their definitions. -/
theorem sameAnswers_reloadZone_iff {b : Balancer} {z : ZoneDefinition}
    (distinct : (z.records.map (·.fqdn)).Nodup)
    (addresses : ∀ d ∈ z.records, (d.backends.map (·.address)).Nodup)
    (noop : (b.reloadZone z).1.isNoop = true) :
    b.SameAnswers (b.reloadZone z).2 ↔ z.zone ∈ b.zoneNames ∧ b.zones.InOrder b.order z := by
  have same := z.unnumbered_numberProbes b.nextProbe
  have numbered : ((z.numberProbes b.nextProbe).2.records.map (·.fqdn)).Nodup :=
    ZoneDefinition.names_of_unnumbered same ▸ distinct
  have written := ZoneDefinition.addresses_of_unnumbered same addresses
  rw [summary_reloadZone] at noop
  have zones := zones_reloadZone b z
  obtain ⟨order, geo, locations⟩ : _ ∧ _ ∧ _ := by
    simpa only [outlook, Prod.mk.injEq] using outlook_reloadZone b z
  constructor
  · intro answers
    have names := answers.zoneNames
    rw [zoneNames, zoneNames, zones] at names
    have present : (z.numberProbes b.nextProbe).2.zone ∈ NameMap.names b.zones := by
      rw [← names]
      exact Zones.mem_names_reload
    have inOrder : b.zones.InOrder b.order (z.numberProbes b.nextProbe).2 := by
      intro d member normal holder r live family
      obtain ⟨x, held, before, after⟩ :=
        Zones.findRecord_reload_of_noop numbered noop names member normal holder
      obtain rfl := Option.some.inj (live.symm.trans held)
      have given := answers.pickAll d.fqdn family
      unfold pickAll record findRecord at given
      rw [order, zones, before, after] at given
      exact (Record.listed_of_allAddresses given).symm.trans Record.listed_updateFrom
    exact ⟨present, Zones.inOrder_of_unnumbered (by rfl) same inOrder⟩
  · rintro ⟨present, inOrder⟩
    have names : NameMap.names (b.reloadZone z).2.zones = NameMap.names b.zones :=
      zones ▸ Zones.names_reload present
    refine sameAnswers_of_answersAs ?_ order geo locations
    have ordered : b.zones.InOrder b.order (z.numberProbes b.nextProbe).2 :=
      Zones.inOrder_of_unnumbered (by rfl) same.symm inOrder
    rw [zones] at names ⊢
    exact Zones.answersAs_reload_of_noop numbered noop names written ordered

/-- A zone with one record. -/
def servedBy (backends : List BackendDefinition) : ZoneDefinition where
  zone := "example.org."
  records := [{ fqdn := "a.example.org.", backends }]

def twoBackends : List BackendDefinition :=
  [{ address := .v4 0x0a000001#32 }, { address := .v4 0x0a000002#32 }]

theorem sameAnswers_reloadZone_again :
    let z := servedBy twoBackends
    ((z.records.map (·.fqdn)).Nodup ∧ ∀ d ∈ z.records, (d.backends.map (·.address)).Nodup) ∧
      ((ofDefinitions [z]).reloadZone z).1.isNoop = true ∧
      (ofDefinitions [z]).SameAnswers ((ofDefinitions [z]).reloadZone z).2 := by
  intro z
  have noop : ((ofDefinitions [z]).reloadZone z).1.isNoop = true := by decide +kernel
  have inOrder : (ofDefinitions [z]).zones.InOrder (ofDefinitions [z]).order z := by
    intro d member _ _ r live family
    rw [List.mem_singleton.mp member] at live ⊢
    cases live
    cases family <;> rfl
  refine ⟨by decide, noop, ?_⟩
  exact (sameAnswers_reloadZone_iff (by decide) (by decide) noop).mpr ⟨by decide, inOrder⟩

/-- Backends that are written the other way round are given the other way round, which no
summary tells. -/
theorem sameAnswers_reloadZone_reversed : ¬ ∀ (b : Balancer) (z : ZoneDefinition),
    (z.records.map (·.fqdn)).Nodup → (∀ d ∈ z.records, (d.backends.map (·.address)).Nodup) →
    (b.reloadZone z).1.isNoop = true → b.SameAnswers (b.reloadZone z).2 := by
  intro same
  have answers := same (ofDefinitions [servedBy twoBackends]) (servedBy twoBackends.reverse)
    (by decide) (by decide) (by decide +kernel)
  have given := answers.pickAll "a.example.org." .ipv4
  have before : (ofDefinitions [servedBy twoBackends]).pickAll "a.example.org." .ipv4 =
      .ok [.v4 0x0a000001#32, .v4 0x0a000002#32] := by decide +kernel
  have after : ((ofDefinitions [servedBy twoBackends]).reloadZone
      (servedBy twoBackends.reverse)).2.pickAll "a.example.org." .ipv4 =
      .ok [.v4 0x0a000002#32, .v4 0x0a000001#32] := by decide +kernel
  rw [before, after] at given
  exact absurd (Except.ok.inj given) (by decide)

end Balancer

end DnsBalancer
