import DnsBalancer.Proofs.Registry.Serving

/-!
# Reloading what is served

A registry that serves a definition is reloaded with it. The reload reports nothing just
when each record of the definition is written like the last one of its name, and then it
leaves the registry as it was.
-/
namespace DnsBalancer

open RecordDefinition (lastNamed? mem_of_lastNamed? exists_lastNamed? lastNamed?_of_nodup)

/-- The record `d` is written like `e`, up to the order of backends and serial numbers. -/
structure RecordDefinition.Repeats (d e : RecordDefinition) : Prop where
  settings : e.settings = d.settings
  written : ∀ x ∈ d.backends, ∃ y ∈ e.backends, y.InPlace x
  held : ∀ y ∈ e.backends, ∃ x ∈ d.backends, x.address = y.address

/-- No record is written otherwise than the last one of its name. -/
def ZoneDefinition.NamesakesRepeat (z : ZoneDefinition) : Prop :=
  ∀ d ∈ z.records, ∀ e, lastNamed? d.fqdn z.records = some e → d.Repeats e

namespace Record

variable {r : Record} {zone : String} {d e : RecordDefinition}

theorem addresses_of_serves (serves : r.Serves zone e) :
    r.backends.map (·.address) = e.backends.map (·.address) := by
  have addresses := congrArg (List.map (·.address)) serves.definitions
  simpa [Function.comp_def, Backend.address] using addresses

/-- The backend whose definition stands in what is served. -/
theorem exists_backend_of_serves (serves : r.Serves zone e) {y : BackendDefinition}
    (written : y ∈ e.backends) :
    ∃ b ∈ r.backends, b.definition.unnumbered = y.unnumbered := by
  have image : y.unnumbered ∈ r.backends.map (·.definition.unnumbered) := by
    rw [serves.definitions]
    exact List.mem_map_of_mem written
  exact List.mem_map.mp image

theorem exists_definition_of_serves (serves : r.Serves zone e) {b : Backend}
    (held : b ∈ r.backends) : ∃ y ∈ e.backends, y.unnumbered = b.definition.unnumbered := by
  have image : b.definition.unnumbered ∈ e.backends.map BackendDefinition.unnumbered := by
    rw [← serves.definitions]
    exact List.mem_map_of_mem held
  exact List.mem_map.mp image

/-- A served record matches what repeats the definition it serves. -/
theorem matches_iff_repeats (serves : r.Serves zone e)
    (distinct : (e.backends.map (·.address)).Nodup) : r.Matches d ↔ d.Repeats e := by
  have once : (r.backends.map (·.address)).Nodup := by
    rw [addresses_of_serves serves]
    exact distinct
  constructor
  · rintro ⟨settings, written, held⟩
    refine ⟨serves.settings.symm.trans settings, fun x member => ?_, fun y member => ?_⟩
    · obtain ⟨b, found, inPlace⟩ := written x member
      obtain ⟨y, present, same⟩ :=
        exists_definition_of_serves serves (mem_of_backend? found).1
      refine ⟨y, present, ?_⟩
      rw [← BackendDefinition.unnumbered_inPlace, same, BackendDefinition.unnumbered_inPlace]
      exact inPlace
    · obtain ⟨b, present, same⟩ := exists_backend_of_serves serves member
      obtain ⟨x, named, address⟩ := held b present
      have equal : b.address = y.address := congrArg (·.address) same
      exact ⟨x, named, address.trans equal⟩
  · rintro ⟨settings, written, held⟩
    refine ⟨serves.settings.trans settings, fun x member => ?_, fun b member => ?_⟩
    · obtain ⟨y, present, inPlace⟩ := written x member
      obtain ⟨b, live, same⟩ := exists_backend_of_serves serves present
      have address : b.address = x.address :=
        (congrArg (·.address) same : b.address = y.address).trans inPlace.1.address
      refine ⟨b, address ▸ backend?_of_mem once live, ?_⟩
      rw [← BackendDefinition.unnumbered_inPlace, same, BackendDefinition.unnumbered_inPlace]
      exact inPlace
    · obtain ⟨y, present, same⟩ := exists_definition_of_serves serves member
      obtain ⟨x, named, address⟩ := held y present
      have equal : y.address = b.address := congrArg (·.address) same
      exact ⟨x, named, address.trans equal⟩

end Record

namespace Zones

variable {m : Zones} {z : ZoneDefinition} {cancelled : Bool}

theorem inPlace_iff (serves : m.Serves z)
    (distinct : ∀ d ∈ z.records, (d.backends.map (·.address)).Nodup) :
    Merge.InPlace (recordsOf m z.zone) z.records ↔ z.NamesakesRepeat := by
  constructor
  · intro inPlace d member e last
    obtain ⟨r, live, record⟩ := exists_record_of_serves serves last
    obtain ⟨before, found, same⟩ := inPlace d member
    obtain rfl : r = before := Option.some.inj (live.symm.trans found)
    exact (Record.matches_iff_repeats record (distinct e (mem_of_lastNamed? last).1)).mp same
  · intro repeats d member
    obtain ⟨e, last⟩ := exists_lastNamed? member
    obtain ⟨r, live, record⟩ := exists_record_of_serves serves last
    have once := distinct e (mem_of_lastNamed? last).1
    exact ⟨r, live, (Record.matches_iff_repeats record once).mpr (repeats d member e last)⟩

/-- Every live name is written, and every written name is live. -/
theorem live_iff_written (serves : m.Serves z) {fqdn : String} :
    (∃ r, m.record? z.zone fqdn = some r) ↔ fqdn ∈ z.records.map (·.fqdn) := by
  constructor
  · rintro ⟨r, live⟩
    obtain ⟨d, last, _⟩ := exists_written_of_serves serves live
    exact List.mem_map.mpr ⟨d, mem_of_lastNamed? last⟩
  · intro member
    obtain ⟨d, written, rfl⟩ := List.mem_map.mp member
    obtain ⟨e, last⟩ := exists_lastNamed? written
    obtain ⟨r, live, _⟩ := exists_record_of_serves serves last
    exact ⟨r, live⟩

theorem present_of_serves (serves : m.Serves z) :
    ∀ d ∈ z.records, ∃ r, (recordsOf m z.zone).find? d.fqdn = some r := fun _ member =>
  (live_iff_written serves).mpr (List.mem_map_of_mem member)

theorem isNoop_reload_iff (serves : m.Serves z)
    (distinct : ∀ d ∈ z.records, (d.backends.map (·.address)).Nodup) :
    (m.reload z cancelled).summary.isNoop = true ↔ z.NamesakesRepeat := by
  have live := present_of_serves serves
  have added : (m.reload z cancelled).summary.added = [] := by
    rw [added_reload, List.filter_eq_nil_iff.mpr]
    · simp [sortNames]
    · intro d member
      obtain ⟨r, found⟩ := live d member
      simp [NameMap.contains, found]
  have met : unmet m z cancelled = [] := by
    apply List.eq_nil_iff_forall_not_mem.mpr
    rintro ⟨fqdn, r⟩ member
    obtain ⟨before, unwritten⟩ := mem_unmet_iff.mp member
    exact unwritten ((live_iff_written serves).mp ⟨r, before⟩)
  have removed : (m.reload z cancelled).summary.removed = [] := by
    simp [removed_reload, met, sortNames]
  have updated : (m.reload z cancelled).summary.updated = [] ↔
      (walk m z cancelled).updated = [] := by
    change sortNames (walk m z cancelled).updated = [] ↔ _
    rw [← List.length_eq_zero_iff, sortNames, List.length_mergeSort, List.length_eq_zero_iff]
  rw [← inPlace_iff serves distinct,
    ← (Merge.updated_run_eq_nil_iff z.zone cancelled live).1, ReloadSummary.isNoop, added, removed]
  simpa [walk] using updated

/-- Nothing that is served changes, not even in the order of backends. -/
theorem zones_reload_of_serves (serves : m.Serves z)
    (distinct : ∀ d ∈ z.records, (d.backends.map (·.address)).Nodup)
    (repeats : z.NamesakesRepeat) : (m.reload z cancelled).zones = m := by
  have settled := (Merge.updated_run_eq_nil_iff z.zone cancelled (present_of_serves serves)).2
    ((inPlace_iff serves distinct).mpr repeats)
  have kept (fqdn : String) :
      (m.reload z cancelled).zones.record? z.zone fqdn = m.record? z.zone fqdn := by
    rw [record?_reload, walk, settled.next, find?_recordsOf]
    cases live : m.record? z.zone fqdn with
    | none => cases lastNamed? fqdn z.records <;> simp
    | some r =>
      obtain ⟨e, last, record⟩ := exists_written_of_serves serves live
      have once := distinct e (mem_of_lastNamed? last).1
      have order := Record.addresses_of_serves record
      rw [last, Option.bind_some, Option.map_some, Option.some_or,
        Record.reorder_self (order ▸ once) order]
  obtain ⟨rs, present⟩ := serves.present
  rw [zones_reload] at kept ⊢
  apply NameMap.insert_of_find?
  rw [present]
  refine congrArg some (NameMap.ext_find? fun fqdn => ?_)
  have same := kept fqdn
  rw [record?_insert, if_pos rfl, record?, recordsOf, present] at same
  exact same.symm

end Zones

end DnsBalancer
