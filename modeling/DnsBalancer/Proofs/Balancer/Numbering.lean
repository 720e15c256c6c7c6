import DnsBalancer.Balancer.State
import DnsBalancer.Proofs.Registry.Reload

/-!
# Numbering the probes of a definition

A definition gets its serial numbers before it is merged. They are no part of what is
written: numbering changes nothing else, and a merge has the same duties with them as
without.
-/
namespace DnsBalancer

@[simp] theorem BackendDefinition.unnumbered_numberProbes (n : Nat) (x : BackendDefinition) :
    (x.numberProbes n).2.unnumbered = x.unnumbered := by
  have probes : (x.numberProbes n).2.unnumbered.probes = x.unnumbered.probes := by
    apply List.ext_getElem <;> simp [numberProbes, unnumbered]
  exact congrArg (fun probes => { x with probes }) probes

namespace RecordDefinition

theorem follows_unnumbered {before : Option Record} {d : RecordDefinition} {r : Record} :
    r.Follows before d.unnumbered ↔ r.Follows before d := by
  have backends : List.Forall₂ BackendDefinition.Agrees (r.backends.map (·.definition))
        d.unnumbered.backends ↔
      List.Forall₂ BackendDefinition.Agrees (r.backends.map (·.definition)) d.backends := by
    simp only [unnumbered, List.forall₂_map_right_iff, BackendDefinition.agrees_unnumbered]
  constructor
  · intro follows
    exact { follows with backends := backends.mp follows.backends }
  · intro follows
    exact { follows with backends := backends.mpr follows.backends }

theorem matches_unnumbered {d : RecordDefinition} {r : Record} :
    r.Matches d.unnumbered ↔ r.Matches d := by
  have address (x : BackendDefinition) : x.unnumbered.address = x.address := rfl
  have written : (∀ x ∈ d.unnumbered.backends,
        ∃ b, r.backend? x.address = some b ∧ b.definition.InPlace x) ↔
      ∀ x ∈ d.backends, ∃ b, r.backend? x.address = some b ∧ b.definition.InPlace x := by
    simp only [unnumbered, List.forall_mem_map, address, BackendDefinition.inPlace_unnumbered]
  have held : (∀ b ∈ r.backends, ∃ x ∈ d.unnumbered.backends, x.address = b.address) ↔
      ∀ b ∈ r.backends, ∃ x ∈ d.backends, x.address = b.address := by
    simp only [unnumbered, List.mem_map, exists_exists_and_eq_and, address]
  constructor
  · intro same
    exact ⟨same.settings, written.mp same.written, held.mp same.held⟩
  · intro same
    exact ⟨same.settings, written.mpr same.written, held.mpr same.held⟩

end RecordDefinition

/-- Threading a number through a list keeps what each step keeps. -/
theorem map_threadNat {α β : Type} {f : Nat → α → Nat × α} {g : α → β}
    (same : ∀ n a, g (f n a).2 = g a) (n : Nat) (as : List α) :
    (threadNat f n as).2.map g = as.map g := by
  induction as generalizing n with
  | nil => rfl
  | cons a as ih => simp [threadNat, same, ih]

/-- The last of a list is threaded with the number that the others have led to. -/
theorem threadNat_concat {α : Type} (f : Nat → α → Nat × α) (n : Nat) (as : List α) (a : α) :
    threadNat f n (as ++ [a]) = ((f (threadNat f n as).1 a).1,
      (threadNat f n as).2 ++ [(f (threadNat f n as).1 a).2]) := by
  induction as generalizing n with
  | nil => rfl
  | cons b as ih => simp [threadNat, ih]

namespace ZoneDefinition

theorem unnumbered_numberProbes (n : Nat) (z : ZoneDefinition) :
    (z.numberProbes n).2.records.map RecordDefinition.unnumbered =
      z.records.map RecordDefinition.unnumbered := by
  refine map_threadNat (fun n d => ?_) n z.records
  simp [RecordDefinition.unnumbered, map_threadNat BackendDefinition.unnumbered_numberProbes]

/-- A name is found at the same place in definitions that differ in serial numbers. -/
theorem names_of_unnumbered {z₁ z₂ : ZoneDefinition}
    (same : z₁.records.map RecordDefinition.unnumbered =
      z₂.records.map RecordDefinition.unnumbered) :
    z₁.records.map (·.fqdn) = z₂.records.map (·.fqdn) := by
  simpa [Function.comp_def] using
    congrArg (List.map (·.fqdn)) same

/-- What is built from is what was given, serial numbers apart. -/
theorem exists_of_mem_numbered {n : Nat} {zs : List ZoneDefinition} {z : ZoneDefinition}
    (member : z ∈ (threadNat numberProbes n zs).2) : ∃ w ∈ zs, z.zone = w.zone ∧
      z.records.map RecordDefinition.unnumbered = w.records.map RecordDefinition.unnumbered := by
  let written (z : ZoneDefinition) : String × List RecordDefinition :=
    (z.zone, z.records.map RecordDefinition.unnumbered)
  have same : (threadNat numberProbes n zs).2.map written = zs.map written :=
    map_threadNat (fun n z => Prod.ext rfl (z.unnumbered_numberProbes n)) n zs
  obtain ⟨w, there, equal⟩ := List.mem_map.mp (same ▸ List.mem_map_of_mem member)
  obtain ⟨zone, records⟩ := Prod.mk.inj equal
  exact ⟨w, there, zone.symm, records.symm⟩

theorem exists_unnumbered {z₁ z₂ : ZoneDefinition}
    (same : z₁.records.map RecordDefinition.unnumbered =
      z₂.records.map RecordDefinition.unnumbered) {d : RecordDefinition} (member : d ∈ z₂.records) :
    ∃ e ∈ z₁.records, e.unnumbered = d.unnumbered := by
  have image : d.unnumbered ∈ z₁.records.map RecordDefinition.unnumbered := by
    rw [same]
    exact List.mem_map_of_mem member
  exact List.mem_map.mp image

theorem addresses_of_unnumbered {z₁ z₂ : ZoneDefinition}
    (same : z₁.records.map RecordDefinition.unnumbered =
      z₂.records.map RecordDefinition.unnumbered)
    (distinct : ∀ d ∈ z₂.records, (d.backends.map (·.address)).Nodup) :
    ∀ d ∈ z₁.records, (d.backends.map (·.address)).Nodup := by
  intro d member
  obtain ⟨e, present, equal⟩ := exists_unnumbered same.symm member
  have addresses := congrArg (fun d => d.backends.map (·.address)) equal
  simp only [RecordDefinition.unnumbered, List.map_map, Function.comp_def,
    BackendDefinition.address_unnumbered] at addresses
  rw [← addresses]
  exact distinct e present

end ZoneDefinition

/-- What a reload owes to a definition it owes to that definition under other numbers. -/
theorem Zones.reloads_of_unnumbered {before after : Zones} {z₁ z₂ : ZoneDefinition}
    {s : ReloadSummary} (reloads : before.Reloads z₁ after s) (zone : z₁.zone = z₂.zone)
    (rejected : z₁.rejected = z₂.rejected)
    (same : z₁.records.map RecordDefinition.unnumbered =
      z₂.records.map RecordDefinition.unnumbered) : before.Reloads z₂ after s := by
  have names := ZoneDefinition.names_of_unnumbered same
  have refused (fqdn : String) : z₂.isRejected fqdn = z₁.isRejected fqdn := by
    simp [ZoneDefinition.isRejected, rejected]
  obtain ⟨live, configured, kept, others, sorted, added, updated, removed, keptNames⟩ := reloads
  rw [zone] at *
  rw [names] at live kept added removed keptNames
  refine ⟨?_, ?_, ?_, others, sorted, added, ?_, ?_, ?_⟩
  · simpa only [refused] using live
  · intro d member
    obtain ⟨e, present, equal⟩ := ZoneDefinition.exists_unnumbered same member
    have fqdn : e.fqdn = d.fqdn := by rw [← e.fqdn_unnumbered, equal, d.fqdn_unnumbered]
    obtain ⟨r, found, follows⟩ := configured e present
    rw [fqdn] at found follows
    refine ⟨r, found, ?_⟩
    rw [← RecordDefinition.follows_unnumbered, ← equal, RecordDefinition.follows_unnumbered]
    exact follows
  · simpa only [refused] using kept
  · intro fqdn
    rw [updated]
    constructor
    · rintro ⟨e, present, rfl, r, found, differs⟩
      obtain ⟨d, member, equal⟩ := ZoneDefinition.exists_unnumbered same.symm present
      rw [← RecordDefinition.matches_unnumbered, ← equal,
        RecordDefinition.matches_unnumbered] at differs
      refine ⟨d, member, ?_, r, found, differs⟩
      rw [← d.fqdn_unnumbered, equal, e.fqdn_unnumbered]
    · rintro ⟨d, member, rfl, r, found, differs⟩
      obtain ⟨e, present, equal⟩ := ZoneDefinition.exists_unnumbered same member
      rw [← RecordDefinition.matches_unnumbered, ← equal,
        RecordDefinition.matches_unnumbered] at differs
      refine ⟨e, present, ?_, r, found, differs⟩
      rw [← e.fqdn_unnumbered, equal, d.fqdn_unnumbered]
  · simpa only [refused] using removed
  · simpa only [refused] using keptNames

end DnsBalancer
