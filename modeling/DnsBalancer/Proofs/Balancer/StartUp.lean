import DnsBalancer.Proofs.Balancer.Loops
import DnsBalancer.Proofs.Registry.StartUp

/-!
# A balancer built from definitions and one that has reloaded them

Both paths number probes alike, so they differ just where the registries do: where definitions of
one zone follow one another and a later one does not have a name of an earlier one.
-/
namespace DnsBalancer

open Zones (Stands)

namespace ZoneDefinition

/-- All that a later definition of the zone is judged by. -/
def outline (z : ZoneDefinition) : String × List String × List RejectedRecord :=
  (z.zone, z.records.map (·.fqdn), z.rejected)

theorem outline_numberProbes (n : Nat) (z : ZoneDefinition) :
    (z.numberProbes n).2.outline = z.outline :=
  Prod.ext rfl (Prod.ext (names_of_unnumbered (z.unnumbered_numberProbes n)) rfl)

end ZoneDefinition

/-- No definition takes away a name that an earlier one of its zone has brought. -/
def AllStand (zs : List ZoneDefinition) : Prop :=
  ∀ z ∈ zs, ∀ d ∈ z.records, Stands z.zone d.fqdn zs

section

variable {zs ws : List ZoneDefinition}
  (same : zs.map ZoneDefinition.outline = ws.map ZoneDefinition.outline)

include same

theorem exists_of_outline {z : ZoneDefinition} (member : z ∈ zs) : ∃ w ∈ ws,
    w.zone = z.zone ∧ w.records.map (·.fqdn) = z.records.map (·.fqdn) ∧
      w.rejected = z.rejected := by
  obtain ⟨w, there, equal⟩ := List.mem_map.mp (same ▸ List.mem_map_of_mem member)
  obtain ⟨zone, rest⟩ := Prod.mk.inj equal
  exact ⟨w, there, zone, (Prod.mk.inj rest).1, (Prod.mk.inj rest).2⟩

theorem stands_of_outline {zone fqdn : String} (stands : Stands zone fqdn zs) :
    Stands zone fqdn ws := by
  obtain ⟨before, z, after, rfl, own, named, later⟩ := stands
  rw [List.map_append, List.map_cons] at same
  obtain ⟨front, rest, rfl, _, split⟩ := List.map_eq_append_iff.mp same.symm
  obtain ⟨w, back, rfl, equal, following⟩ := List.map_eq_cons_iff.mp split
  obtain ⟨zone, equal⟩ := Prod.mk.inj equal
  refine ⟨front, w, back, rfl, zone.trans own, (Prod.mk.inj equal).1 ▸ named, fun x member _ => ?_⟩
  obtain ⟨y, there, elsewhere, _, refused⟩ := exists_of_outline following member
  have rejected := later y there (by simp_all)
  rwa [ZoneDefinition.isRejected, refused] at rejected

theorem allStand_of_outline (stand : AllStand zs) : AllStand ws := by
  intro w there d member
  obtain ⟨z, inside, zone, names, _⟩ := exists_of_outline same.symm there
  have named : d.fqdn ∈ z.records.map (·.fqdn) := names ▸ List.mem_map_of_mem member
  obtain ⟨e, written, equal⟩ := List.mem_map.mp named
  rw [← zone, ← equal]
  exact stands_of_outline same (stand z inside e written)

end

namespace Balancer

/-- The balancer that reloads of definitions lead to, one after the other, from nothing. -/
def reloadAll (zs : List ZoneDefinition) : Balancer :=
  zs.foldl (fun b z => (b.reloadZone z).2) {}

theorem nextProbe_reloadZone (b : Balancer) (z : ZoneDefinition) :
    (b.reloadZone z).2.nextProbe = (z.numberProbes b.nextProbe).1 := by
  have spawned (zone fqdn : String) (b : Balancer) :
      (spawn zone fqdn .zero b).nextProbe = b.nextProbe := by
    unfold spawn
    cases b.tasks.find? fqdn <;> rfl
  exact frame_reloadZone nextProbe spawned (fun _ _ => rfl) (fun _ _ _ => rfl) (fun _ => rfl) b z

theorem stopped_reloadZone (b : Balancer) (z : ZoneDefinition) :
    (b.reloadZone z).2.stopped = b.stopped :=
  frame_reloadZone stopped (fun _ _ _ => stopped_spawn _) (fun _ _ => rfl) (fun _ _ _ => rfl)
    (fun _ => rfl) b z

/-- Reloads number the probes as the start does. -/
theorem zones_reloadAll (zs : List ZoneDefinition) :
    (reloadAll zs).zones = .reloadAll (threadNat ZoneDefinition.numberProbes 0 zs).2 ∧
      (reloadAll zs).nextProbe = (threadNat ZoneDefinition.numberProbes 0 zs).1 ∧
      (reloadAll zs).stopped = false := by
  induction zs using List.reverseRecOn with
  | nil => exact ⟨rfl, rfl, rfl⟩
  | append_singleton zs z ih =>
    obtain ⟨zones, nextProbe, going⟩ := ih
    have last : reloadAll (zs ++ [z]) = ((reloadAll zs).reloadZone z).2 := List.foldl_concat ..
    rw [last, threadNat_concat, zones_reloadZone, nextProbe_reloadZone, stopped_reloadZone, zones,
      nextProbe, going]
    exact ⟨Zones.reloadAll_concat.symm, rfl, rfl⟩

/-- The balancer that is built has what reloads lead to, and alike; it has nothing else just when
no later definition of a zone takes a record away, as is so where each zone is defined once. -/
theorem ofDefinitions_alike_iff {zs : List ZoneDefinition}
    (distinct : ∀ z ∈ zs, ∀ d ∈ z.records, (d.backends.map (·.address)).Nodup) :
    ((ofDefinitions zs).zones.Alike (reloadAll zs).zones ↔ AllStand zs) ∧
      ((zs.map (·.zone)).Nodup → AllStand zs) ∧
      (ofDefinitions zs).zoneNames = (reloadAll zs).zoneNames ∧
      ∀ zone fqdn s, (reloadAll zs).zones.record? zone fqdn = some s →
        ∃ r, (ofDefinitions zs).zones.record? zone fqdn = some r ∧ r.Alike s := by
  have same : (threadNat ZoneDefinition.numberProbes 0 zs).2.map ZoneDefinition.outline =
      zs.map ZoneDefinition.outline := map_threadNat ZoneDefinition.outline_numberProbes 0 zs
  have numbered : ∀ z ∈ (threadNat ZoneDefinition.numberProbes 0 zs).2, ∀ d ∈ z.records,
      (d.backends.map (·.address)).Nodup := by
    intro z member
    obtain ⟨w, there, _, records⟩ := ZoneDefinition.exists_of_mem_numbered member
    exact ZoneDefinition.addresses_of_unnumbered records (distinct w there)
  have zones := (zones_reloadAll zs).1
  refine ⟨?_, ?_, ?_, fun zone fqdn s found => ?_⟩
  · rw [zones]
    refine (Zones.alike_reloadAll_iff numbered).trans ⟨?_, ?_⟩
    · exact allStand_of_outline same
    · exact allStand_of_outline same.symm
  · intro once z there d member
    exact Zones.stands_of_nodup once there (List.mem_map_of_mem member)
  · rw [zoneNames, zoneNames, zones]
    exact (Zones.names_reloadAll _).symm
  · rw [zones] at found
    exact Zones.exists_alike_of_reloadAll numbered found

/-- Two definitions of one zone, with a record each; the second refuses what it is told to. -/
def twoParts (rejected : List RejectedRecord) : List ZoneDefinition := [
  { zone := "example.org."
    records := [{ fqdn := "a.example.org.", backends := [{ address := .v4 0x0a000001#32 }] }] },
  { zone := "example.org."
    records := [{ fqdn := "b.example.org.", backends := [{ address := .v4 0x0a000002#32 }] }]
    rejected }]

theorem ofDefinitions_alike_refused :
    let zs := twoParts [⟨"a.example.org.", .invalidMode "bogus"⟩]
    (∀ z ∈ zs, ∀ d ∈ z.records, (d.backends.map (·.address)).Nodup) ∧
      (ofDefinitions zs).zones.Alike (reloadAll zs).zones := by
  intro zs
  have distinct : ∀ z ∈ zs, ∀ d ∈ z.records, (d.backends.map (·.address)).Nodup := by decide
  have stand : AllStand zs := by
    intro z there d member
    rcases List.mem_pair.mp there with rfl | rfl
    · rw [List.mem_singleton.mp member]
      exact ⟨[], _, [_], rfl, rfl, by decide, by decide⟩
    · rw [List.mem_singleton.mp member]
      exact ⟨[_], _, [], rfl, rfl, by decide, by decide⟩
  exact ⟨distinct, (ofDefinitions_alike_iff distinct).1.mpr stand⟩

/-- The record of the first part is there at the start, and gone once the parts are reloaded. -/
theorem ofDefinitions_not_alike : ¬ ∀ zs : List ZoneDefinition,
    (∀ z ∈ zs, ∀ d ∈ z.records, (d.backends.map (·.address)).Nodup) →
      (ofDefinitions zs).zones.Alike (reloadAll zs).zones := by
  intro alike
  have same := (alike (twoParts []) (by decide)).isSome_record? "example.org." "a.example.org."
  have started : ((ofDefinitions (twoParts [])).zones.record? "example.org."
      "a.example.org.").isSome = true := by decide +kernel
  have reloaded : ((reloadAll (twoParts [])).zones.record? "example.org."
      "a.example.org.").isSome = false := by decide +kernel
  rw [started, reloaded] at same
  cases same

end Balancer

end DnsBalancer
