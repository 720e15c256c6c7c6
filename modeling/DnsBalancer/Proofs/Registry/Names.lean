import DnsBalancer.Proofs.Metrics.Labels
import DnsBalancer.Proofs.Registry.Persistence

/-!
# Names of records and backends

A record and its backends go by one name. Where the names of definitions are in normal form, so
are those of all records, whatever is merged into them. The labels of a row are backed by a
backend of that name and address, and a backend that is put back backs what it did before.
-/
namespace DnsBalancer

open DomainName (Normal)

/-- The labels are those of a live backend, which is alive or not as told. -/
def Zones.Backs (m : Zones) (labels : List String) (alive : Bool) : Prop :=
  ∃ zone fqdn r x, m.record? zone fqdn = some r ∧ r.backend? x.address = some x ∧
    labels = [fqdn, x.address.render] ∧ x.health.alive = alive

/-- The record and its backends go by one name, which is in normal form. -/
structure Record.Named (fqdn : String) (r : Record) : Prop where
  normal : Normal fqdn
  own : r.fqdn = fqdn
  backends : ∀ x ∈ r.backends, x.record = fqdn

def Zones.Named (m : Zones) : Prop :=
  ∀ zone fqdn r, m.record? zone fqdn = some r → r.Named fqdn

/-- Records go by names in normal form, and the backends of each by addresses that differ, by which
a cycle comes back to the backend it began on. -/
structure ZoneDefinition.Named (z : ZoneDefinition) : Prop where
  normal : ∀ d ∈ z.records, Normal d.fqdn
  distinct : ∀ d ∈ z.records, (d.backends.map (·.address)).Nodup

instance (z : ZoneDefinition) : Decidable z.Named :=
  decidable_of_iff ((∀ d ∈ z.records, DomainName.normalize d.fqdn = d.fqdn) ∧
    ∀ d ∈ z.records, (d.backends.map (·.address)).Nodup)
    ⟨fun both => ⟨both.1, both.2⟩, fun named => ⟨named.normal, named.distinct⟩⟩

namespace Record

theorem named_updateFrom {fqdn : String} {r : Record} (named : r.Named fqdn)
    (d : RecordDefinition) : (r.updateFrom d).2.Named fqdn where
  normal := named.normal
  own := named.own
  backends := by
    intro x member
    rw [backends_updateFrom] at member
    obtain ⟨written, _, rfl⟩ := List.mem_map.mp member
    cases found : r.backend? written.address with
    | none =>
      rw [mergeBackend_new found]
      exact named.own
    | some b =>
      rw [mergeBackend_live found]
      exact named.backends b (mem_of_backend? found).1

theorem named_ofDefinition (zone : String) {d : RecordDefinition} (normal : Normal d.fqdn)
    (cancelled : Bool) : (ofDefinition zone d cancelled).Named d.fqdn where
  normal
  own := rfl
  backends := by
    intro x member
    obtain ⟨written, _, rfl⟩ := List.mem_map.mp member
    rfl

end Record

theorem ZoneDefinition.normal_of_names {z₁ z₂ : ZoneDefinition} (named : z₂.Named)
    (same : z₁.records.map (·.fqdn) = z₂.records.map (·.fqdn)) :
    ∀ d ∈ z₁.records, Normal d.fqdn := by
  intro d member
  have written : d.fqdn ∈ z₂.records.map (·.fqdn) := same ▸ List.mem_map_of_mem member
  obtain ⟨e, there, equal⟩ := List.mem_map.mp written
  exact equal ▸ named.normal e there

namespace Zones

variable {m : Zones} {zone fqdn : String} {r new : Record} {labels : List String} {alive : Bool}

/-- A record that is put back keeps backing what its backends keep. -/
theorem backs_put (placed : m.Placed) (found : m.record? zone fqdn = some r)
    (standing : new.standing = r.standing)
    (keeps : ∀ x, r.backend? x.address = some x → labels = [fqdn, x.address.render] →
      ∃ y, new.backend? x.address = some y ∧ y.health.alive = x.health.alive)
    (backs : m.Backs labels alive) : (m.put new).Backs labels alive := by
  obtain ⟨otherZone, other, old, x, present, held, rfl, told⟩ := backs
  have after := record?_put_standing placed found standing
  by_cases own : zone = otherZone ∧ fqdn = other
  · obtain ⟨rfl, rfl⟩ := own
    obtain rfl := Option.some.inj (found.symm.trans present)
    obtain ⟨y, kept, same⟩ := keeps x held rfl
    have address := (Record.mem_of_backend? kept).2
    exact ⟨zone, fqdn, new, y, (after zone fqdn).trans (if_pos ⟨rfl, rfl⟩), address ▸ kept,
      by rw [address], same.trans told⟩
  · exact ⟨otherZone, other, old, x, (after otherZone other).trans ((if_neg own).trans present),
      held, rfl, told⟩

/-- A backend that is put back with another finding backs other labels as before. -/
theorem backs_setBackend {x y : Backend} (placed : m.Placed)
    (found : m.record? zone fqdn = some r) (held : r.backend? y.address = some x)
    (same : labels = [fqdn, y.address.render] → y.health.alive = x.health.alive)
    (backs : m.Backs labels alive) : (m.put (r.setBackend y)).Backs labels alive := by
  refine backs_put placed found rfl (fun w kept own => ?_) backs
  rw [Record.backend?_setBackend held]
  split
  · rename_i equal
    rw [← equal] at own kept
    obtain rfl := Option.some.inj (held.symm.trans kept)
    exact ⟨y, rfl, same own⟩
  · exact ⟨w, kept, rfl⟩

theorem backs_setBackend_self {x y : Backend} (placed : m.Placed)
    (found : m.record? zone fqdn = some r) (held : r.backend? y.address = some x) :
    (m.put (r.setBackend y)).Backs [fqdn, y.address.render] y.health.alive := by
  refine ⟨zone, fqdn, r.setBackend y, y, ?_, ?_, rfl, rfl⟩
  · have standing : (r.setBackend y).standing = r.standing := rfl
    rw [record?_put_standing placed found standing, if_pos ⟨rfl, rfl⟩]
  · rw [Record.backend?_setBackend held, if_pos rfl]

theorem named_put (named : m.Named) (placed : m.Placed) (found : m.record? zone fqdn = some r)
    (standing : new.standing = r.standing) (records : ∀ x ∈ new.backends, x.record = fqdn) :
    (m.put new).Named := by
  intro otherZone other x present
  rw [record?_put_standing placed found standing] at present
  split at present
  · rename_i own
    obtain rfl := Option.some.inj present
    have before := named zone fqdn r found
    exact own.2 ▸ ⟨before.normal, (congrArg (·.2.1) standing).trans before.own, records⟩
  · exact named otherZone other x present

end Zones

end DnsBalancer
