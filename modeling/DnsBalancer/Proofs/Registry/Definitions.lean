import DnsBalancer.Registry.Backend
import Mathlib.Data.List.Forall2

/-!
# When a held definition is the one written

A live backend holds its definition field by field. Checks count as equal when they are
equivalent, coordinates when they compare equal as numbers. A merge always ends in a
definition that agrees with the new one, and it changes nothing where they agreed before.
-/
namespace DnsBalancer

namespace Probe

/-- Equivalence looks at the checks and not at the serial numbers. -/
theorem allEquivalent_iff (ps qs : List Probe) :
    allEquivalent ps qs = true ↔ ps.map (·.check) = qs.map (·.check) := by
  induction ps generalizing qs with
  | nil => cases qs <;> simp [allEquivalent]
  | cons p ps ih =>
    cases qs with
    | nil => simp [allEquivalent]
    | cons q qs => simp [allEquivalent, equivalent, ih]

end Probe

/-- Every field of `held` is that of `written`. Coordinates are the very same, or compare
equal, which those that are no numbers never do. -/
structure BackendDefinition.Agrees (held written : BackendDefinition) : Prop where
  address : held.address = written.address
  description : held.description = written.description
  priority : held.priority = written.priority
  weight : held.weight = written.weight
  enabled : held.enabled = written.enabled
  tags : held.tags = written.tags
  timeout : held.timeout = written.timeout
  country : held.country = written.country
  city : held.city = written.city
  asn : held.asn = written.asn
  location : held.location = written.location
  coordinates : held.coordinates = written.coordinates ∨
    Backend.sameCoordinates held.coordinates written.coordinates = true
  probes : held.probes.map (·.check) = written.probes.map (·.check)

namespace BackendDefinition

theorem Agrees.refl (d : BackendDefinition) : d.Agrees d := by
  constructor <;> first | rfl | exact Or.inl rfl

/-- A definition that a merge finds in place already. -/
def InPlace (held written : BackendDefinition) : Prop :=
  held.Agrees written ∧ Backend.sameCoordinates held.coordinates written.coordinates = true

/-! ### Serial numbers are no part of what is written -/

/-- The definition with no serial numbers in it. -/
def unnumbered (x : BackendDefinition) : BackendDefinition :=
  { x with probes := x.probes.map fun p => { p with serial := 0 } }

@[simp] theorem address_unnumbered (x : BackendDefinition) : x.unnumbered.address = x.address :=
  rfl

@[simp] theorem checks_unnumbered (x : BackendDefinition) :
    x.unnumbered.probes.map (·.check) = x.probes.map (·.check) := by
  simp [unnumbered, Function.comp_def]

@[simp] theorem agrees_unnumbered {held x : BackendDefinition} :
    held.Agrees x.unnumbered ↔ held.Agrees x := by
  constructor
  · intro agrees
    exact { agrees with probes := agrees.probes.trans x.checks_unnumbered }
  · intro agrees
    exact { agrees with probes := agrees.probes.trans x.checks_unnumbered.symm }

@[simp] theorem unnumbered_agrees {held x : BackendDefinition} :
    held.unnumbered.Agrees x ↔ held.Agrees x := by
  constructor
  · intro agrees
    exact { agrees with probes := held.checks_unnumbered.symm.trans agrees.probes }
  · intro agrees
    exact { agrees with probes := held.checks_unnumbered.trans agrees.probes }

@[simp] theorem inPlace_unnumbered {held x : BackendDefinition} :
    held.InPlace x.unnumbered ↔ held.InPlace x := and_congr_left fun _ => agrees_unnumbered

@[simp] theorem unnumbered_inPlace {held x : BackendDefinition} :
    held.unnumbered.InPlace x ↔ held.InPlace x := and_congr_left fun _ => unnumbered_agrees

end BackendDefinition

/-- The definition with no serial numbers in its backends. -/
def RecordDefinition.unnumbered (d : RecordDefinition) : RecordDefinition :=
  { d with backends := d.backends.map BackendDefinition.unnumbered }

@[simp] theorem RecordDefinition.fqdn_unnumbered (d : RecordDefinition) :
    d.unnumbered.fqdn = d.fqdn := rfl

namespace Backend

/-- Whatever was held before, a merge leaves the new definition. -/
theorem agrees_mergeDefinition {current new : BackendDefinition}
    (address : current.address = new.address) : (mergeDefinition current new).Agrees new where
  address := address
  description := rfl
  priority := rfl
  weight := rfl
  enabled := rfl
  tags := rfl
  timeout := rfl
  country := rfl
  city := rfl
  asn := rfl
  location := rfl
  coordinates := by
    simp only [mergeDefinition]
    split
    · rename_i same
      exact Or.inr same
    · exact Or.inl rfl
  probes := by
    simp only [mergeDefinition]
    split
    · rename_i equivalent
      exact (Probe.allEquivalent_iff _ _).mp equivalent
    · rfl

/-- Nothing is reported only when every field agrees and the coordinates are numbers. -/
theorem definitionChanged_eq_false_iff {current new : BackendDefinition}
    (address : current.address = new.address) :
    definitionChanged current new = false ↔
      current.Agrees new ∧ sameCoordinates current.coordinates new.coordinates = true := by
  constructor
  · intro unchanged
    simp only [definitionChanged, Bool.or_eq_false_iff, bne_eq_false_iff_eq,
      Bool.not_eq_false', Probe.allEquivalent_iff] at unchanged
    obtain ⟨⟨⟨⟨⟨⟨⟨⟨⟨⟨⟨priority, weight⟩, enabled⟩, description⟩, tags⟩, timeout⟩, country⟩,
      city⟩, asn⟩, location⟩, coordinates⟩, probes⟩ := unchanged
    exact ⟨⟨address, description, priority, weight, enabled, tags, timeout, country, city, asn,
      location, Or.inr coordinates, probes⟩, coordinates⟩
  · rintro ⟨agrees, coordinates⟩
    have equivalent := (Probe.allEquivalent_iff current.probes new.probes).mpr agrees.probes
    simp [definitionChanged, agrees.priority, agrees.weight, agrees.enabled,
      agrees.description, agrees.tags, agrees.timeout, agrees.country, agrees.city, agrees.asn,
      agrees.location, coordinates, equivalent]

/-- A merge that reports nothing keeps even the representation of what is held. -/
theorem mergeDefinition_of_unchanged {current new : BackendDefinition}
    (address : current.address = new.address)
    (unchanged : definitionChanged current new = false) : mergeDefinition current new = current := by
  obtain ⟨agrees, coordinates⟩ := (definitionChanged_eq_false_iff address).mp unchanged
  have equivalent := (Probe.allEquivalent_iff current.probes new.probes).mpr agrees.probes
  simp [mergeDefinition, coordinates, equivalent, ← agrees.description, ← agrees.priority,
    ← agrees.weight, ← agrees.enabled, ← agrees.tags, ← agrees.timeout, ← agrees.country,
    ← agrees.city, ← agrees.asn, ← agrees.location]

end Backend

end DnsBalancer
