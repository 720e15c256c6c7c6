import DnsBalancer.Proofs.Selection.Policies
import DnsBalancer.Registry.Record

/-!
# What a record puts up for selection

Policies see candidates. Seen from the record these are its backends, and the eligible
ones are those of the family that are enabled and alive, in the order of configuration.
-/
namespace DnsBalancer

/-- A backend that a policy may choose for the family. -/
def Backend.Eligible (b : Backend) (family : Family) : Prop :=
  b.healthy = true ∧ b.address.family = family

namespace Record

/-- The backends that a policy may choose for the family. -/
def eligible (r : Record) (family : Family) : List Backend :=
  r.backends.filter fun b => b.healthy && b.address.family == family

/-- What the policy of the record is asked. -/
def request (r : Record) (family : Family) (client : Address) (geo : GeoSources)
    (locations : LocationTable) : Request :=
  { family, client, candidates := r.candidates, geo, locations }

variable (r : Record) (family : Family) (client : Address) (geo : GeoSources)
  (locations : LocationTable)

theorem mem_eligible_iff {b : Backend} :
    b ∈ r.eligible family ↔ b ∈ r.backends ∧ b.Eligible family := by
  rw [eligible, List.mem_filter, Bool.and_eq_true, beq_iff_eq, Backend.Eligible]

theorem eligible_eq_nil_iff :
    r.eligible family = [] ↔ ∀ b ∈ r.backends, ¬ b.Eligible family := by
  simp only [List.eq_nil_iff_forall_not_mem, mem_eligible_iff, not_and]

theorem nodup_eligible (distinct : (r.backends.map (·.address)).Nodup) :
    ((r.eligible family).map (·.address)).Nodup :=
  distinct.sublist (List.filter_sublist.map _)

theorem eligible_request : (r.request family client geo locations).eligible =
    (r.eligible family).map Backend.candidate := by
  rw [Request.eligible, request, candidates, List.filter_map]
  rfl

theorem exists_of_mem_request {c : Candidate}
    (member : c ∈ (r.request family client geo locations).eligible) :
    ∃ b ∈ r.backends, b.candidate = c := by
  rw [eligible_request] at member
  obtain ⟨b, kept, same⟩ := List.mem_map.mp member
  exact ⟨b, ((r.mem_eligible_iff family).mp kept).1, same⟩

theorem addresses_request : (r.request family client geo locations).eligible.map (·.address) =
    (r.eligible family).map (·.address) := by
  rw [eligible_request, List.map_map]
  rfl

theorem weight_request : ∀ c ∈ (r.request family client geo locations).eligible, 0 < c.weight := by
  intro c member
  obtain ⟨b, _, rfl⟩ := r.exists_of_mem_request family client geo locations member
  exact Nat.le_max_right b.definition.weight 1

theorem answered_select (chance : Chance) (distinct : (r.backends.map (·.address)).Nodup)
    (measured : ∀ b ∈ r.backends, b.health.responseTime < .longest) :
    (r.request family client geo locations).Answered
      (r.select family client geo locations chance).1 := by
  refine Selector.answered_select r.selector chance ?_
    (r.weight_request family client geo locations) fun c member => ?_
  · rw [addresses_request]
    exact r.nodup_eligible family distinct
  · obtain ⟨b, held, rfl⟩ := r.exists_of_mem_request family client geo locations member
    exact measured b held

theorem sound_select (chance : Chance) (distinct : (r.backends.map (·.address)).Nodup) :
    (r.request family client geo locations).Sound
      (r.select family client geo locations chance).1 := by
  refine Selector.sound_select r.selector chance ?_ (r.weight_request family client geo locations)
  rw [addresses_request]
  exact r.nodup_eligible family distinct

end Record

end DnsBalancer
