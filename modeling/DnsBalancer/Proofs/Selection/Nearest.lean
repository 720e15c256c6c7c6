import DnsBalancer.Proofs.Geo.Distance
import DnsBalancer.Selection.Geographic
import Mathlib.Data.List.Basic

/-!
# The nearest candidate

The distance is measured where the client's city has both numbers and some eligible candidate has
coordinates. The answer is then the first candidate of the lowest distance, in the total order of
doubles, and no other candidate counts. In all other cases failover answers. Nothing is said of
the distance itself.
-/
namespace DnsBalancer

/-- A city source is configured and knows both numbers of the client's place. -/
def Request.Located (r : Request) (place : Coordinates) : Prop :=
  ∃ source city, r.geo.city = some source ∧ source r.client = some city ∧
    city.latitude = some place.latitude ∧ city.longitude = some place.longitude

/-- The candidates whose distance is measured. -/
def Request.measurable (r : Request) : List Candidate :=
  r.candidates.filter fun c => c.eligibleFor r.family && c.coordinates.isSome

theorem Request.coordinates?_eq_some_iff {r : Request} {place : Coordinates} :
    (r.geo.cityOf r.client).bind City.coordinates? = some place ↔ r.Located place := by
  rw [Option.bind_eq_some_iff]
  simp only [GeoSources.cityOf, Option.bind_eq_some_iff]
  constructor
  · rintro ⟨city, ⟨source, configured, known⟩, placed⟩
    rw [City.coordinates?] at placed
    split at placed
    · rename_i latitude longitude first second
      obtain rfl := Option.some.inj placed
      exact ⟨source, city, configured, known, first, second⟩
    · cases placed
  · rintro ⟨source, city, configured, known, first, second⟩
    refine ⟨city, ⟨source, configured, known⟩, ?_⟩
    rw [City.coordinates?, first, second]

namespace Nearest

section

variable {α : Type} {rank : α → Int} {as before after : List α} {a : α}

theorem lowest?_eq_none_iff : lowest? rank as = none ↔ as = [] := by
  cases as with
  | nil => simp [lowest?]
  | cons a as =>
    rw [lowest?]
    split
    · simp
    · split <;> simp

/-- Before the one that is found all rank higher, and after it none ranks lower. -/
theorem first_of_lowest? (found : lowest? rank as = some a) :
    ∃ before after, as = before ++ a :: after ∧
      (∀ x ∈ before, rank a < rank x) ∧ ∀ x ∈ after, rank a ≤ rank x := by
  induction as generalizing a with
  | nil => cases found
  | cons b bs ih =>
    rw [lowest?] at found
    cases rest : lowest? rank bs with
    | none =>
      rw [rest] at found
      obtain rfl := Option.some.inj found
      exact ⟨[], bs, rfl, by simp, by simp [lowest?_eq_none_iff.mp rest]⟩
    | some c =>
      obtain ⟨before, after, rfl, higher, least⟩ := ih rest
      rw [rest] at found
      dsimp only at found
      split at found
      · rename_i below
        obtain rfl := Option.some.inj found
        refine ⟨[], _, rfl, by simp, fun x member => ?_⟩
        rcases List.mem_append.mp member with earlier | later
        · exact Int.le_trans below (Int.le_of_lt (higher x earlier))
        · rcases List.mem_cons.mp later with rfl | later
          · exact below
          · exact Int.le_trans below (least x later)
      · rename_i above
        obtain rfl := Option.some.inj found
        refine ⟨b :: before, after, rfl, List.forall_mem_cons.mpr ⟨?_, higher⟩, least⟩
        exact Int.not_le.mp above

theorem lowest?_of_first (higher : ∀ x ∈ before, rank a < rank x)
    (least : ∀ x ∈ after, rank a ≤ rank x) : lowest? rank (before ++ a :: after) = some a := by
  induction before with
  | nil =>
    rw [List.nil_append, lowest?]
    cases found : lowest? rank after with
    | none => rfl
    | some b =>
      obtain ⟨front, back, rfl, _⟩ := first_of_lowest? found
      exact if_pos (least b (by simp))
  | cons x before ih =>
    obtain ⟨first, rest⟩ := List.forall_mem_cons.mp higher
    rw [List.cons_append, lowest?, ih rest]
    exact if_neg (Int.not_le.mpr first)

end

/-- The first of the candidates with coordinates to which the distance is the lowest. -/
def Closest (distance : Coordinates → Coordinates → Double) (place : Coordinates)
    (cs : List Candidate) (c : Candidate) : Prop :=
  ∃ p before after, cs = before ++ c :: after ∧ c.coordinates = some p ∧
    (∀ x ∈ before, ∀ q, x.coordinates = some q →
      (distance place p).Before (distance place q)) ∧
    ∀ x ∈ after, ∀ q, x.coordinates = some q → ¬ (distance place q).Before (distance place p)

/-- A candidate's address with the distance to it. -/
def measure (distance : Coordinates → Coordinates → Double) (place : Coordinates) (c : Candidate) :
    Option (Double × Address) :=
  c.coordinates.map fun p => (distance place p, c.address)

variable {distance : Coordinates → Coordinates → Double} {r : Request} {place : Coordinates}
  {c : Candidate} {cs : List Candidate}

theorem Closest.mem (closest : Closest distance place cs c) : c ∈ cs := by
  obtain ⟨p, before, after, rfl, _⟩ := closest
  simp

theorem distances_eq : distances distance r place = r.eligible.filterMap (measure distance place) :=
  rfl

/-- Candidates without coordinates are not measured. -/
theorem distances_measurable :
    distances distance r place = r.measurable.filterMap (measure distance place) := by
  rw [distances_eq, Request.eligible, Request.measurable, List.filterMap_filter,
    List.filterMap_filter]
  refine congrArg (List.filterMap · r.candidates) (funext fun c => ?_)
  cases placed : c.coordinates <;> simp [measure, placed]

theorem measure_of_coordinates {p : Coordinates} (placed : c.coordinates = some p) :
    measure distance place c = some (distance place p, c.address) := by
  rw [measure, placed, Option.map_some]

theorem lowest?_of_closest (closest : Closest distance place cs c) :
    ∃ far, lowest? (fun d => d.1.key) (cs.filterMap (measure distance place)) =
      some (far, c.address) := by
  obtain ⟨p, before, after, rfl, placed, higher, least⟩ := closest
  refine ⟨distance place p, ?_⟩
  rw [List.filterMap_append, List.filterMap_cons_some (measure_of_coordinates placed)]
  refine lowest?_of_first (fun d member => ?_) fun d member => ?_
  · obtain ⟨x, earlier, measured⟩ := List.mem_filterMap.mp member
    obtain ⟨q, known, rfl⟩ := Option.map_eq_some_iff.mp measured
    exact Double.key_lt_iff.mpr (higher x earlier q known)
  · obtain ⟨x, later, measured⟩ := List.mem_filterMap.mp member
    obtain ⟨q, known, rfl⟩ := Option.map_eq_some_iff.mp measured
    exact Int.not_lt.mp fun less => least x later q known (Double.key_lt_iff.mp less)

theorem exists_closest_of_lowest? {far : Double} {a : Address}
    (found : lowest? (fun d => d.1.key) (cs.filterMap (measure distance place)) =
      some (far, a)) : ∃ c, Closest distance place cs c ∧ c.address = a := by
  obtain ⟨before, after, split, higher, least⟩ := first_of_lowest? found
  -- The split of the distances comes from one of the candidates, where some are not measured.
  obtain ⟨front, rest, rfl, rfl, kept⟩ := List.filterMap_eq_append_iff.mp split
  obtain ⟨out, c, back, rfl, unmeasured, measured, rfl⟩ := List.filterMap_eq_cons_iff.mp kept
  obtain ⟨p, placed, pair⟩ := Option.map_eq_some_iff.mp measured
  obtain ⟨rfl, rfl⟩ := Prod.mk.inj pair
  refine ⟨c, ⟨p, front ++ out, back, by simp, placed, fun x member q known => ?_,
    fun x member q known => ?_⟩, rfl⟩
  · have reached : measure distance place x = _ := measure_of_coordinates known
    rcases List.mem_append.mp member with earlier | between
    · exact Double.key_lt_iff.mp
        (higher (distance place q, x.address) (List.mem_filterMap.mpr ⟨x, earlier, reached⟩))
    · rw [unmeasured x between] at reached
      cases reached
  · have reached : measure distance place x = _ := measure_of_coordinates known
    have placed := least (distance place q, x.address) (List.mem_filterMap.mpr ⟨x, member, reached⟩)
    exact fun less => Int.not_lt.mpr placed (Double.key_lt_iff.mpr less)

/-- The measured walk answers with the address of the closest candidate. -/
theorem closestTo_eq_ok_iff {a : Address} : closestTo distance r place = .ok a ↔
    ∃ c, Closest distance place r.eligible c ∧ c.address = a := by
  rw [closestTo, distances_eq]
  constructor
  · intro found
    split at found
    · rename_i far b lowest
      obtain rfl := Except.ok.inj found
      exact exists_closest_of_lowest? lowest
    · cases found
  · rintro ⟨c, closest, rfl⟩
    obtain ⟨far, found⟩ := lowest?_of_closest closest
    rw [found]

theorem closestTo_eq_error_iff : (∃ e, closestTo distance r place = .error e) ↔
    ∀ c ∈ r.eligible, c.coordinates = none := by
  have nothing : lowest? (fun d => d.1.key) (distances distance r place) = none ↔
      ∀ c ∈ r.eligible, c.coordinates = none := by
    rw [lowest?_eq_none_iff, distances_eq, List.filterMap_eq_nil_iff]
    simp only [measure, Option.map_eq_none_iff]
  rw [closestTo, ← nothing]
  cases lowest? (fun d => d.1.key) (distances distance r place) <;> simp

theorem select_of_located (located : r.Located place) : select distance r =
    match closestTo distance r place with
    | .ok a => .ok [a]
    | .error _ => Failover.select r := by
  have known := Request.coordinates?_eq_some_iff.mpr located
  cases closest : closestTo distance r place <;> simp only [select, known, closest]

theorem closestTo_congr {q : Request} (same : q.measurable = r.measurable) {a : Address} :
    closestTo distance q place = .ok a ↔ closestTo distance r place = .ok a := by
  rw [closestTo, closestTo, distances_measurable, distances_measurable, same]
  cases lowest? (fun d => d.1.key) (r.measurable.filterMap (measure distance place)) with
  | none => simp
  | some d => simp

/-- Where the client's place is known and some eligible candidate has coordinates, the answer is
the closest one's address, and it stays the same whatever becomes of the candidates that have no
coordinates or are not eligible. In every other case it is what failover answers. -/
theorem select_nearest (distance : Coordinates → Coordinates → Double) (r : Request) :
    (∀ place, r.Located place → (∃ c ∈ r.eligible, c.coordinates.isSome = true) →
      (∃ c, Closest distance place r.eligible c ∧ select distance r = .ok [c.address]) ∧
      ∀ q : Request, q.Located place → q.measurable = r.measurable →
        select distance q = select distance r) ∧
    ((∀ place, ¬ r.Located place) ∨ (∀ c ∈ r.eligible, c.coordinates = none) →
      select distance r = Failover.select r) := by
  refine ⟨fun place located reached => ?_, fun unmeasured => ?_⟩
  · cases found : closestTo distance r place with
    | error e =>
      obtain ⟨c, member, placed⟩ := reached
      rw [closestTo_eq_error_iff.mp ⟨e, found⟩ c member] at placed
      cases placed
    | ok a =>
      have chosen : select distance r = .ok [a] := by rw [select_of_located located, found]
      obtain ⟨c, closest, rfl⟩ := closestTo_eq_ok_iff.mp found
      refine ⟨⟨c, closest, chosen⟩, fun q known same => ?_⟩
      rw [select_of_located known, (closestTo_congr same).mpr found, chosen]
  · cases known : (r.geo.cityOf r.client).bind City.coordinates? with
    | none => rw [select, known]
    | some place =>
      have located := Request.coordinates?_eq_some_iff.mp known
      have none : ∀ c ∈ r.eligible, c.coordinates = none :=
        unmeasured.resolve_left fun nowhere => nowhere place located
      obtain ⟨e, refused⟩ := closestTo_eq_error_iff.mpr none
      rw [select_of_located located, refused]

/-- The closest is dead, two are equally far, and the first of all has no coordinates. The client
is known to be at `48.5`, `2.25`. -/
def scattered : Request where
  family := .ipv4
  client := .v4 0xc6336407#32
  geo := { city := some fun _ => some ⟨none, some 48.5, some 2.25⟩ }
  candidates := [
    { address := .v4 0x0a000001#32 },
    { address := .v4 0x0a000002#32, coordinates := some ⟨48.5, 2.25⟩, alive := false },
    { address := .v4 0x0a000003#32, coordinates := some ⟨52.5, 13.5⟩ },
    { address := .v4 0x0a000004#32, coordinates := some ⟨44.5, 13.5⟩ }]

/-- Measured by latitude alone, the first of the two that are equally far is chosen. -/
theorem select_nearest_scattered :
    let distance a b := Double.ofFloat (Distance.square (b.latitude - a.latitude)) false
    (scattered.Located ⟨48.5, 2.25⟩ ∧ ∃ c ∈ scattered.eligible, c.coordinates.isSome = true) ∧
      (∃ c, Closest distance ⟨48.5, 2.25⟩ scattered.eligible c ∧
        select distance scattered = .ok [c.address]) ∧
      select distance scattered = .ok [.v4 0x0a000003#32] := by
  intro distance
  have located : scattered.Located ⟨48.5, 2.25⟩ := ⟨_, _, rfl, rfl, rfl, rfl⟩
  have reached : ∃ c ∈ scattered.eligible, c.coordinates.isSome = true := by decide +kernel
  have chosen := (select_nearest distance scattered).1 _ located reached
  exact ⟨⟨located, reached⟩, chosen.1, by decide +kernel⟩

end Nearest

end DnsBalancer
