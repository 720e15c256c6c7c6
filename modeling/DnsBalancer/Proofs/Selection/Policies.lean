import DnsBalancer.Proofs.Selection.Fastest
import DnsBalancer.Proofs.Selection.Nearest
import DnsBalancer.Proofs.Selection.Tiers
import DnsBalancer.Proofs.Selection.Wheel
import DnsBalancer.Selection.Selector
import Mathlib.Data.List.Nodup
import Mathlib.Data.List.Perm.Basic

/-!
# What every policy owes to a request

A policy fails only when nothing is eligible. Otherwise it names eligible addresses, at
least one and none twice. Policies that fall back owe it to failover.
-/
namespace DnsBalancer

/-- An answer to a request as each of the policies has to give it. -/
structure Request.Answered (r : Request) (answer : Except SelectionError (List Address)) :
    Prop where
  chosen : r.eligible ≠ [] → ∃ addresses, answer = .ok addresses ∧ addresses ≠ [] ∧
    addresses.Nodup ∧ ∀ a ∈ addresses, ∃ c ∈ r.eligible, c.address = a
  refused : r.eligible = [] → ∃ e, answer = .error e

/-- An answer has addresses of eligible candidates only, and each of them once. -/
def Request.Sound (r : Request) (answer : Except SelectionError (List Address)) : Prop :=
  ∀ addresses, answer = .ok addresses → addresses.Nodup ∧ addresses ⊆ r.eligible.map (·.address)

namespace Request

variable {r : Request}

theorem Answered.sound {answer : Except SelectionError (List Address)}
    (answered : r.Answered answer) : r.Sound answer := by
  rintro addresses rfl
  by_cases empty : r.eligible = []
  · obtain ⟨_, refused⟩ := answered.refused empty
    cases refused
  · obtain ⟨_, given, _, once, eligible⟩ := answered.chosen empty
    obtain rfl := Except.ok.inj given
    exact ⟨once, fun a member => List.mem_map.mpr (eligible a member)⟩

theorem answered_single {c : Candidate} (member : c ∈ r.eligible) :
    r.Answered (.ok [c.address]) where
  chosen _ := ⟨[c.address], rfl, by simp, by simp, by simpa using ⟨c, member, rfl⟩⟩
  refused empty := by simp [empty] at member

theorem answered_error (empty : r.eligible = []) (e : SelectionError) :
    r.Answered (.error e) where
  chosen nonempty := absurd empty nonempty
  refused _ := ⟨e, rfl⟩

end Request

/-! ### Failover, rotation and shuffling -/

theorem Failover.answered_select {r : Request} (distinct : (r.eligible.map (·.address)).Nodup) :
    r.Answered (select r) := by
  unfold select
  split
  · rename_i nothing
    refine Request.answered_error ?_ _
    simpa [lowest?] using nothing
  · rename_i p lowest
    obtain ⟨c, member, priority⟩ := List.mem_map.mp (List.min?_mem lowest)
    have found : c ∈ r.eligible.filter (·.priority == p) :=
      List.mem_filter.mpr ⟨member, by simp [priority]⟩
    refine ⟨fun _ => ⟨_, rfl, ?_, ?_, ?_⟩, fun empty => ?_⟩
    · exact List.ne_nil_of_mem (List.mem_map_of_mem found)
    · exact distinct.sublist (List.filter_sublist.map _)
    · intro a chosen
      obtain ⟨x, kept, address⟩ := List.mem_map.mp chosen
      exact ⟨x, List.mem_of_mem_filter kept, address⟩
    · simp [empty] at member

theorem RoundRobin.answered_select (cursor : Nat) (r : Request) :
    r.Answered (select cursor r).1 := by
  simp only [select]
  split
  · rename_i c found
    exact Request.answered_single (List.mem_of_getElem? found)
  · rename_i nothing
    refine Request.answered_error ?_ _
    by_contra nonempty
    have inside := Nat.mod_lt cursor (List.length_pos_iff.mpr nonempty)
    have outside := List.getElem?_eq_none_iff.mp nothing
    omega

theorem Random.answered_select {shuffle : List Address → List Address} {r : Request}
    (perm : ∀ addresses, (shuffle addresses).Perm addresses)
    (distinct : (r.eligible.map (·.address)).Nodup) : r.Answered (select shuffle r) := by
  have same := perm (r.eligible.map (·.address))
  unfold select
  split
  · rename_i empty
    exact Request.answered_error (List.isEmpty_iff.mp empty) _
  · rename_i nonempty
    refine ⟨fun _ => ⟨_, rfl, ?_, ?_, ?_⟩, fun empty => ?_⟩
    · intro nothing
      rw [nothing] at same
      simp [List.map_eq_nil_iff.mp same.nil_eq.symm] at nonempty
    · exact same.nodup_iff.mpr distinct
    · intro a chosen
      exact List.mem_map.mp (same.mem_iff.mp chosen)
    · simp [empty] at nonempty

/-! ### The wheel -/

theorem Weighted.answered_select {draw : Nat → Nat} {r : Request}
    (bound : ∀ {width : Nat}, 0 < width → draw width < width)
    (weights : ∀ c ∈ r.eligible, 0 < c.weight) : r.Answered (select draw r) := by
  by_cases empty : r.eligible = []
  · have none : select draw r = .error (.noHealthyBackend .weighted r.family) := by
      simp [select, empty]
    exact none ▸ Request.answered_error empty _
  · obtain ⟨c, member, _, answer⟩ := select_of_draw weights (bound (total_pos weights empty))
    exact answer ▸ Request.answered_single member

/-! ### The fastest -/

theorem Fastest.answered_select {r : Request} (distinct : (r.eligible.map (·.address)).Nodup)
    (measured : ∀ c ∈ r.eligible, c.responseTime < .longest) : r.Answered (select r) := by
  rcases (Search.Follows.run r.eligible).best with ⟨c, leads, _, best, _⟩ | ⟨slow, best, _⟩
  · rw [select_of_leads leads best]
    exact Request.answered_single leads.mem
  · have untimed : ∀ c ∈ r.eligible, c.measured = false := fun c member =>
      Bool.eq_false_iff.mpr fun timed => slow c member timed (measured c member)
    rw [select_of_slow best]
    cases found : r.eligible.find? (!·.measured) with
    | none =>
      refine Request.answered_error (List.eq_nil_iff_forall_not_mem.mpr fun c member => ?_) _
      simpa [untimed c member] using List.find?_eq_none.mp found c member
    | some c =>
      dsimp only
      split
      · exact Failover.answered_select distinct
      · exact Request.answered_single (List.mem_of_find?_eq_some found)

/-- The policy may fail where something is eligible, but it names nothing else. -/
theorem Fastest.sound_select {r : Request} (distinct : (r.eligible.map (·.address)).Nodup) :
    r.Sound (select r) := by
  rcases (Search.Follows.run r.eligible).best with ⟨c, leads, _, best, _⟩ | ⟨_, best, _⟩
  · rw [select_of_leads leads best]
    exact (Request.answered_single leads.mem).sound
  · rw [select_of_slow best]
    cases found : r.eligible.find? (!·.measured) with
    | none => exact fun _ given => nomatch given
    | some c =>
      dsimp only
      split
      · exact (Failover.answered_select distinct).sound
      · exact (Request.answered_single (List.mem_of_find?_eq_some found)).sound

/-! ### The client's place -/

theorem GeoIp.answered_select {r : Request} (distinct : (r.eligible.map (·.address)).Nodup) :
    r.Answered (select r) := by
  unfold select
  split
  · rename_i a found
    obtain ⟨t, c, leads, rfl⟩ := Tier.match?_eq_some_iff_leads.mp found
    exact Request.answered_single leads.mem
  · exact Failover.answered_select distinct

theorem Nearest.answered_select {distance : Coordinates → Coordinates → Double} {r : Request}
    (distinct : (r.eligible.map (·.address)).Nodup) : r.Answered (select distance r) := by
  unfold select
  split
  · exact Failover.answered_select distinct
  · rename_i place _
    split
    · rename_i a found
      obtain ⟨c, closest, rfl⟩ := closestTo_eq_ok_iff.mp found
      exact Request.answered_single closest.mem
    · exact Failover.answered_select distinct

/-- Whatever the mode, the cursor and the chance, a selector answers as it has to. -/
theorem Selector.answered_select (s : Selector) (chance : Chance) {r : Request}
    (distinct : (r.eligible.map (·.address)).Nodup) (weights : ∀ c ∈ r.eligible, 0 < c.weight)
    (measured : ∀ c ∈ r.eligible, c.responseTime < .longest) :
    r.Answered (s.select chance r).1 := by
  unfold select
  cases s.mode with
  | failover => exact Failover.answered_select distinct
  | roundRobin => exact RoundRobin.answered_select s.cursor r
  | random => exact Random.answered_select chance.shuffle_perm distinct
  | weighted => exact Weighted.answered_select chance.draw_lt weights
  | geoip => exact GeoIp.answered_select distinct
  | nearest => exact Nearest.answered_select distinct
  | fastest => exact Fastest.answered_select distinct measured

/-- Whatever was measured, a selector names eligible addresses only, and none twice. -/
theorem Selector.sound_select (s : Selector) (chance : Chance) {r : Request}
    (distinct : (r.eligible.map (·.address)).Nodup) (weights : ∀ c ∈ r.eligible, 0 < c.weight) :
    r.Sound (s.select chance r).1 := by
  unfold select
  cases s.mode with
  | failover => exact (Failover.answered_select distinct).sound
  | roundRobin => exact (RoundRobin.answered_select s.cursor r).sound
  | random => exact (Random.answered_select chance.shuffle_perm distinct).sound
  | weighted => exact (Weighted.answered_select chance.draw_lt weights).sound
  | geoip => exact (GeoIp.answered_select distinct).sound
  | nearest => exact (Nearest.answered_select distinct).sound
  | fastest => exact Fastest.sound_select distinct

end DnsBalancer
