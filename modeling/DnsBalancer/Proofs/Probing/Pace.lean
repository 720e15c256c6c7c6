import DnsBalancer.Probing.Pace
import DnsBalancer.Proofs.Duration
import Mathlib.Data.List.Chain
import Mathlib.Order.Basic

/-!
# Queries and the pace of probing

The pause after a round is the record's interval, or a multiple of it when the last query, or
for want of any the start, is further back than the timeout. Among queries a later one only ever
shortens the pause. Against the start it need not: a record that was asked for once, long before
its probing began, is worse off than one that nobody asked for.
-/
namespace DnsBalancer

theorem Duration.le_saturatingMul {base : Duration} {n : Nat} (bounded : base ≤ .longest)
    (some : 1 ≤ n) : base ≤ base.saturatingMul n :=
  Nat.le_min.mpr ⟨Nat.le_mul_of_pos_right _ some, bounded⟩

namespace IdlePolicy

variable {p : IdlePolicy} {base : Duration} {last last' : Option Instant} {started now : Instant}

/-- A reference that lies less far back never makes the pause longer; one that lies further back
does just when it alone is beyond the timeout and the multiple is more than the base. -/
theorem interval_le_iff (bounded : base ≤ .longest) (some : 1 ≤ p.multiplier) :
    p.interval base last' started now ≤ p.interval base last started now ↔
      ¬ (p.timeout < now.since (last'.getD started) ∧ now.since (last.getD started) ≤ p.timeout ∧
        base < base.saturatingMul p.multiplier) := by
  have longer := Duration.le_saturatingMul bounded some
  unfold interval
  simp only [Duration.le_iff, Duration.lt_iff] at longer ⊢
  split <;> split <;> omega

end IdlePolicy

namespace QueryTracker

/-- What is known once the queries were noted, one after the other. -/
def noting (queries : List (String × Instant)) : QueryTracker :=
  queries.foldl (fun t q => t.touch q.1 q.2) {}

theorem last?_noting_concat (queries : List (String × Instant)) (q : String × Instant)
    (name : String) : (noting (queries ++ [q])).last? name =
      if q.1 = name then some q.2 else (noting queries).last? name := by
  rw [noting, List.foldl_concat]
  exact NameMap.find?_insert _ _ _ _

variable {few many queries : List (String × Instant)} {name : String} {last last' asked : Instant}

theorem mem_of_last?_noting (known : (noting queries).last? name = some last) :
    (name, last) ∈ queries := by
  induction queries using List.reverseRecOn with
  | nil => cases known
  | append_singleton queries q ih =>
    rw [last?_noting_concat] at known
    split at known
    · rename_i own
      obtain rfl := Option.some.inj known
      exact own ▸ List.mem_append_right _ List.mem_cons_self
    · exact List.mem_append_left _ (ih known)

/-- What is known of a name is its latest query. -/
theorem exists_last?_noting (ordered : queries.Pairwise (·.2 ≤ ·.2))
    (member : (name, asked) ∈ queries) :
    ∃ last, (noting queries).last? name = some last ∧ asked ≤ last := by
  induction queries using List.reverseRecOn with
  | nil => cases member
  | append_singleton queries q ih =>
    obtain ⟨before, _, upTo⟩ := List.pairwise_append.mp ordered
    rw [last?_noting_concat]
    rcases List.mem_append.mp member with earlier | final
    · split
      · exact ⟨q.2, rfl, upTo _ earlier q List.mem_cons_self⟩
      · exact ih before earlier
    · obtain rfl := List.mem_singleton.mp final
      exact ⟨asked, if_pos rfl, Nat.le_refl _⟩

theorem exists_last?_of_subset (added : few ⊆ many) (ordered : many.Pairwise (·.2 ≤ ·.2))
    (known : (noting few).last? name = some last) :
    ∃ last', (noting many).last? name = some last' ∧ last ≤ last' :=
  exists_last?_noting ordered (added (mem_of_last?_noting known))

end QueryTracker

namespace IdlePolicy

/-- Nothing was known of the name, and what is known now is from longer ago than the policy's
timeout, which the start is not. -/
structure Overlooked (p : IdlePolicy) (few many : QueryTracker) (name : String)
    (started now : Instant) : Prop where
  unasked : few.last? name = none
  stale : ∃ last, many.last? name = some last ∧ p.timeout < now.since last
  fresh : now.since started ≤ p.timeout

theorem interval_noting_le_iff {p : IdlePolicy} {base : Duration} {started now : Instant}
    {few many : List (String × Instant)} {name : String} (bounded : base ≤ .longest)
    (some : 1 ≤ p.multiplier) (added : few ⊆ many) (ordered : many.Pairwise (·.2 ≤ ·.2)) :
    p.interval base ((QueryTracker.noting many).last? name) started now ≤
        p.interval base ((QueryTracker.noting few).last? name) started now ↔
      ¬ (p.Overlooked (.noting few) (.noting many) name started now ∧
        base < base.saturatingMul p.multiplier) := by
  rw [interval_le_iff bounded some, not_iff_not]
  cases known : (QueryTracker.noting few).last? name with
  | some last =>
    obtain ⟨last', known', later⟩ := QueryTracker.exists_last?_of_subset added ordered known
    rw [known', Option.getD_some, Option.getD_some]
    constructor
    · rintro ⟨stale, fresh, _⟩
      rw [Duration.lt_iff, Duration.nanos_since] at stale
      rw [Duration.le_iff, Duration.nanos_since] at fresh
      rw [Duration.le_iff] at later
      omega
    · rintro ⟨overlooked, _⟩
      rw [overlooked.unasked] at known
      cases known
  | none =>
    rw [Option.getD_none]
    cases known' : (QueryTracker.noting many).last? name with
    | none =>
      rw [Option.getD_none]
      constructor
      · rintro ⟨stale, fresh, _⟩
        exact absurd stale (Nat.not_lt.mpr fresh)
      · rintro ⟨overlooked, _⟩
        obtain ⟨last, other, _⟩ := overlooked.stale
        rw [known'] at other
        cases other
    | some last =>
      rw [Option.getD_some]
      constructor
      · rintro ⟨stale, fresh, longer⟩
        exact ⟨⟨known, ⟨last, known', stale⟩, fresh⟩, longer⟩
      · rintro ⟨overlooked, longer⟩
        obtain ⟨other, same, stale⟩ := overlooked.stale
        rw [known'] at same
        exact ⟨Option.some.inj same ▸ stale, overlooked.fresh, longer⟩

/-- Queries are overlooked only while the latest is from before the start. -/
theorem Overlooked.before {p : IdlePolicy} {few many : QueryTracker} {name : String}
    {started now : Instant} (overlooked : p.Overlooked few many name started now) :
    ∃ last, many.last? name = some last ∧ last < started := by
  obtain ⟨last, known, stale⟩ := overlooked.stale
  have fresh := overlooked.fresh
  rw [Duration.lt_iff, Duration.nanos_since] at stale
  rw [Duration.le_iff, Duration.nanos_since] at fresh
  exact ⟨last, known, Duration.lt_iff.mpr (by omega)⟩

end IdlePolicy
end DnsBalancer
