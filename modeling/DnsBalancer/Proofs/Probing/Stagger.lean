import DnsBalancer.Probing.Pace
import DnsBalancer.Proofs.Duration
import Mathlib.Algebra.Order.Floor.Div
import Mathlib.Data.Nat.Basic

/-!
# Staggered starts

Records are started in batches, and batch `b` of `n` waits for `b / n` of the window, rounded
down. All that is expected of the delays follows from what rounding down does to such shares:
they grow with the batch, stay below the window, and from one batch to the next gain the
rounded share of one batch or a unit more.
-/
namespace DnsBalancer

/-- The gap between two successive batches of `size` records each. -/
def BatchGap (size : Nat) (delays : List Duration) (gap : Nat) : Prop :=
  ∃ i j d e, delays[i]? = some d ∧ delays[j]? = some e ∧ j / size = i / size + 1 ∧
    e.nanos = d.nanos + gap

/-- The delays release `count` records in batches of `size` spread evenly over the window. -/
structure Staggered (count size : Nat) (window : Duration) (delays : List Duration) : Prop where
  length : delays.length = count
  together : ∀ i j d e, delays[i]? = some d → delays[j]? = some e → i / size = j / size → d = e
  ordered : delays.Pairwise (· ≤ ·)
  first : ∀ i d, delays[i]? = some d → i / size = 0 → d = .zero
  within : .zero < window → ∀ d ∈ delays, d < window
  share : window.nanos < 2 ^ 64 → ∀ i d, delays[i]? = some d →
    d.nanos = window.nanos * (i / size) / (count ⌈/⌉ size)
  even : window.nanos < 2 ^ 64 → ∀ gap gap', BatchGap size delays gap →
    BatchGap size delays gap' →
      gap ≤ gap' + 1 ∧ (count ⌈/⌉ size ≤ window.nanos → 0 < gap)

/-! ### Shares of a window -/

section

variable {window batches b c : Nat}

theorem share_mono (earlier : b ≤ c) : window * b / batches ≤ window * c / batches :=
  Nat.div_le_div_right (Nat.mul_le_mul_left window earlier)

theorem share_lt (positive : 0 < window) (within : b < batches) :
    window * b / batches < window := by
  apply Nat.div_lt_of_lt_mul
  rw [Nat.mul_comm batches]
  exact Nat.mul_lt_mul_of_pos_left within positive

/-- From one batch to the next it is the whole share of a batch, or a unit more. -/
theorem share_succ (some : 0 < batches) :
    window * (b + 1) / batches = window * b / batches + window / batches ∨
      window * (b + 1) / batches = window * b / batches + window / batches + 1 := by
  rw [Nat.mul_succ, Nat.add_div some]
  split
  · exact Or.inr rfl
  · exact Or.inl rfl

end

section

variable {count batchSize i j : Nat} {window d e : Duration}

theorem batch_lt {size : Nat} (some : 0 < size) (within : i < count) :
    i / size < count ⌈/⌉ size := by
  rw [Nat.ceilDiv_eq_add_pred_div]
  have next : i / size + 1 ≤ (count + size - 1) / size := by
    rw [← Nat.add_div_right i some]
    exact Nat.div_le_div_right (by omega)
  exact next

theorem getElem?_staggerDelays : (staggerDelays count batchSize window)[i]? = some d ↔
    i < count ∧ d.nanos = min (window.nanos * (i / max batchSize 1) /
      (count ⌈/⌉ max batchSize 1)) (2 ^ 64 - 1) := by
  rw [staggerDelays, List.getElem?_map, Option.map_eq_some_iff, Nat.ceilDiv_eq_add_pred_div]
  constructor
  · rintro ⟨j, place, rfl⟩
    obtain ⟨within, own⟩ := List.getElem?_eq_some_iff.mp place
    rw [List.getElem_range] at own
    rw [List.length_range] at within
    subst own
    exact ⟨within, rfl⟩
  · rintro ⟨within, nanos⟩
    exact ⟨i, List.getElem?_range within, Duration.eq_iff.mpr nanos.symm⟩

theorem nanos_of_getElem? (short : window.nanos < 2 ^ 64)
    (given : (staggerDelays count batchSize window)[i]? = some d) :
    d.nanos = window.nanos * (i / max batchSize 1) / (count ⌈/⌉ max batchSize 1) := by
  obtain ⟨within, nanos⟩ := getElem?_staggerDelays.mp given
  rw [nanos, Nat.min_eq_left]
  rcases Nat.eq_zero_or_pos window.nanos with nothing | positive
  · rw [nothing, Nat.zero_mul, Nat.zero_div]
    exact Nat.zero_le _
  · have below := share_lt positive (batch_lt (Nat.le_max_right batchSize 1) within)
    omega

theorem le_of_getElem? (earlier : i / max batchSize 1 ≤ j / max batchSize 1)
    (given : (staggerDelays count batchSize window)[i]? = some d)
    (given' : (staggerDelays count batchSize window)[j]? = some e) : d ≤ e := by
  rw [Duration.le_iff, (getElem?_staggerDelays.mp given).2, (getElem?_staggerDelays.mp given').2]
  exact min_le_min_right _ (share_mono earlier)

/-- A gap between batches is the whole share of a batch, or a nanosecond more. -/
theorem batchGap_cases {gap : Nat} (short : window.nanos < 2 ^ 64)
    (apart : BatchGap (max batchSize 1) (staggerDelays count batchSize window) gap) :
    gap = window.nanos / (count ⌈/⌉ max batchSize 1) ∨
      gap = window.nanos / (count ⌈/⌉ max batchSize 1) + 1 := by
  obtain ⟨i, j, d, e, given, given', next, gap⟩ := apart
  have some : 0 < count ⌈/⌉ max batchSize 1 :=
    Nat.zero_lt_of_lt (batch_lt (Nat.le_max_right batchSize 1) (getElem?_staggerDelays.mp given).1)
  rw [nanos_of_getElem? short given, nanos_of_getElem? short given', next] at gap
  rcases @share_succ window.nanos _ (i / max batchSize 1) some with whole | more
  · omega
  · omega

/-- Whatever the numbers are, the delays are as they are meant to be. -/
theorem staggered (count batchSize : Nat) (window : Duration) :
    Staggered count (max batchSize 1) window (staggerDelays count batchSize window) where
  length := by rw [staggerDelays, List.length_map, List.length_range]
  together i j d e given given' same := by
    have up := le_of_getElem? (Nat.le_of_eq same) given given'
    have down := le_of_getElem? (Nat.le_of_eq same.symm) given' given
    exact Duration.eq_iff.mpr (Nat.le_antisymm up down)
  ordered := by
    refine List.pairwise_iff_getElem.mpr fun i j placed placed' before => ?_
    exact le_of_getElem? (Nat.div_le_div_right (Nat.le_of_lt before))
      (List.getElem?_eq_getElem placed) (List.getElem?_eq_getElem placed')
  first i d given front := by
    have nanos := (getElem?_staggerDelays.mp given).2
    rw [front, Nat.mul_zero, Nat.zero_div, Nat.zero_min] at nanos
    exact Duration.eq_iff.mpr nanos
  within positive d member := by
    obtain ⟨i, given⟩ := List.mem_iff_getElem?.mp member
    obtain ⟨within, nanos⟩ := getElem?_staggerDelays.mp given
    rw [Duration.lt_iff, nanos]
    exact (Nat.min_le_left ..).trans_lt
      (share_lt positive (batch_lt (Nat.le_max_right batchSize 1) within))
  share short i d given := nanos_of_getElem? short given
  even short gap gap' apart apart' := by
    have one := batchGap_cases short apart
    have other := batchGap_cases short apart'
    refine ⟨by omega, fun long => ?_⟩
    obtain ⟨i, j, d, e, given, _⟩ := apart
    have some := Nat.zero_lt_of_lt
      (batch_lt (Nat.le_max_right batchSize 1) (getElem?_staggerDelays.mp given).1)
    have unit : 0 < window.nanos / (count ⌈/⌉ max batchSize 1) := Nat.div_pos long some
    omega

end

end DnsBalancer
