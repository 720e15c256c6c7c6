import DnsBalancer.Probing.Retry
import Mathlib.Logic.Function.Iterate

/-!
# The budget of retries

A run is the longest row of attempts of which each but the last asks for another, as far as the
budget goes. The operation is any that changes a state of its own, so that the state a run leaves
tells which calls were made. Attempts are counted in 32 bits, and the budget stays below the point
where the count would run over.
-/
namespace DnsBalancer.Retry

variable {σ ε α : Type} {retryable : ε → Bool}

/-- The outcome asks for no other attempt, however many are left. -/
def Stands (retryable : ε → Bool) : Except ε α → Prop
  | .ok _ => True
  | .error fault => retryable fault = false

/-- How many attempts there are at most: one and the retries, within 32 bits. -/
def most (retries : UInt32) : Nat := min (retries.toNat + 1) (UInt32.size - 1)

/-- Number `k`, counted from one, is the last of the attempts that give the results. -/
structure IsLast (retries : UInt32) (retryable : ε → Bool) (result : Nat → Except ε α) (k : Nat) :
    Prop where
  made : 1 ≤ k
  within : k ≤ most retries
  ends : Stands retryable (result k) ∨ k = most retries
  retried : ∀ j, 1 ≤ j → j < k → ¬ Stands retryable (result j)

/-- There is one last attempt only. -/
theorem IsLast.unique {retries : UInt32} {result : Nat → Except ε α} {j k : Nat}
    (first : IsLast retries retryable result j) (second : IsLast retries retryable result k) :
    j = k := by
  have reaches {j k : Nat} (first : IsLast retries retryable result j)
      (second : IsLast retries retryable result k) : k ≤ j := by
    by_contra beyond
    rcases first.ends with stands | spent
    · exact second.retried j first.made (Nat.lt_of_not_le beyond) stands
    · exact beyond (spent ▸ second.within)
  exact Nat.le_antisymm (reaches second first) (reaches first second)

/-! ### Calls one after the other -/

section

variable (call : σ → Except ε α × σ) (state : σ)

/-- The state that `n` calls leave. -/
def after (n : Nat) : σ := (fun state => (call state).2)^[n] state

/-- What call number `n` gives, counted from one. -/
def result (n : Nat) : Except ε α := (call (after call state (n - 1))).1

theorem call_after (n : Nat) : call (after call state n) =
    (result call state (n + 1), after call state (n + 1)) := by
  rw [result, Nat.add_sub_cancel, after, after, Function.iterate_succ_apply']

end

section

variable (retryable : ε → Bool) (call : σ → Except ε α × σ) (state : σ)

/-- One turn makes the next call. The loop goes on only from a fault that is worth it, while there
are attempts left. -/
theorem turn_cases (budget : UInt32) {made : UInt32} (room : made.toNat + 1 < UInt32.size) :
    (turn budget retryable call made (after call state made.toNat) =
        .over (result call state (made.toNat + 1)) (after call state (made.toNat + 1)) ∧
      (Stands retryable (result call state (made.toNat + 1)) ∨ budget ≤ made + 1)) ∨
    (turn budget retryable call made (after call state made.toNat) =
        .again (made + 1) (after call state (made.toNat + 1)) ∧
      ¬ Stands retryable (result call state (made.toNat + 1)) ∧ made + 1 < budget) := by
  rw [turn, if_pos room, call_after call state]
  cases result call state (made.toNat + 1) with
  | ok value => exact Or.inl ⟨rfl, Or.inl trivial⟩
  | error fault =>
    cases worth : retryable fault with
    | false => exact Or.inl ⟨by simp [worth], Or.inl worth⟩
    | true =>
      by_cases spent : budget ≤ made + 1
      · exact Or.inl ⟨by simp [worth, spent], Or.inr spent⟩
      · exact Or.inr ⟨by simp [worth, spent], by simp [Stands, worth], UInt32.not_le.mp spent⟩

/-- The loop goes on to the last attempt. The induction is on the attempts that may follow the
next one. -/
theorem attemptsFrom_eq {retries budget : UInt32} (whole : budget.toNat = most retries)
    (left : Nat) (made : UInt32) (counts : made.toNat + left + 1 = most retries)
    (retried : ∀ j, 1 ≤ j → j ≤ made.toNat → ¬ Stands retryable (result call state j)) :
    ∃ k, IsLast retries retryable (result call state) k ∧
      attemptsFrom budget retryable call made (after call state made.toNat) =
        some (result call state k, after call state k) := by
  induction left using Nat.strongRecOn generalizing made with
  | ind left ih =>
    have room : made.toNat + 1 < UInt32.size := by
      have bound : most retries < UInt32.size :=
        Nat.lt_of_le_of_lt (Nat.min_le_right _ _) (by decide)
      omega
    have counted := toNat_succ room
    rw [attemptsFrom]
    rcases turn_cases retryable call state budget room with
      ⟨turn, ends⟩ | ⟨again, asks, more⟩
    · refine ⟨made.toNat + 1, ⟨by omega, by omega, ends.imp_right fun spent => ?_,
        fun j first earlier => retried j first (Nat.le_of_lt_succ earlier)⟩, ?_⟩
      · rw [UInt32.le_iff_toNat_le, counted, whole] at spent
        omega
      · split <;> simp_all
    · rw [UInt32.lt_iff_toNat_lt, counted, whole] at more
      have asked : ∀ j, 1 ≤ j → j ≤ (made + 1).toNat →
          ¬ Stands retryable (result call state j) := by
        intro j first within
        rcases Nat.lt_or_eq_of_le (counted ▸ within) with before | rfl
        · exact retried j first (Nat.le_of_lt_succ before)
        · exact asks
      obtain ⟨k, last, runs⟩ := ih (left - 1) (by omega) (made + 1) (by omega) asked
      refine ⟨k, last, ?_⟩
      rw [counted] at runs
      split <;> simp_all

end

/-- A run ends. It makes every attempt up to the last one and none after it, and gives what that
one gave: the first that passes, the first whose fault is not worth another, or the one that
spends the budget. The count of attempts never runs over. -/
theorem run_last (retries : UInt32) (retryable : ε → Bool) (call : σ → Except ε α × σ)
    (state : σ) : (∃ k, IsLast retries retryable (result call state) k) ∧
      ∀ k, IsLast retries retryable (result call state) k →
        run retries retryable call state = some (result call state k, after call state k) := by
  have whole : (UInt32.ofNat (maxAttempts retries.toNat)).toNat = most retries :=
    Nat.mod_eq_of_lt (Nat.lt_of_le_of_lt (Nat.min_le_right _ _) (by decide))
  have positive : 1 ≤ most retries := Nat.le_min.mpr ⟨by omega, by decide⟩
  obtain ⟨k, last, runs⟩ := attemptsFrom_eq retryable call state whole (most retries - 1) 0
    (by rw [UInt32.toNat_zero]; omega)
    (fun j first none => by rw [UInt32.toNat_zero] at none; omega)
  refine ⟨⟨k, last⟩, fun j first => ?_⟩
  rw [first.unique last]
  exact runs

/-- An operation that keeps count of its calls. The third finds a fault that no other attempt
would mend, the fourth would pass. -/
def faulty (calls : Nat) : Except ProbeFault Unit × Nat :=
  match calls with
  | 0 => (.error (.connection "refused"), 1)
  | 1 => (.error .timedOut, 2)
  | 2 => (.error (.other "malformed"), 3)
  | calls => (.ok (), calls + 1)

/-- With two retries the third attempt is both the last of the budget and not worth another. -/
theorem run_last_faulty : IsLast 2 ProbeFault.retryable (result faulty 0) 3 ∧
    run 2 ProbeFault.retryable faulty 0 = some (.error (.other "malformed"), 3) := by
  have last : IsLast 2 ProbeFault.retryable (result faulty 0) 3 := by
    refine ⟨by decide, by decide, Or.inl rfl, fun j first earlier => ?_⟩
    obtain rfl | rfl : j = 1 ∨ j = 2 := by omega
    · exact Bool.noConfusion
    · exact Bool.noConfusion
  exact ⟨last, (run_last 2 ProbeFault.retryable faulty 0).2 3 last⟩

/-! ### Probes -/

/-- The attempts of a probe are as many as it takes to the last one, whose outcome stands. -/
theorem execute_eq (retries : UInt32) (outcome : Nat → AttemptOutcome) {k : Nat}
    (last : IsLast retries ProbeFault.retryable (fun n => (outcome (n - 1)).toExcept) k) :
    execute retries.toNat outcome = (k, outcome (k - 1)) := by
  have counts (n : Nat) :
      after (fun n => ((outcome n).toExcept, n + 1)) 0 n = n := by
    induction n with
    | zero => rfl
    | succ n ih => rw [after, Function.iterate_succ_apply', ← after, ih]
  have results : result (fun n => ((outcome n).toExcept, n + 1)) 0 =
      fun n => (outcome (n - 1)).toExcept := by
    funext n
    rw [result, counts]
  have runs := (run_last retries ProbeFault.retryable
    (fun n => ((outcome n).toExcept, n + 1)) 0).2 k (results ▸ last)
  rw [execute, UInt32.ofNat_toNat, runs, results, counts]
  dsimp only
  cases outcome (k - 1) <;> rfl

/-- A probe in flight, which counts the attempts that are left, goes on just when the loop does. -/
theorem turn_eq_next? {budget made : UInt32} {left : Nat}
    (counts : made.toNat + left + 1 = budget.toNat) {call : σ → Except ProbeFault Unit × σ}
    {state later : σ} {o : AttemptOutcome} (called : call state = (o.toExcept, later)) :
    turn budget ProbeFault.retryable call made state = match next? left o with
      | some _ => .again (made + 1) later
      | none => .over o.toExcept later := by
  have bound := budget.toNat_lt_size
  have room : made.toNat + 1 < UInt32.size := by omega
  have spent : budget ≤ made + 1 ↔ left = 0 := by
    rw [UInt32.le_iff_toNat_le, toNat_succ room]
    omega
  rw [turn, if_pos room, called]
  cases o with
  | passed => cases left <;> rfl
  | failed fault =>
    cases left with
    | zero => simp [AttemptOutcome.toExcept, next?, spent]
    | succ left =>
      cases worth : fault.retryable <;> simp [AttemptOutcome.toExcept, next?, worth, spent]

end DnsBalancer.Retry
