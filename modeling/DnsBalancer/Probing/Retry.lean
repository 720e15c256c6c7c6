import DnsBalancer.Check.Fault

/-!
# Retries

A failed attempt is repeated at once, unless its fault says that this is no use or
the attempts are spent. The outcome of the last attempt stands.
-/
namespace DnsBalancer

def AttemptOutcome.toExcept : AttemptOutcome → Except ProbeFault Unit
  | .passed => .ok ()
  | .failed fault => .error fault

def AttemptOutcome.ofExcept : Except ProbeFault Unit → AttemptOutcome
  | .ok () => .passed
  | .error fault => .failed fault

namespace Retry

/-- One attempt and `retries` more, as far as 32 bits count them. -/
def maxAttempts (retries : Nat) : Nat := Nat.min (retries + 1) (Nat.pow 2 32 - 1)

/-- What is left of `left` further attempts when the outcome of this one asks for
another; none when it stands. -/
def next? : Nat → AttemptOutcome → Option Nat
  | left + 1, .failed fault => if fault.retryable then some left else none
  | _, _ => none

theorem lt_of_next? {left rest : Nat} {o : AttemptOutcome} (h : next? left o = some rest) :
    rest < left := by
  unfold next? at h
  split at h
  · split at h <;> simp_all
  · simp at h

variable {σ ε α : Type}

/-- What one turn of the loop comes to. -/
inductive Turn (σ ε α : Type) where
  /-- The result stands. -/
  | over (result : Except ε α) (state : σ)
  /-- Another attempt is due; so many have been made. -/
  | again (made : UInt32) (state : σ)
  /-- There is no number left for the attempt, and it is not made. -/
  | overflow

/-- Numbers an attempt and makes it, when `made` have been made before. The operation
may change the state that it is called in. -/
def turn (most : UInt32) (retryable : ε → Bool) (call : σ → Except ε α × σ) (made : UInt32)
    (state : σ) : Turn σ ε α :=
  if made.toNat + 1 < UInt32.size then
    match call state with
    | (.ok value, state) => .over (.ok value) state
    | (.error fault, state) =>
      if !retryable fault then .over (.error fault) state
      else if most ≤ made + 1 then .over (.error fault) state
      else .again (made + 1) state
  else .overflow

/-- The next number, while there is one. -/
theorem toNat_succ {made : UInt32} (room : made.toNat + 1 < UInt32.size) :
    (made + 1).toNat = made.toNat + 1 := by
  rw [UInt32.toNat_add]
  exact Nat.mod_eq_of_lt room

theorem toNat_of_turn {most made next : UInt32} {retryable : ε → Bool}
    {call : σ → Except ε α × σ} {state after : σ}
    (again : turn most retryable call made state = .again next after) :
    next.toNat = made.toNat + 1 := by
  unfold turn at again
  split at again
  · rename_i room
    split at again
    · cases again
    · split at again
      · cases again
      · split at again
        · cases again
        · cases again
          exact toNat_succ room
  · cases again

/-- Turns of the loop until a result stands; nothing when the numbers run out. -/
def attemptsFrom (most : UInt32) (retryable : ε → Bool) (call : σ → Except ε α × σ)
    (made : UInt32) (state : σ) : Option (Except ε α × σ) :=
  match _again : turn most retryable call made state with
  | .over result state => some (result, state)
  | .again next state => attemptsFrom most retryable call next state
  | .overflow => none
termination_by UInt32.size - made.toNat
decreasing_by
  have counted := toNat_of_turn _again
  have bound := next.toNat_lt_size
  omega

/-- Calls an operation up to `retries` times more than once, as long as its faults are
worth it. Gives the last result and the state that the calls have left. -/
def run (retries : UInt32) (retryable : ε → Bool) (call : σ → Except ε α × σ) (state : σ) :
    Option (Except ε α × σ) :=
  attemptsFrom (.ofNat (maxAttempts retries.toNat)) retryable call 0 state

/-- Attempts of a probe of which number `n`, from zero, ends in `outcome n`. Gives how
many were made in all, and the outcome of the last. -/
def execute (retries : Nat) (outcome : Nat → AttemptOutcome) : Nat × AttemptOutcome :=
  match run (.ofNat retries) ProbeFault.retryable (fun n => ((outcome n).toExcept, n + 1)) 0 with
  | some (result, made) => (made, .ofExcept result)
  | none => (0, .failed .crashed)

end Retry

end DnsBalancer
