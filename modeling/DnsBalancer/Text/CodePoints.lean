/-!
# Sets of code points

A set is kept as its ranges, in order and apart from one another, so that equal sets
have equal ranges. Ranges that overlap or touch become one when they are joined.
-/
namespace DnsBalancer.Text

structure CodePoints where
  /-- First and last code point of each range. -/
  ranges : List (Nat × Nat) := []
  deriving DecidableEq, Repr, Inhabited

namespace CodePoints

/-- The last of all code points. -/
def last : Nat := 0x10FFFF

def empty : CodePoints := {}

def ofRange (low high : Nat) : CodePoints := ⟨[(low, high)]⟩

def ofChar (c : Char) : CodePoints := ofRange c.toNat c.toNat

def within (n : Nat) : List (Nat × Nat) → Bool
  | [] => false
  | (low, high) :: rest => (low ≤ n && n ≤ high) || within n rest

def contains (s : CodePoints) (c : Char) : Bool := within c.toNat s.ranges

/-- Joins a range to ranges in order. -/
def addRange (low high : Nat) : List (Nat × Nat) → List (Nat × Nat)
  | [] => [(low, high)]
  | (a, b) :: rest =>
    if high + 1 < a then (low, high) :: (a, b) :: rest
    else if b + 1 < low then (a, b) :: addRange low high rest
    else addRange (min a low) (max b high) rest

def union (s t : CodePoints) : CodePoints :=
  ⟨t.ranges.foldl (fun rs (low, high) => addRange low high rs) s.ranges⟩

/-- The ranges between those given, from `start` on. -/
def gaps (start : Nat) : List (Nat × Nat) → List (Nat × Nat)
  | [] => if start ≤ last then [(start, last)] else []
  | (a, b) :: rest => (if start < a then [(start, a - 1)] else []) ++ gaps (b + 1) rest

def complement (s : CodePoints) : CodePoints := ⟨gaps 0 s.ranges⟩

def intersection (s t : CodePoints) : CodePoints :=
  (s.complement.union t.complement).complement

def difference (s t : CodePoints) : CodePoints := s.intersection t.complement

def symmetricDifference (s t : CodePoints) : CodePoints :=
  (s.difference t).union (t.difference s)

/-- No member lies above `n`. -/
def endsBy (s : CodePoints) (n : Nat) : Bool := s.ranges.all (·.2 ≤ n)

/-- The members that lie in a range, each moved by `up` or, failing that, by `down`. -/
def shifted (low high up down : Nat) (s : CodePoints) : CodePoints :=
  ⟨(s.intersection (ofRange low high)).ranges.map fun (a, b) => (a + up - down, b + up - down)⟩

/-- A set that a range was joined to holds what it held and the range. -/
theorem within_addRange (n low high : Nat) (rs : List (Nat × Nat)) (h : low ≤ high)
    (hrs : ∀ r ∈ rs, r.1 ≤ r.2) :
    within n (addRange low high rs) ↔ (low ≤ n ∧ n ≤ high) ∨ within n rs := by
  induction rs generalizing low high with
  | nil => simp [addRange, within]
  | cons r rest ih =>
    have hr := hrs r (by simp)
    have hrest : ∀ q ∈ rest, q.1 ≤ q.2 := fun q hq => hrs q (by simp [hq])
    rw [addRange]
    split
    · simp [within]
    · split
      · simp only [within, Bool.or_eq_true, ih low high h hrest]
        exact or_left_comm
      · simp only [ih (min r.1 low) (max r.2 high) (by omega) hrest, within, Bool.or_eq_true,
          Bool.and_eq_true, decide_eq_true_eq]
        rw [← or_assoc]
        exact or_congr_left (by omega)

end CodePoints

end DnsBalancer.Text
