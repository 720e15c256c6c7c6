import DnsBalancer.Geo.Distance
import Mathlib.Order.Monotone.Basic

/-!
# The order of doubles

The places that doubles are compared by are those of the total order of the IEEE standard: by sign
and by magnitude, the infinite beyond all finite values and what is no number beyond both. Finite
magnitudes are compared by what they are worth, which is read off exponent and fraction.
-/
namespace DnsBalancer.Double

def negative (x : Double) : Bool := x.bits.msb

/-- The bits behind the sign. -/
def magnitude (x : Double) : Nat := x.bits.toNat % 0x8000000000000000

def exponent (x : Double) : Nat := x.magnitude / 0x10000000000000

def fraction (x : Double) : Nat := x.magnitude % 0x10000000000000

inductive Kind where
  | finite
  | infinite
  | noNumber
  deriving DecidableEq

/-- The highest exponent is that of the infinite and of what is no number. -/
def kind (x : Double) : Kind :=
  if x.exponent = 2047 then (if x.fraction = 0 then .infinite else .noNumber) else .finite

/-- What a magnitude is worth, in units of the least one above zero. -/
def worthOf (exponent fraction : Nat) : Nat :=
  if exponent = 0 then fraction else (0x10000000000000 + fraction) * Nat.pow 2 (exponent - 1)

/-- A finite double in units of the least one above zero. -/
def worth (x : Double) : Int :=
  if x.negative then -(worthOf x.exponent x.fraction) else worthOf x.exponent x.fraction

/-- The magnitude is the lower one. -/
def Smaller (x y : Double) : Prop :=
  match x.kind, y.kind with
  | .finite, .finite => worthOf x.exponent x.fraction < worthOf y.exponent y.fraction
  | .finite, _ => True
  | .infinite, .noNumber => True
  | .noNumber, .noNumber => x.fraction < y.fraction
  | _, _ => False

/-- The total order: what has the sign bit set comes first, the greater magnitude before the
smaller one, and then what has not, the smaller before the greater. -/
def Before (x y : Double) : Prop :=
  match x.negative, y.negative with
  | true, false => True
  | true, true => y.Smaller x
  | false, false => x.Smaller y
  | false, true => False

/-! ### Magnitudes -/

theorem worthOf_lt {e f : Nat} (small : f < 0x10000000000000) :
    worthOf e f < 0x10000000000000 * Nat.pow 2 e := by
  unfold worthOf
  split
  · rename_i subnormal
    subst subnormal
    exact small
  · rename_i normal
    obtain ⟨e, rfl⟩ := Nat.exists_eq_succ_of_ne_zero normal
    have positive : 0 < Nat.pow 2 e := Nat.pow_pos (by decide)
    have double : Nat.pow 2 (e + 1) = Nat.pow 2 e * 2 := rfl
    rw [Nat.succ_eq_add_one, Nat.add_sub_cancel, double]
    have below : (0x10000000000000 + f) * Nat.pow 2 e < (0x10000000000000 * 2) * Nat.pow 2 e :=
      Nat.mul_lt_mul_of_pos_right (by omega) positive
    omega

theorem le_worthOf {e : Nat} (f : Nat) (normal : e ≠ 0) :
    0x10000000000000 * Nat.pow 2 (e - 1) ≤ worthOf e f := by
  rw [worthOf, if_neg normal]
  exact Nat.mul_le_mul_right _ (by omega)

/-- The parts of a higher magnitude are worth more. -/
theorem worthOf_strictMono :
    StrictMono fun m => worthOf (m / 0x10000000000000) (m % 0x10000000000000) := by
  intro m n less
  have small : m % 0x10000000000000 < 0x10000000000000 := Nat.mod_lt _ (by decide)
  dsimp only
  rcases Nat.lt_or_ge (m / 0x10000000000000) (n / 0x10000000000000) with lower | higher
  · have power : Nat.pow 2 (m / 0x10000000000000) ≤ Nat.pow 2 (n / 0x10000000000000 - 1) :=
      Nat.pow_le_pow_right (by decide) (by omega)
    calc worthOf (m / 0x10000000000000) (m % 0x10000000000000)
      _ < 0x10000000000000 * Nat.pow 2 (m / 0x10000000000000) := worthOf_lt small
      _ ≤ 0x10000000000000 * Nat.pow 2 (n / 0x10000000000000 - 1) := Nat.mul_le_mul_left _ power
      _ ≤ worthOf (n / 0x10000000000000) (n % 0x10000000000000) := le_worthOf _ (by omega)
  · have same : m / 0x10000000000000 = n / 0x10000000000000 := by omega
    have fractions : m % 0x10000000000000 < n % 0x10000000000000 := by omega
    rw [same]
    unfold worthOf
    split
    · exact fractions
    · exact Nat.mul_lt_mul_of_pos_right (by omega) (Nat.pow_pos (by decide))

/-- How high the magnitudes of a kind are. -/
theorem kind_bounds (x : Double) :
    match x.kind with
    | .finite => x.magnitude < 0x7ff0000000000000
    | .infinite => x.magnitude = 0x7ff0000000000000
    | .noNumber => 0x7ff0000000000000 < x.magnitude ∧ x.exponent = 2047 := by
  have bound : x.magnitude < 0x8000000000000000 := Nat.mod_lt _ (by decide)
  have parts : 0x10000000000000 * x.exponent + x.fraction = x.magnitude := Nat.div_add_mod ..
  have small : x.fraction < 0x10000000000000 := Nat.mod_lt _ (by decide)
  unfold kind
  split_ifs <;> dsimp only <;> omega

theorem smaller_of_finite {x y : Double} (first : x.kind = .finite) (second : y.kind = .finite) :
    x.Smaller y ↔ worthOf x.exponent x.fraction < worthOf y.exponent y.fraction := by
  rw [Smaller, first, second]

theorem smaller_iff {x y : Double} : x.Smaller y ↔ x.magnitude < y.magnitude := by
  have low := kind_bounds x
  have high := kind_bounds y
  cases first : x.kind <;> cases second : y.kind <;> rw [first] at low <;> rw [second] at high
  case finite.finite =>
    rw [smaller_of_finite first second]
    exact worthOf_strictMono.lt_iff_lt
  case noNumber.noNumber =>
    rw [Smaller, first, second]
    have own : 0x10000000000000 * x.exponent + x.fraction = x.magnitude := Nat.div_add_mod ..
    have other : 0x10000000000000 * y.exponent + y.fraction = y.magnitude := Nat.div_add_mod ..
    omega
  all_goals
    rw [Smaller, first, second]
    simp only [true_iff, false_iff] at low high ⊢
    omega

/-! ### Places -/

theorem turned_of_positive {b : BitVec 64} (sign : b.msb = false) :
    b ^^^ b.sshiftRight 63 >>> 1 = b := by
  have below := BitVec.msb_eq_false_iff_two_mul_lt.mp sign
  have none : b.sshiftRight 63 = 0#64 := by
    rw [BitVec.sshiftRight_eq_of_msb_false sign]
    apply BitVec.eq_of_toNat_eq
    simp [Nat.shiftRight_eq_div_pow]
    omega
  rw [none]
  exact BitVec.xor_zero

/-- Where the sign is set, the bits behind it are turned over. -/
theorem turned_of_negative {b : BitVec 64} (sign : b.msb = true) :
    b ^^^ b.sshiftRight 63 >>> 1 = b ^^^ BitVec.allOnes 64 >>> 1 := by
  have above := BitVec.msb_eq_true_iff_two_mul_ge.mp sign
  have none : ~~~b >>> 63 = 0#64 := by
    apply BitVec.eq_of_toNat_eq
    simp [Nat.shiftRight_eq_div_pow]
    omega
  rw [BitVec.sshiftRight_eq_of_msb_true sign, none]
  rfl

theorem toNat_turned (b : BitVec 64) : (b ^^^ BitVec.allOnes 64 >>> 1).toNat % 0x8000000000000000 =
    0x7fffffffffffffff - b.toNat % 0x8000000000000000 := by
  have low : (b ^^^ BitVec.allOnes 64 >>> 1).setWidth 63 = ~~~(b.setWidth 63) := by
    rw [BitVec.setWidth_xor]
    exact BitVec.xor_allOnes
  have value := congrArg BitVec.toNat low
  rw [BitVec.toNat_setWidth, BitVec.toNat_not, BitVec.toNat_setWidth] at value
  exact value

theorem key_eq (x : Double) :
    x.key = if x.negative then -1 - (x.magnitude : Int) else (x.magnitude : Int) := by
  obtain ⟨b⟩ := x
  unfold key negative magnitude
  dsimp only
  cases sign : b.msb with
  | false =>
    have below := BitVec.msb_eq_false_iff_two_mul_lt.mp sign
    rw [turned_of_positive sign, BitVec.toInt_eq_toNat_of_msb sign, if_neg Bool.false_ne_true]
    omega
  | true =>
    have kept : (b ^^^ BitVec.allOnes 64 >>> 1).msb = true := by rw [BitVec.msb_xor, sign]; rfl
    have above := BitVec.msb_eq_true_iff_two_mul_ge.mp kept
    have turned := toNat_turned b
    rw [turned_of_negative sign, BitVec.toInt_eq_msb_cond, if_pos kept, if_pos rfl]
    omega

theorem key_lt_iff {x y : Double} : x.key < y.key ↔ x.Before y := by
  rw [key_eq, key_eq, Before]
  cases x.negative <;> cases y.negative <;> simp [smaller_iff] <;> omega

theorem eq_of_key {x y : Double} (same : x.key = y.key) : x = y := by
  rw [key_eq, key_eq] at same
  have signs : x.bits.msb = y.bits.msb := by
    change x.negative = y.negative
    cases first : x.negative <;> cases second : y.negative <;> simp [first, second] at same ⊢ <;>
      omega
  have magnitudes : x.magnitude = y.magnitude := by
    rw [show x.negative = y.negative from signs] at same
    split at same <;> omega
  obtain ⟨b⟩ := x
  obtain ⟨c⟩ := y
  refine congrArg mk (BitVec.eq_of_toNat_eq ?_)
  unfold magnitude at magnitudes
  rw [BitVec.msb_eq_decide, BitVec.msb_eq_decide, decide_eq_decide] at signs
  dsimp only at signs magnitudes
  omega

/-- No two doubles share a place. -/
theorem before_trichotomy (x y : Double) : x.Before y ∨ x = y ∨ y.Before x := by
  rw [← key_lt_iff, ← key_lt_iff]
  rcases Int.lt_trichotomy x.key y.key with before | same | after
  · exact Or.inl before
  · exact Or.inr (Or.inl (eq_of_key same))
  · exact Or.inr (Or.inr after)

/-- Finite doubles are in the order of what they are worth. -/
theorem before_of_worth_lt {x y : Double} (first : x.kind = .finite) (second : y.kind = .finite)
    (less : x.worth < y.worth) : x.Before y := by
  unfold worth at less
  unfold Before
  cases signed : x.negative <;> cases other : y.negative <;> rw [signed, other] at less <;>
    simp only [smaller_of_finite first second, smaller_of_finite second first] <;>
    simp only [if_true, if_false, Bool.false_eq_true] at less <;> omega

end DnsBalancer.Double
