import DnsBalancer.Text.Decimal
import Mathlib.Algebra.Order.Field.Basic
import Mathlib.Algebra.Order.Floor.Semifield
import Mathlib.Data.Rat.Floor
import Mathlib.Tactic.FieldSimp
import Mathlib.Tactic.Linarith
import Mathlib.Tactic.Positivity
import Mathlib.Tactic.Ring

/-!
# What digits are worth

A row of digits in front of a point counts units, and behind one it counts tenths, hundredths and
so on. Writing a number and reading its digits gives the number back.
-/
namespace DnsBalancer.Text.Decimal

/-- What a row of digits behind a point is worth: a tenth of its first digit and of what
follows. -/
def places : List Char → ℚ
  | [] => 0
  | c :: cs => ((c.toNat - '0'.toNat : ℕ) + places cs) / 10

section

variable {s t : List Char} {c : Char}

theorem value_eq_ofDigitChars (s : List Char) : value s = Nat.ofDigitChars 10 s 0 :=
  Nat.ofDigitChars_eq_foldl.symm

@[simp] theorem value_nil : value [] = 0 := rfl

theorem value_cons : value (c :: s) = (c.toNat - '0'.toNat) * 10 ^ s.length + value s := by
  rw [value_eq_ofDigitChars, value_eq_ofDigitChars, Nat.ofDigitChars_cons,
    Nat.ofDigitChars_eq_ofDigitChars_zero, Nat.mul_zero, Nat.zero_add, Nat.mul_comm]

theorem value_digits (n : Nat) : value (digits n) = n := by
  rw [value_eq_ofDigitChars, digits_eq_toDigits, Nat.ofDigitChars_ten_toDigits]

theorem isDigit_of_mem_digits {n : Nat} (member : c ∈ digits n) : c.isDigit = true := by
  rw [digits_eq_toDigits] at member
  exact Nat.isDigit_of_mem_toDigits (by decide) (by decide) member

theorem digits_ne_nil (n : Nat) : digits n ≠ [] := by
  rw [digits]
  split <;> simp

theorem digit_le_nine (digit : c.isDigit = true) : c.toNat - '0'.toNat ≤ 9 := by
  have upper : c.toNat ≤ '9'.toNat := (Char.isDigit_iff_toNat.mp digit).2
  have least : '0'.toNat = 48 := rfl
  have greatest : '9'.toNat = 57 := rfl
  omega

theorem value_lt (digits : ∀ c ∈ s, c.isDigit = true) : value s < 10 ^ s.length := by
  induction s with
  | nil => simp
  | cons c s ih =>
    obtain ⟨first, rest⟩ := List.forall_mem_cons.mp digits
    have behind := ih rest
    rw [value_cons, List.length_cons, Nat.pow_succ]
    calc (c.toNat - '0'.toNat) * 10 ^ s.length + value s
        ≤ 9 * 10 ^ s.length + value s :=
          Nat.add_le_add_right (Nat.mul_le_mul_right _ (digit_le_nine first)) _
      _ < 10 ^ s.length * 10 := by omega

/-- Behind a point, a row is worth what it counts in units of its last place. -/
theorem places_eq (s : List Char) : places s = value s / 10 ^ s.length := by
  induction s with
  | nil => simp [places]
  | cons c s ih =>
    rw [places, ih, value_cons, List.length_cons]
    push_cast
    field_simp
    ring

theorem places_append (s t : List Char) :
    places (s ++ t) = places s + places t / 10 ^ s.length := by
  induction s with
  | nil => simp [places]
  | cons c s ih =>
    rw [List.cons_append, places, places, ih, List.length_cons]
    field_simp
    ring

theorem places_nonneg (s : List Char) : 0 ≤ places s := by
  rw [places_eq]
  positivity

theorem places_lt_one (digits : ∀ c ∈ s, c.isDigit = true) : places s < 1 := by
  rw [places_eq, div_lt_one (by positivity)]
  exact_mod_cast value_lt digits

theorem digitIn?_ten (digit : c.isDigit = true) : digitIn? 10 c = some (c.toNat - '0'.toNat) := by
  have small := digit_le_nine digit
  rw [digitIn?]
  simp only [digit, if_true]
  exact if_pos (by omega)

theorem readIn?_ten (nonempty : s ≠ []) (digits : ∀ c ∈ s, c.isDigit = true) :
    readIn? 10 s = some (value s) := by
  have folded (n : Nat) : s.foldlM (fun n c => (digitIn? 10 c).map (10 * n + ·)) n =
      some (s.foldl (fun n c => 10 * n + (c.toNat - '0'.toNat)) n) := by
    clear nonempty
    induction s generalizing n with
    | nil => rfl
    | cons c s ih =>
      obtain ⟨first, rest⟩ := List.forall_mem_cons.mp digits
      rw [List.foldlM_cons, digitIn?_ten first, List.foldl_cons]
      exact ih rest _
  rw [readIn?, if_neg (by simpa using nonempty), folded, value]

/-- Digits without a sign are read as they count, up to the limit. -/
theorem readUnsigned?_ten (nonempty : s ≠ []) (digits : ∀ c ∈ s, c.isDigit = true)
    (limit : Nat) : readUnsigned? 10 limit s = if value s ≤ limit then some (value s) else none := by
  have body : readUnsigned? 10 limit s = (readIn? 10 s).filter (· ≤ limit) := by
    unfold readUnsigned?
    split
    · cases digits '+' List.mem_cons_self
    · rfl
  rw [body, readIn?_ten nonempty digits, Option.filter_some]
  simp only [decide_eq_true_eq]

end

end DnsBalancer.Text.Decimal
