import DnsBalancer.Duration.Text
import DnsBalancer.Proofs.Text.Decimal
import Mathlib.Algebra.Order.Floor.Ring

/-!
# Numbers of units

The number in front of a unit is digits with one point at most among them. Of the places behind
the point eighteen are read, which is all of a nanosecond where the unit is a power of ten of it.
Minutes and hours are none: their product with the places that are read can fall short of a whole
nanosecond that the other places would have filled.
-/
namespace DnsBalancer.Duration

open Text

/-- The names of the units with their nanoseconds. -/
def units : List (List Char × Nat) :=
  [(['n', 's'], 1), (['u', 's'], 1000), (['µ', 's'], 1000), (['m', 's'], 1000000),
    (['s'], 1000000000), (['m'], 60000000000), (['h'], 3600000000000)]

theorem unitNanos?_eq_some_iff {name : List Char} {unit : Nat} :
    unitNanos? name = some unit ↔ (name, unit) ∈ units := by
  constructor
  · intro named
    unfold unitNanos? at named
    split at named <;> cases named <;> decide
  · intro listed
    simp only [units, List.mem_cons, Prod.mk.injEq, List.not_mem_nil, or_false] at listed
    rcases listed with ⟨rfl, rfl⟩ | ⟨rfl, rfl⟩ | ⟨rfl, rfl⟩ | ⟨rfl, rfl⟩ | ⟨rfl, rfl⟩ |
      ⟨rfl, rfl⟩ | ⟨rfl, rfl⟩ <;> rfl

/-- A number as it stands in front of a unit. -/
structure Numeral where
  whole : List Char
  /-- What stands behind the point, where there is one. -/
  behind : Option (List Char)
  digits : ∀ c ∈ whole ++ behind.getD [], c.isDigit = true
  nonempty : whole ++ behind.getD [] ≠ []

namespace Numeral

def fraction (n : Numeral) : List Char := n.behind.getD []

def toChars (n : Numeral) : List Char := n.whole ++ n.behind.elim [] ('.' :: ·)

def worth (n : Numeral) : ℚ := Decimal.value n.whole + Decimal.places n.fraction

/-- What the places that are read amount to. -/
def kept (n : Numeral) (unit : Nat) : ℚ := Decimal.places (n.fraction.take 18) * unit

/-- What the places that are not read amount to. -/
def lost (n : Numeral) (unit : Nat) : ℚ := Decimal.places (n.fraction.drop 18) * unit / 10 ^ 18

def scaled (n : Numeral) (unit : Nat) : Nat := Decimal.value n.whole * unit + ⌊n.kept unit⌋₊

variable {n : Numeral} {unit : Nat}

theorem isDigit_of_mem_whole {c : Char} (member : c ∈ n.whole) : c.isDigit = true :=
  n.digits c (List.mem_append_left _ member)

theorem isDigit_of_mem_fraction {c : Char} (member : c ∈ n.fraction) : c.isDigit = true :=
  n.digits c (List.mem_append_right _ member)

theorem ne_point {c : Char} (digit : c.isDigit = true) : c ≠ '.' := by
  rintro rfl
  cases digit

theorem isNumberChar_of_mem {c : Char} (member : c ∈ n.toChars) : isNumberChar c = true := by
  rw [isNumberChar, Bool.or_eq_true, beq_iff_eq]
  rcases List.mem_append.mp member with front | back
  · exact Or.inl (isDigit_of_mem_whole front)
  · cases behind : n.behind with
    | none => simp [behind] at back
    | some fraction =>
      rw [behind] at back
      rcases List.mem_cons.mp back with rfl | back
      · exact Or.inr rfl
      · exact Or.inl (isDigit_of_mem_fraction (by rwa [Numeral.fraction, behind]))

theorem toChars_ne_nil (n : Numeral) : n.toChars ≠ [] := by
  intro empty
  obtain ⟨front, back⟩ := List.append_eq_nil_iff.mp empty
  cases behind : n.behind with
  | none => exact n.nonempty (by simp [front, behind])
  | some fraction => simp [behind] at back

theorem takeWhile_whole (n : Numeral) : n.toChars.takeWhile (· != '.') = n.whole := by
  have plain : ∀ c ∈ n.whole, (c != '.') = true := fun c member => by
    simpa using ne_point (isDigit_of_mem_whole member)
  rw [toChars, List.takeWhile_append_of_pos plain]
  cases n.behind <;> simp

theorem dropWhile_whole (n : Numeral) :
    (n.toChars.dropWhile (· != '.')).drop 1 = n.fraction := by
  have plain : ∀ c ∈ n.whole, (c != '.') = true := fun c member => by
    simpa using ne_point (isDigit_of_mem_whole member)
  rw [toChars, List.dropWhile_append_of_pos plain, fraction]
  cases n.behind <;> simp

theorem floor_kept (n : Numeral) (unit : Nat) :
    ⌊n.kept unit⌋₊ = Decimal.value (n.fraction.take 18) * unit /
      Nat.pow 10 (n.fraction.take 18).length := by
  rw [← Nat.floor_div_eq_div (K := ℚ), kept, Decimal.places_eq]
  congr 1
  push_cast [Nat.pow_eq]
  ring

/-- A number is read as it is worth, but for the places that are not read. -/
theorem scaled?_toChars (n : Numeral) (unit : Nat) :
    scaled? n.toChars unit = some (n.scaled unit) := by
  have anything : ¬(n.whole.isEmpty && n.fraction.isEmpty) = true := by
    rw [Bool.and_eq_true, List.isEmpty_iff, List.isEmpty_iff, ← List.append_eq_nil_iff]
    exact n.nonempty
  have plain : (n.whole ++ n.fraction).all Char.isDigit = true :=
    List.all_eq_true.mpr n.digits
  simp only [scaled?, takeWhile_whole, dropWhile_whole]
  rw [if_neg anything, if_pos plain, scaled, floor_kept]

/-- No other text is read as a number. -/
theorem exists_of_scaled? {s : List Char} {v : Nat} (read : scaled? s unit = some v) :
    ∃ n : Numeral, n.toChars = s := by
  have whole := List.takeWhile_append_dropWhile (p := (· != '.')) (l := s)
  simp only [scaled?] at read
  split at read
  · cases read
  · rename_i anything
    split at read
    · rename_i plain
      cases point : s.dropWhile (· != '.') with
      | nil =>
        rw [point] at anything plain whole
        refine ⟨⟨s.takeWhile (· != '.'), none, List.all_eq_true.mp plain, ?_⟩, ?_⟩
        · simpa using anything
        · simpa [toChars] using whole
      | cons c fraction =>
        have last : c = '.' := by
          have stopped := List.head?_dropWhile_not (· != '.') s
          simpa [point] using stopped
        subst last
        rw [point] at anything plain whole
        refine ⟨⟨s.takeWhile (· != '.'), some fraction, List.all_eq_true.mp plain, ?_⟩, whole⟩
        simpa using anything
    · cases read

/-- The places that are read and the others make up the fraction. -/
theorem places_fraction (n : Numeral) :
    Decimal.places n.fraction =
      Decimal.places (n.fraction.take 18) + Decimal.places (n.fraction.drop 18) / 10 ^ 18 := by
  by_cases long : 18 ≤ n.fraction.length
  · have read : (n.fraction.take 18).length = 18 := List.length_take_of_le long
    conv_lhs => rw [← List.take_append_drop 18 n.fraction, Decimal.places_append, read]
  · have all : n.fraction.length ≤ 18 := by omega
    rw [List.take_of_length_le all, List.drop_of_length_le all, Decimal.places, zero_div, Rat.add_zero]

theorem worth_mul (n : Numeral) (unit : Nat) :
    n.worth * unit = ((Decimal.value n.whole * unit : ℕ) : ℚ) + (n.kept unit + n.lost unit) := by
  rw [worth, places_fraction, kept, lost]
  push_cast
  ring

theorem kept_nonneg (n : Numeral) (unit : Nat) : 0 ≤ n.kept unit :=
  mul_nonneg (Decimal.places_nonneg _) (Nat.cast_nonneg _)

theorem lost_nonneg (n : Numeral) (unit : Nat) : 0 ≤ n.lost unit :=
  div_nonneg (mul_nonneg (Decimal.places_nonneg _) (Nat.cast_nonneg _)) (by positivity)

/-- The places that are not read amount to less than one unit of the eighteenth. -/
theorem lost_lt (n : Numeral) (positive : 0 < unit) : n.lost unit < unit / 10 ^ 18 := by
  have below : Decimal.places (n.fraction.drop 18) < 1 :=
    Decimal.places_lt_one fun c member => isDigit_of_mem_fraction (List.mem_of_mem_drop member)
  have wide : (0 : ℚ) < unit := Nat.cast_pos.mpr positive
  rw [lost]
  gcongr
  exact mul_lt_of_lt_one_left wide below

/-- What is read and what a number is worth differ by what the parts of a nanosecond come to. -/
theorem floor_worth (n : Numeral) (unit : Nat) :
    ⌊n.worth * unit⌋₊ = n.scaled unit + ⌊Int.fract (n.kept unit) + n.lost unit⌋₊ := by
  have parts : n.worth * unit =
      (Int.fract (n.kept unit) + n.lost unit) + (n.scaled unit : ℕ) := by
    have split := Int.fract_add_floor (n.kept unit)
    rw [← natCast_floor_eq_intCast_floor (n.kept_nonneg unit)] at split
    rw [worth_mul, scaled]
    push_cast
    linarith
  rw [parts, Nat.floor_add_natCast (add_nonneg (Int.fract_nonneg _) (n.lost_nonneg unit)),
    Nat.add_comm]

/-- A product is read exactly when the places that are not read fill no further nanosecond. -/
theorem scaled_eq_floor_iff (n : Numeral) (unit : Nat) :
    n.scaled unit = ⌊n.worth * unit⌋₊ ↔ Int.fract (n.kept unit) + n.lost unit < 1 := by
  rw [floor_worth, Nat.left_eq_add, Nat.floor_eq_zero]

/-- The places that are not read fill less than one nanosecond of any unit. -/
theorem floor_worth_le (n : Numeral) (positive : 0 < unit) (small : unit ≤ 10 ^ 18) :
    ⌊n.worth * unit⌋₊ ≤ n.scaled unit + 1 := by
  have share : (unit : ℚ) / 10 ^ 18 ≤ 1 := by
    rw [div_le_one (by positivity)]
    exact_mod_cast small
  have below : Int.fract (n.kept unit) + n.lost unit < (1 + 1 : ℕ) := by
    have fract := Int.fract_lt_one (n.kept unit)
    have lost := n.lost_lt positive
    push_cast
    linarith
  have filled : ⌊Int.fract (n.kept unit) + n.lost unit⌋₊ < 1 + 1 :=
    (Nat.floor_lt (add_nonneg (Int.fract_nonneg _) (n.lost_nonneg unit))).mpr below
  rw [floor_worth]
  omega

theorem lost_of_short (n : Numeral) (short : n.fraction.length ≤ 18) : n.lost unit = 0 := by
  rw [lost, List.drop_of_length_le short, Decimal.places, zero_mul, zero_div]

theorem filled_of_short (n : Numeral) (short : n.fraction.length ≤ 18) :
    Int.fract (n.kept unit) + n.lost unit < 1 := by
  rw [lost_of_short n short, Rat.add_zero]
  exact Int.fract_lt_one _

/-- Where the unit divides `10 ^ 18`, eighteen places count in steps of which a whole number make a
nanosecond. The last step is as much as the other places stay below. -/
theorem filled_of_dvd (n : Numeral) (even : unit ∣ 10 ^ 18) :
    Int.fract (n.kept unit) + n.lost unit < 1 := by
  by_cases short : n.fraction.length ≤ 18
  · exact n.filled_of_short short
  · obtain ⟨steps, times⟩ := even
    have product : ((10 : ℚ) ^ 18) = unit * steps := by exact_mod_cast times
    have positive : 0 < unit := Nat.pos_of_ne_zero fun zero => by simp [zero] at times
    have some : 0 < steps := Nat.pos_of_ne_zero fun zero => by simp [zero] at times
    have wide : (0 : ℚ) < unit := Nat.cast_pos.mpr positive
    have many : (0 : ℚ) < steps := Nat.cast_pos.mpr some
    have read : (n.fraction.take 18).length = 18 := List.length_take_of_le (by omega)
    have counted : n.kept unit = (Decimal.value (n.fraction.take 18) : ℕ) / (steps : ℕ) := by
      rw [kept, Decimal.places_eq, read, product]
      field_simp
    have last : Decimal.value (n.fraction.take 18) % steps + 1 ≤ steps := Nat.mod_lt _ some
    have step : (unit : ℚ) / 10 ^ 18 = 1 / steps := by
      rw [product]
      field_simp
    have lost := n.lost_lt positive
    rw [step] at lost
    rw [counted, Int.fract_div_natCast_eq_div_natCast_mod]
    calc ((Decimal.value (n.fraction.take 18) % steps : ℕ) : ℚ) / steps + n.lost unit
        < (Decimal.value (n.fraction.take 18) % steps : ℕ) / steps + 1 / steps := by linarith
      _ = ((Decimal.value (n.fraction.take 18) % steps + 1 : ℕ) : ℚ) / steps := by
        push_cast
        ring
      _ ≤ 1 := (div_le_one many).mpr (Nat.cast_le.mpr last)

end Numeral

/-- No unit is longer than an hour, and all but the minute and the hour divide `10 ^ 18`. -/
theorem units_bounded : ∀ u ∈ units, 0 < u.2 ∧ u.2 ≤ 10 ^ 18 ∧
    (u.1 ≠ ['m'] ∧ u.1 ≠ ['h'] → u.2 ∣ 10 ^ 18) := by
  decide

/-- What is read in front of a unit is a numeral, and its product with the unit is read rounded
down to whole nanoseconds or one nanosecond less. It is one less just when the places after the
eighteenth fill a nanosecond that the others leave open, which takes such places and a unit of
minutes or hours. -/
theorem scaled?_rounds_down {name : List Char} {unit : Nat} (named : unitNanos? name = some unit) :
    (∀ s v, scaled? s unit = some v → ∃ n : Numeral, n.toChars = s) ∧
    ∀ n : Numeral, ∃ v, scaled? n.toChars unit = some v ∧
      v ≤ ⌊n.worth * unit⌋₊ ∧ ⌊n.worth * unit⌋₊ ≤ v + 1 ∧
      (v = ⌊n.worth * unit⌋₊ ↔ Int.fract (n.kept unit) + n.lost unit < 1) ∧
      (n.fraction.length ≤ 18 ∨ (name ≠ ['m'] ∧ name ≠ ['h']) → v = ⌊n.worth * unit⌋₊) := by
  obtain ⟨positive, small, even⟩ := units_bounded _ (unitNanos?_eq_some_iff.mp named)
  refine ⟨fun s v => Numeral.exists_of_scaled?, fun n => ⟨n.scaled unit, n.scaled?_toChars unit, ?_,
    n.floor_worth_le positive small, n.scaled_eq_floor_iff unit, ?_⟩⟩
  · rw [n.floor_worth]
    exact Nat.le_add_right _ _
  · rw [n.scaled_eq_floor_iff]
    rintro (short | other)
    · exact n.filled_of_short short
    · exact n.filled_of_dvd (even other)

/-- A row of nines behind the second nanosecond of a second. -/
def nines : Numeral where
  whole := ['1']
  behind := some "0000000019999999999999999".toList
  digits := List.all_eq_true.mp (by decide)
  nonempty := by decide

theorem scaled?_rounds_down_nines : nines.toChars = "1.0000000019999999999999999".toList ∧
    unitNanos? ['s'] = some 1000000000 ∧ (['s'] ≠ ['m'] ∧ ['s'] ≠ ['h']) ∧
    scaled? nines.toChars 1000000000 = some 1000000001 ∧
    1000000001 = ⌊nines.worth * (1000000000 : ℕ)⌋₊ := by
  have named : unitNanos? ['s'] = some 1000000000 := rfl
  have other : ['s'] ≠ ['m'] ∧ ['s'] ≠ ['h'] := by decide
  have number : scaled? nines.toChars 1000000000 = some 1000000001 := by decide
  obtain ⟨_, each⟩ := scaled?_rounds_down named
  obtain ⟨v, read, _, _, _, whole⟩ := each nines
  obtain rfl := Option.some.inj (number.symm.trans read)
  exact ⟨by decide, named, other, number, whole (Or.inr other)⟩

/-- A little more than the `3600000000000`th part of an hour. -/
def nanosecondOfHour : Numeral where
  whole := ['0']
  behind := some "0000000000002777777777777777777778".toList
  digits := List.all_eq_true.mp (by decide)
  nonempty := by decide

/-- The digits after the eighteenth make up for a whole nanosecond, and none is read. -/
theorem scaled?_loses_nanosecond :
    parse? "0.0000000000002777777777777777777778h" = some ⟨0⟩ ∧
    nanosecondOfHour.toChars = "0.0000000000002777777777777777777778".toList ∧
    unitNanos? ['h'] = some 3600000000000 ∧
    scaled? nanosecondOfHour.toChars 3600000000000 = some 0 ∧
    ⌊nanosecondOfHour.worth * (3600000000000 : ℕ)⌋₊ = 1 := by
  decide +kernel

end DnsBalancer.Duration
