import DnsBalancer.Duration.Setting
import DnsBalancer.Proofs.Duration.Terms

/-!
# Writing durations and reading them back

A duration is written as one term whose unit divides it. Terms are read up to `2 ^ 64 - 1`
nanoseconds, but a number of seconds without a unit is read up to `2 ^ 64 - 1` seconds: the
settings take durations that no reader takes back in the form they are written in.
-/
namespace DnsBalancer.Duration

open Text

/-- A whole number in its shortest form. -/
def Numeral.ofNat (n : Nat) : Numeral where
  whole := Decimal.digits n
  behind := none
  digits := fun c member => Decimal.isDigit_of_mem_digits (n := n) (by simpa using member)
  nonempty := by simpa using Decimal.digits_ne_nil n

theorem Numeral.scaled_ofNat (n unit : Nat) : (ofNat n).scaled unit = n * unit := by
  have exact : (ofNat n).kept unit = 0 := by
    rw [kept]
    exact zero_mul _
  rw [scaled, exact, Nat.floor_zero, Nat.add_zero]
  exact congrArg (· * unit) (Decimal.value_digits n)

/-- The unit that a duration is written in divides it. -/
theorem exists_toChars (d : Duration) :
    ∃ t : Term, d.toChars = Term.text [t] ∧ Term.total [t] = d.nanos := by
  suffices written : ∃ n name unit, (name, unit) ∈ units ∧
      d.toChars = Decimal.digits n ++ name ∧ n * unit = d.nanos by
    obtain ⟨n, name, unit, listed, text, exact⟩ := written
    refine ⟨⟨.ofNat n, name, unit, listed⟩, ?_, ?_⟩
    · rw [text]
      simp [Numeral.toChars, Numeral.ofNat]
    · rw [Term.total_cons, Term.nanos, Numeral.scaled_ofNat, Term.total_nil, exact, Nat.add_zero]
  rw [toChars]
  split
  · exact ⟨_, ['n', 's'], 1, by decide, rfl, Nat.mul_one _⟩
  · split
    · exact ⟨_, ['m', 's'], 1000000, by decide, rfl, by omega⟩
    · split
      · exact ⟨_, ['h'], 3600000000000, by decide, rfl, by omega⟩
      · split
        · exact ⟨_, ['m'], 60000000000, by decide, rfl, by omega⟩
        · exact ⟨_, ['s'], 1000000000, by decide, rfl, by omega⟩

/-- Below `2 ^ 64` nanoseconds a duration is read back from what is written for it, and from there
on nothing is. -/
theorem parse?_toChars (d : Duration) :
    parse? d.format = if d.nanos < 2 ^ 64 then some d else none := by
  obtain ⟨t, text, total⟩ := exists_toChars d
  have written : d.format.toList = Term.text [t] := by rw [format, String.toList_ofList, text]
  rw [parse?_text (List.cons_ne_nil t []) written, total]

theorem nanos_lt_of_compound {s : String} {d : Duration} (compound : Compound s)
    (read : parse? s = some d) : d.nanos < 2 ^ 64 := by
  obtain ⟨ts, nonempty, text⟩ := compound
  rw [total_of_parse? nonempty text read]
  rw [parse?_text nonempty text] at read
  exact (Option.ite_none_right_eq_some.mp read).1

/-- What is written for a duration is read back as it was exactly when it is shorter than `2 ^ 64`
nanoseconds. A setting of terms always is; one of bare seconds is up to `18446744073` of them,
though the settings take more. -/
theorem parse?_format (d : Duration) :
    parse? d.format = (if d.nanos < 2 ^ 64 then some d else none) ∧
    (∀ v, ofValue? v = some d → (ofValue? (.string d.format) = some d ↔ d.nanos < 2 ^ 64)) ∧
    (∀ s, Compound s → ofValue? (.string s) = some d → ofValue? (.string d.format) = some d) ∧
    ∀ n, ofValue? (.number (.int n)) = some d →
      (ofValue? (.string d.format) = some d ↔ n ≤ 18446744073) := by
  have back : ofValue? (.string d.format) = some d ↔ d.nanos < 2 ^ 64 := by
    rw [ofValue?, parse?_toChars]
    exact Option.ite_none_right_eq_some.trans (and_iff_left rfl)
  refine ⟨parse?_toChars d, fun v _ => back, fun s compound read => ?_, fun n read => ?_⟩
  · exact back.mpr (nanos_lt_of_compound compound read)
  · rw [back]
    rw [ofValue?] at read
    obtain ⟨range, seconds⟩ := Option.ite_none_right_eq_some.mp read
    obtain rfl := Option.some.inj seconds
    rw [Bool.and_eq_true, decide_eq_true_eq] at range
    change n.toNat * 1000000000 < 2 ^ 64 ↔ n ≤ 18446744073
    omega

theorem parse?_format_longest :
    ofValue? (.string "5124095.5h") = some ⟨18446743800000000000⟩ ∧ Compound "5124095.5h" ∧
    ofValue? (.string (Duration.format ⟨18446743800000000000⟩)) =
      some ⟨18446743800000000000⟩ ∧
    ofValue? (.number (.int 18446744073)) = some ⟨18446744073000000000⟩ ∧
    ofValue? (.string (Duration.format ⟨18446744073000000000⟩)) =
      some ⟨18446744073000000000⟩ := by
  have hours : Compound "5124095.5h" :=
    ⟨[⟨⟨"5124095".toList, some ['5'], List.all_eq_true.mp (by decide), by decide⟩, ['h'],
      3600000000000, by decide⟩], by decide, by decide⟩
  have text : ofValue? (.string "5124095.5h") = some ⟨18446743800000000000⟩ := by
    decide +kernel
  have number : ofValue? (.number (.int 18446744073)) = some ⟨18446744073000000000⟩ := by
    decide
  obtain ⟨_, _, terms, _⟩ := parse?_format ⟨18446743800000000000⟩
  obtain ⟨_, _, _, bare⟩ := parse?_format ⟨18446744073000000000⟩
  exact ⟨text, hours, terms _ hours text, number, (bare _ number).mpr (by decide)⟩

/-- The longest number of seconds that a setting takes is written as a text that no setting
takes. -/
theorem format_not_read :
    ofValue? (.number (.int 18446744073709551615)) = some (ofSeconds 18446744073709551615) ∧
    ofSeconds 18446744073709551615 ≤ longest ∧
    (ofSeconds 18446744073709551615).format = "18446744073709551615s" ∧
    parse? "18446744073709551615s" = none := by
  decide +kernel

end DnsBalancer.Duration
