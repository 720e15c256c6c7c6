import DnsBalancer.Duration
import DnsBalancer.Text.Blank
import DnsBalancer.Text.Decimal

/-!
# Durations as text

A duration is written as a bare number of seconds, or as one or more terms of a
number and a unit: `500ms`, `1.5s`, `1h30m`. Writing picks the largest unit that
divides the duration.
-/
namespace DnsBalancer.Duration

open Text

/-- Nanoseconds in one of the named unit. -/
def unitNanos? : List Char → Option Nat
  | ['n', 's'] => some 1
  | ['u', 's'] => some 1000
  | ['µ', 's'] => some 1000
  | ['m', 's'] => some 1000000
  | ['s'] => some 1000000000
  | ['m'] => some 60000000000
  | ['h'] => some 3600000000000
  | _ => none

def isNumberChar (c : Char) : Bool :=
  c.isDigit || c == '.'

/-- `number` (`12`, `1.5`, `.25`) times `unit`, rounded down. Decimal places after
the eighteenth are not read. -/
def scaled? (number : List Char) (unit : Nat) : Option Nat :=
  let whole := number.takeWhile (· != '.')
  let fraction := (number.dropWhile (· != '.')).drop 1
  if whole.isEmpty && fraction.isEmpty then none
  else if (whole ++ fraction).all Char.isDigit then
    let kept := fraction.take 18
    some (Decimal.value whole * unit + Decimal.value kept * unit / Nat.pow 10 kept.length)
  else none

theorem length_dropWhile_le {α : Type} (p : α → Bool) (s : List α) :
    (s.dropWhile p).length ≤ s.length := by
  induction s with
  | nil => simp
  | cons a s ih =>
    rw [List.dropWhile_cons]
    split
    · simp only [List.length_cons]; omega
    · exact Nat.le_refl _

/-- What follows the first term is shorter than the whole. -/
theorem length_after_term_lt (c : Char) (cs : List Char) :
    ((((c :: cs).dropWhile isNumberChar)).dropWhile (!isNumberChar ·)).length
      < (c :: cs).length := by
  by_cases h : isNumberChar c = true
  · rw [List.dropWhile_cons_of_pos h]
    have h₁ := length_dropWhile_le (!isNumberChar ·) (cs.dropWhile isNumberChar)
    have h₂ := length_dropWhile_le isNumberChar cs
    simp only [List.length_cons]
    omega
  · rw [List.dropWhile_cons_of_neg h, List.dropWhile_cons_of_pos (by simpa using h)]
    have := length_dropWhile_le (!isNumberChar ·) cs
    simp only [List.length_cons]
    omega

/-- The sum of a row of terms, each a number followed by its unit. -/
def termsNanos? : List Char → Option Nat
  | [] => some 0
  | c :: cs =>
    let number := (c :: cs).takeWhile isNumberChar
    let tail := (c :: cs).dropWhile isNumberChar
    match unitNanos? (tail.takeWhile (!isNumberChar ·)) with
    | none => none
    | some unit =>
      match scaled? number unit, termsNanos? (tail.dropWhile (!isNumberChar ·)) with
      | some term, some rest => some (term + rest)
      | _, _ => none
termination_by s => s.length
decreasing_by exact length_after_term_lt c cs

/-- Reads the text of a duration that carries no blanks at its ends. -/
def ofChars? (s : List Char) : Option Duration :=
  if s.isEmpty then none
  else if s.all Char.isDigit then
    if Decimal.value s < Nat.pow 2 64 then some (ofSeconds (Decimal.value s)) else none
  else
    match termsNanos? s with
    | some n => if n < Nat.pow 2 64 then some ⟨n⟩ else none
    | none => none

/-- Reads a duration, whatever blanks surround it. -/
def parse? (s : String) : Option Duration :=
  ofChars? (trimBlank s.toList)

/-- The digits and the unit that a duration is written with. -/
def toChars (d : Duration) : List Char :=
  let secs := d.nanos / 1000000000
  if d.nanos % 1000000 ≠ 0 then Decimal.digits d.nanos ++ ['n', 's']
  else if d.nanos / 1000000 % 1000 ≠ 0 then Decimal.digits (d.nanos / 1000000) ++ ['m', 's']
  else if secs ≠ 0 ∧ secs % 3600 = 0 then Decimal.digits (secs / 3600) ++ ['h']
  else if secs ≠ 0 ∧ secs % 60 = 0 then Decimal.digits (secs / 60) ++ ['m']
  else Decimal.digits secs ++ ['s']

def format (d : Duration) : String :=
  String.ofList d.toChars

end DnsBalancer.Duration
