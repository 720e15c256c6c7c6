import DnsBalancer.Text.Decimal

/-!
# Numbers with a decimal point

Reads decimal numbers with an optional sign, fraction and power of ten, and rounds
them to the nearest double.
-/
namespace DnsBalancer.Text

/-- The number `mantissa * 10 ^ exponent`, or its negative. -/
structure Scientific where
  negative : Bool
  mantissa : Nat
  exponent : Int
  deriving DecidableEq, Repr

namespace Scientific

/-- Reads the power behind `e`; no text at all stands for zero. -/
def exponent? (s : List Char) : Option Int :=
  match s with
  | [] => some 0
  | e :: '-' :: ds =>
    if e == 'e' || e == 'E' then (Decimal.read? ds).map fun n => -(n : Int) else none
  | e :: '+' :: ds =>
    if e == 'e' || e == 'E' then (Decimal.read? ds).map Int.ofNat else none
  | e :: ds =>
    if e == 'e' || e == 'E' then (Decimal.read? ds).map Int.ofNat else none

def unsigned? (negative : Bool) (s : List Char) : Option Scientific :=
  let whole := s.takeWhile Char.isDigit
  let rest := s.dropWhile Char.isDigit
  let pointed := rest.head? == some '.'
  let fraction := if pointed then (rest.drop 1).takeWhile Char.isDigit else []
  let rest := if pointed then (rest.drop 1).dropWhile Char.isDigit else rest
  if whole.isEmpty && fraction.isEmpty then none
  else (exponent? rest).map fun e =>
    ⟨negative, Decimal.value (whole ++ fraction), e - fraction.length⟩

def parse? : List Char → Option Scientific
  | '-' :: s => unsigned? true s
  | '+' :: s => unsigned? false s
  | s => unsigned? false s

/-- The nearest double. Powers beyond the range of doubles are not computed. -/
def toFloat (x : Scientific) : Float :=
  let size := (Decimal.digits x.mantissa).length + x.exponent
  let magnitude : Float :=
    if x.mantissa = 0 || size < -400 then 0
    else if 400 < size then 1.0 / 0.0
    else Float.ofScientific x.mantissa (x.exponent < 0) x.exponent.natAbs
  if x.negative then -magnitude else magnitude

end Scientific

end DnsBalancer.Text
