import DnsBalancer.Text.Decimal

/-!
# Doubles as exact fractions

A finite double is a whole number times a power of two. Its decimal expansion is
rounded to a fixed number of places, a half going to the even neighbour, or cut to
the fewest digits that still read back as the same double.
-/
namespace DnsBalancer.Text

/-- The magnitude `mantissa * 2 ^ exponent` of a finite double. -/
structure Dyadic where
  mantissa : Nat
  exponent : Int
  deriving DecidableEq, Repr

inductive Binary64 where
  | finite (negative : Bool) (magnitude : Dyadic)
  | infinite (negative : Bool)
  | nan
  deriving DecidableEq, Repr

/-- Takes the bits of a double apart. -/
def Binary64.ofBits (bits : Nat) : Binary64 :=
  let negative : Bool := bits / Nat.pow 2 63 % 2 == 1
  let power : Nat := bits / Nat.pow 2 52 % 2048
  let fraction := bits % Nat.pow 2 52
  if power = 2047 then (if fraction = 0 then .infinite negative else .nan)
  else if power = 0 then .finite negative ⟨fraction, -1074⟩
  else .finite negative ⟨Nat.pow 2 52 + fraction, (power : Int) - 1075⟩

def Binary64.ofFloat (x : Float) : Binary64 := .ofBits x.toBits.toNat

/-- The quotient rounded to the nearest whole number, a half to the even one. -/
def roundHalfEven (num den : Nat) : Nat :=
  let q := num / den
  let r := num % den
  if 2 * r < den || (2 * r = den && q % 2 = 0) then q else q + 1

/-- Numerator and denominator. -/
def Dyadic.fraction (d : Dyadic) : Nat × Nat :=
  if 0 ≤ d.exponent then (d.mantissa * Nat.pow 2 d.exponent.toNat, 1)
  else (d.mantissa, Nat.pow 2 (-d.exponent).toNat)

/-- A whole number of units of the last of `places` decimal places, as text. -/
def placeText (places units : Nat) : List Char :=
  let ds := Decimal.digits units
  let ds := List.replicate (places + 1 - ds.length) '0' ++ ds
  ds.take (ds.length - places) ++ '.' :: ds.drop (ds.length - places)

/-- A double with exactly `places` decimal places. -/
def fixed (places : Nat) (x : Float) : String :=
  match Binary64.ofFloat x with
  | .nan => "NaN"
  | .infinite negative => if negative then "-inf" else "inf"
  | .finite negative d =>
    let (num, den) := d.fraction
    String.ofList
      ((if negative then ['-'] else []) ++
        placeText places (roundHalfEven (num * Nat.pow 10 places) den))

/-- The digits and the power of ten of a decimal number: `digits * 10 ^ power`. -/
structure Shortest where
  digits : Nat
  power : Int
  deriving DecidableEq, Repr

/-- Whether the decimal `n * 10 ^ power` lies in the interval that rounds to the
double: half a step around it, ends included for an even mantissa, and the lower half
step halved where the power of two changes. -/
def Dyadic.rounds (d : Dyadic) (n : Nat) (power : Int) : Bool :=
  let low := if d.mantissa = Nat.pow 2 52 && -1074 < d.exponent then 1 else 2
  -- in units of a quarter of the double's last place
  let scaleTwo : Int := d.exponent - 2
  let value := n * (if 0 ≤ power then Nat.pow 10 power.toNat else 1) *
    (if 0 ≤ scaleTwo then 1 else Nat.pow 2 (-scaleTwo).toNat)
  let unit := (if 0 ≤ power then 1 else Nat.pow 10 (-power).toNat) *
    (if 0 ≤ scaleTwo then Nat.pow 2 scaleTwo.toNat else 1)
  let lower := (4 * d.mantissa - low) * unit
  let upper := (4 * d.mantissa + 2) * unit
  if d.mantissa % 2 = 0 then lower ≤ value && value ≤ upper
  else lower < value && value < upper

/-- The decimal neighbours of the double on the grid of `10 ^ power` that round to it,
the nearer first. -/
def Dyadic.onGrid? (d : Dyadic) (power : Int) : Option Nat :=
  let (num, den) := d.fraction
  let num := if power < 0 then num * Nat.pow 10 (-power).toNat else num
  let den := if power < 0 then den else den * Nat.pow 10 power.toNat
  let below := num / den
  let near := if 2 * (num % den) < den || (2 * (num % den) = den && below % 2 = 0)
    then below else below + 1
  let far := if near = below then below + 1 else below
  if d.rounds near power then some near
  else if d.rounds far power then some far
  else none

/-- Tries grids from coarse to fine. -/
def Dyadic.search (d : Dyadic) : Nat → Int → Shortest
  | 0, power => ⟨0, power⟩
  | fuel + 1, power =>
    match d.onGrid? power with
    | some n => if n = 0 then d.search fuel (power - 1) else ⟨n, power⟩
    | none => d.search fuel (power - 1)

/-- Drops zeros at the end of the digits. -/
def Shortest.trim (fuel : Nat) (s : Shortest) : Shortest :=
  match fuel with
  | 0 => s
  | fuel + 1 =>
    if s.digits ≠ 0 && s.digits % 10 = 0 then Shortest.trim fuel ⟨s.digits / 10, s.power + 1⟩ else s

/-- The fewest decimal digits that read back as the double, the nearest such. -/
def Dyadic.shortest (d : Dyadic) : Shortest :=
  if d.mantissa = 0 then ⟨0, 0⟩
  else
    let (num, den) := d.fraction
    let size := (Decimal.digits (num / den)).length
    let zeros : Int := if num / den = 0 then (Decimal.digits (den / num)).length else 0
    let top : Int := if num / den = 0 then 1 - zeros else size
    Shortest.trim 400 (d.search 40 top)

/-- The digits placed around the decimal point, without a power of ten. -/
def Shortest.positional (s : Shortest) : List Char :=
  if 0 ≤ s.power then Decimal.digits (s.digits * Nat.pow 10 s.power.toNat)
  else placeText (-s.power).toNat s.digits

/-- A double in the fewest digits that read back, written without a power of ten. -/
def plain (x : Float) : String :=
  match Binary64.ofFloat x with
  | .nan => "NaN"
  | .infinite negative => if negative then "-inf" else "inf"
  | .finite negative d =>
    String.ofList ((if negative then ['-'] else []) ++ d.shortest.positional)

/-- The digits with a power of ten behind them: `1e-7`, `1.5e20`. -/
def Shortest.scientific (s : Shortest) : List Char :=
  let ds := Decimal.digits s.digits
  let power := s.power + (ds.length - 1 : Nat)
  let mantissa := if ds.length = 1 then ds else ds.take 1 ++ '.' :: ds.drop 1
  mantissa ++ 'e' :: (Decimal.renderInt power).toList

/-- A finite magnitude in the fewest digits that read back: positional from 1e-5 up to
1e16 and then always with a point, with a power of ten elsewhere. -/
def Dyadic.compact (d : Dyadic) : List Char :=
  let s := d.shortest
  let point := s.power + (Decimal.digits s.digits).length
  if s.digits = 0 then ['0', '.', '0']
  else if -5 < point && point ≤ 16 then
    if 0 ≤ s.power then s.positional ++ ['.', '0'] else s.positional
  else s.scientific

end DnsBalancer.Text
