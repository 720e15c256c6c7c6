import DnsBalancer.Text.Scientific
import DnsBalancer.Yaml.Value

/-!
# What plain scalars mean

The core schema: null, booleans, integers in four bases, decimals, infinities, and
text for all else. A row of digits with a leading zero is text.
-/
namespace DnsBalancer.Yaml

open Text

def isNullWord (s : String) : Bool :=
  s == "~" || s == "null" || s == "Null" || s == "NULL"

def boolWord? (s : String) : Option Bool :=
  if s == "true" || s == "True" || s == "TRUE" then some true
  else if s == "false" || s == "False" || s == "FALSE" then some false
  else none

/-- The digits behind an optional sign begin with a zero and are more than one. -/
def zeroLed (s : List Char) : Bool :=
  let ds := match s with
    | '+' :: rest => rest
    | '-' :: rest => rest
    | rest => rest
  1 < ds.length && ds.head? == some '0' && ds.all Char.isDigit

/-- The whole number behind the sign, in base sixteen, eight, two or ten. -/
def magnitude? : List Char → Option Nat
  | '0' :: 'x' :: ds => Decimal.readIn? 16 ds
  | '0' :: 'o' :: ds => Decimal.readIn? 8 ds
  | '0' :: 'b' :: ds => Decimal.readIn? 2 ds
  | ds => Decimal.read? ds

/-- An integer of any size up to 128 bits. -/
def integer? (s : List Char) : Option Int :=
  if zeroLed s then none
  else match s with
    | '-' :: ds => ((magnitude? ds).filter (· ≤ Nat.pow 2 127)).map fun n => -(n : Int)
    | '+' :: ds => ((magnitude? ds).filter (· < Nat.pow 2 128)).map Int.ofNat
    | ds => ((magnitude? ds).filter (· < Nat.pow 2 128)).map Int.ofNat

def infinity : Float := 1.0 / 0.0

/-- A finite decimal, or one of the words for infinity and for no number. -/
def float? (s : String) : Option Float :=
  let cs := s.toList
  let unsigned := if cs.head? == some '+' then cs.drop 1 else cs
  if cs.head? == some '+' && (unsigned.head? == some '+' || unsigned.head? == some '-') then none
  else
    let word := String.ofList unsigned
    if word == ".inf" || word == ".Inf" || word == ".INF" then some infinity
    else if s == "-.inf" || s == "-.Inf" || s == "-.INF" then some (-infinity)
    else if s == ".nan" || s == ".NaN" || s == ".NAN" then some (0.0 / 0.0)
    else ((Scientific.parse? unsigned).map Scientific.toFloat).filter Float.isFinite

/-- The integers that a value can hold. -/
def fitsValue (n : Int) : Bool :=
  -(Nat.pow 2 63 : Int) ≤ n && n < Nat.pow 2 64

/-- The value of a plain scalar; none for an integer out of range. -/
def plainValue? (s : String) : Option Value :=
  if s.isEmpty || isNullWord s then some .null
  else match boolWord? s with
    | some b => some (.bool b)
    | none =>
      match integer? s.toList with
      | some n => if fitsValue n then some (.number (.int n)) else none
      | none =>
        if zeroLed s.toList then some (.string s)
        else match float? s with
          | some x => some (.number (.float x))
          | none => some (.string s)

/-- The value of a scalar under one of the schema's own tags. -/
def taggedValue? (tag s : String) : Option Value :=
  if tag == "tag:yaml.org,2002:bool" then (boolWord? s).map .bool
  else if tag == "tag:yaml.org,2002:int" then
    ((integer? s.toList).filter fitsValue).map fun n => .number (.int n)
  else if tag == "tag:yaml.org,2002:float" then (float? s).map fun x => .number (.float x)
  else if tag == "tag:yaml.org,2002:null" then (if isNullWord s then some .null else none)
  else some (.string s)

end DnsBalancer.Yaml
