import DnsBalancer.Duration.Text
import DnsBalancer.Text.Scientific
import DnsBalancer.Text.Binary64

/-!
# Settings as they are written

A setting keeps the kind in which it was written and gives way to the kind that is
asked for: numbers and switches may be written as text, and text as a number.
-/
namespace DnsBalancer

open Text

inductive Setting where
  | nothing
  | flag (b : Bool)
  | whole (n : Int)
  | real (x : Float)
  | text (s : String)
  | list (items : List Setting)
  | table (entries : List (String × Setting))
  deriving Repr, Inhabited

namespace Setting

def lookup (name : String) : List (String × Setting) → Option Setting
  | [] => none
  | (n, s) :: rest => if n = name then some s else lookup name rest

/-- Gives `name` a value, in the place of any it had. -/
def place {α : Type} (name : String) (a : α) : List (String × α) → List (String × α)
  | [] => [(name, a)]
  | (n, b) :: rest => if n = name then (name, a) :: rest else (n, b) :: place name a rest

/-- The number a text stands for: a word or digits. -/
def naturalText? (s : String) : Option Nat :=
  let word := asciiLower s
  if word == "true" || word == "on" || word == "yes" then some 1
  else if word == "false" || word == "off" || word == "no" then some 0
  else Decimal.readUnsigned? 10 (Nat.pow 2 64 - 1) s.toList

/-- The nearest whole number within 64 bits, a half away from zero. -/
def roundReal (x : Float) : Nat := x.round.toUInt64.toNat

/-- A whole number from zero on. Only its lowest `bits` bits are kept. -/
def natural? (bits : Nat) : Setting → Option Nat
  | .whole n => if 0 ≤ n then some (n.toNat % Nat.pow 2 bits) else none
  | .flag b => some (if b then 1 else 0)
  | .real x => some (roundReal x % Nat.pow 2 bits)
  | .text s => (naturalText? s).map (· % Nat.pow 2 bits)
  | _ => none

def flag? : Setting → Option Bool
  | .flag b => some b
  | .whole n => some (n != 0)
  | .real x => some (x != 0.0)
  | .text s =>
    let word := asciiLower s
    if ["1", "true", "on", "yes"].contains word then some true
    else if ["0", "false", "off", "no"].contains word then some false
    else none
  | _ => none

def text? : Setting → Option String
  | .text s => some s
  | .flag b => some (if b then "true" else "false")
  | .whole n => some (Decimal.renderInt n)
  | .real x => some (plain x)
  | _ => none

/-- A setting that may be nothing. -/
def optional? {α : Type} (get : Setting → Option α) : Setting → Option (Option α)
  | .nothing => some none
  | s => (get s).map some

def table? : Setting → Option (List (String × Setting))
  | .table es => some es
  | _ => none

/-- A whole number of seconds, or the text of a duration. -/
def duration? : Setting → Option Duration
  | .whole n => if 0 ≤ n then some (.ofSeconds n.toNat) else none
  | .text s => Duration.parse? s
  | _ => none

/-- An entry of a table, or what is taken where there is none. -/
def entry? {α : Type} (name : String) (default : α) (get : Setting → Option α)
    (es : List (String × Setting)) : Option α :=
  match lookup name es with
  | some s => get s
  | none => some default

/-- Infinity, and what is no number, in any letter case and with a sign. -/
def realWord? (s : String) : Option Float :=
  let (negative, word) := match (asciiLower s).toList with
    | '-' :: cs => (true, String.ofList cs)
    | '+' :: cs => (false, String.ofList cs)
    | cs => (false, String.ofList cs)
  let sign (x : Float) : Float := if negative then -x else x
  if word == "inf" || word == "infinity" then some (sign (1.0 / 0.0))
  else if word == "nan" then some (sign (0.0 / 0.0))
  else none

/-- A number with or without a point, or a word for one. -/
def realText? (s : String) : Option Float :=
  match Scientific.parse? s.toList with
  | some x => some x.toFloat
  | none => realWord? s

/-- What a text from the environment means: a switch, a number, or itself. -/
def ofEnvironment (s : String) : Setting :=
  let word := asciiLower s
  if word == "true" then .flag true
  else if word == "false" then .flag false
  else match Decimal.readSigned? 10 64 s.toList with
    | some n => .whole n
    | none =>
      match realText? s with
      | some x => .real x
      | none => .text s

end Setting

end DnsBalancer
