/-!
# Data in a database file

A datum is text, a number, or a collection. A shape says what is expected at a place:
in a record every field may be missing, and fields nobody asked for are passed over.
-/
namespace DnsBalancer

inductive Datum where
  | text (s : String)
  | bytes (b : ByteArray)
  /-- A whole number without a sign, of up to eight bytes. -/
  | natural (n : Nat)
  /-- A whole number of four bytes with its sign. -/
  | signed (n : Int)
  /-- A whole number of up to sixteen bytes. No field takes one. -/
  | huge (n : Nat)
  | real (x : Float)
  | flag (b : Bool)
  | list (items : List Datum)
  /-- Texts by text, the latest first. -/
  | texts (entries : List (String × String))
  /-- The fields that were asked for and stand there. -/
  | record (fields : List (String × Datum))
  /-- What nobody asked for. -/
  | passed
  deriving Inhabited

inductive Shape where
  | text
  | flag
  /-- A whole number from zero on, of so many bits. -/
  | natural (bits : Nat)
  | real
  /-- Texts by text. -/
  | texts
  | list (item : Shape)
  | record (fields : List (String × Shape))
  /-- Anything at all. -/
  | any
  /-- The key of an entry. -/
  | key
  deriving Inhabited

namespace Datum

/-- Text, also where it stands as plain bytes. -/
def text? : Datum → Option String
  | .text s => some s
  | .bytes b => String.fromUTF8? b
  | _ => none

def natural? (bits : Nat) : Datum → Option Nat
  | .natural n => if n < Nat.pow 2 bits then some n else none
  | .signed n => if 0 ≤ n ∧ n < Nat.pow 2 bits then some n.toNat else none
  | _ => none

/-- A number, whole ones included. -/
def real? : Datum → Option Float
  | .real x => some x
  | .natural n => some (Float.ofNat n)
  | .signed n => some (Float.ofInt n)
  | _ => none

def texts? : Datum → Option (List (String × String))
  | .texts es => some es
  | _ => none

/-- The field of a record. -/
def field? (name : String) : Datum → Option Datum
  | .record es => es.lookup name
  | _ => none

end Datum

namespace Shape

/-- A single datum as the shape takes it; none where it does not fit. -/
def accept? : Shape → Datum → Option Datum
  | .text, d => d.text?.map .text
  | .flag, .flag b => some (.flag b)
  | .natural bits, d => (d.natural? bits).map .natural
  | .real, d => d.real?.map .real
  | .any, _ => some .passed
  | .key, .text s => some (.text s)
  | .key, .bytes b => some (.bytes b)
  | .key, .natural n => some (.natural n)
  | _, _ => none

/-- The field that a key stands for, by its name or by its number. -/
def fieldOf? (fields : List (String × Shape)) : Datum → Option (String × Shape)
  | .natural n => fields[n]?
  | d => d.text?.bind fun name => fields.find? (·.1 == name)

end Shape

end DnsBalancer
