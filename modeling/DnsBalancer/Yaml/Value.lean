import DnsBalancer.Text.Binary64
import DnsBalancer.Text.Quoted

/-!
# YAML values

A value is what a node means once tags and plain scalars are resolved. Two numbers
are equal when they are of one kind and compare equal; two mappings are equal when
they hold the same entries in any order.
-/
namespace DnsBalancer.Yaml

open Text

inductive Number where
  | int (n : Int)
  | float (x : Float)
  deriving Repr, Inhabited

inductive Value where
  | null
  | bool (b : Bool)
  | number (n : Number)
  | string (s : String)
  | sequence (items : List Value)
  | mapping (entries : List (Value × Value))
  | tagged (tag : String) (value : Value)
  deriving Repr, Inhabited

/-- Integers are equal to integers only; a double that is no number equals itself. -/
def Number.same : Number → Number → Bool
  | .int a, .int b => a == b
  | .float a, .float b => a == b || (a.isNaN && b.isNaN)
  | _, _ => false

mutual

/-- Whether two values are equal. -/
def Value.same : Value → Value → Bool
  | .null, .null => true
  | .bool a, .bool b => a == b
  | .number a, .number b => a.same b
  | .string a, .string b => a == b
  | .sequence a, .sequence b => sameItems a b
  | .mapping a, .mapping b => a.length == b.length && entriesWithin a b
  | .tagged s a, .tagged t b => s == t && a.same b
  | _, _ => false
termination_by structural a => a

def sameItems : List Value → List Value → Bool
  | [], [] => true
  | a :: as, b :: bs => a.same b && sameItems as bs
  | _, _ => false
termination_by structural a => a

/-- Every entry of the first mapping is one of the second. -/
def entriesWithin : List (Value × Value) → List (Value × Value) → Bool
  | [], _ => true
  | (k, v) :: rest, b => b.any (fun e => k.same e.1 && v.same e.2) && entriesWithin rest b
termination_by structural a => a

end

/-- The value under a text key. -/
def lookup (key : String) : List (Value × Value) → Option Value
  | [] => none
  | (.string k, v) :: rest => if k == key then some v else lookup key rest
  | _ :: rest => lookup key rest

/-- Gives `key` a new value where it stands, or appends it. -/
def insert (key value : Value) : List (Value × Value) → List (Value × Value)
  | [] => [(key, value)]
  | (k, v) :: rest =>
    if k.same key then (k, value) :: rest else (k, v) :: insert key value rest

/-- The value below all tags. -/
def Value.untagged : Value → Value
  | .tagged _ v => v.untagged
  | v => v

def Number.render : Number → String
  | .int n => Decimal.renderInt n
  | .float x =>
    match Binary64.ofFloat x with
    | .nan => ".nan"
    | .infinite negative => if negative then "-.inf" else ".inf"
    | .finite negative d => (if negative then "-" else "") ++ String.ofList d.compact

mutual

/-- A value with the names of its kinds, as messages show it. -/
def Value.describe : Value → String
  | .null => "Null"
  | .bool b => "Bool(" ++ (if b then "true" else "false") ++ ")"
  | .number n => "Number(" ++ n.render ++ ")"
  | .string s => "String(" ++ quoted s ++ ")"
  | .sequence items => "Sequence [" ++ ", ".intercalate (describeItems items) ++ "]"
  | .mapping entries => "Mapping \x7b" ++ ", ".intercalate (describeEntries entries) ++ "\x7d"
  | .tagged tag v => "TaggedValue \x7b tag: !" ++ tag ++ ", value: " ++ v.describe ++ " \x7d"

def describeItems : List Value → List String
  | [] => []
  | v :: rest => v.describe :: describeItems rest

def describeEntries : List (Value × Value) → List String
  | [] => []
  | (k, v) :: rest =>
    let key := match k with
      | .bool b => if b then "true" else "false"
      | .number n => n.render
      | .string s => quoted s
      | other => other.describe
    (key ++ ": " ++ v.describe) :: describeEntries rest

end

end DnsBalancer.Yaml
