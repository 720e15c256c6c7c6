import DnsBalancer.Yaml.Reader

/-!
# Fields of values

Takes typed data out of a value. Text comes from strings only and numbers from
numbers only, doubles also from integers; a list or mapping may be null and is then
empty; tags are looked through.
-/
namespace DnsBalancer.Yaml.Value

def text? (v : Value) : Option String :=
  match v.untagged with
  | .string s => some s
  | _ => none

def bool? (v : Value) : Option Bool :=
  match v.untagged with
  | .bool b => some b
  | _ => none

/-- A whole number between two bounds, both included. -/
def int? (low high : Int) (v : Value) : Option Int :=
  match v.untagged with
  | .number (.int n) => if low ≤ n && n ≤ high then some n else none
  | _ => none

/-- A whole number of at most `bits` bits. -/
def nat? (bits : Nat) (v : Value) : Option Nat :=
  (int? 0 (Nat.pow 2 bits - 1) v).map Int.toNat

/-- A whole number of `bits` bits, one of them for the sign. -/
def signed? (bits : Nat) (v : Value) : Option Int :=
  int? (-(Nat.pow 2 (bits - 1))) (Nat.pow 2 (bits - 1) - 1) v

def float? (v : Value) : Option Float :=
  match v.untagged with
  | .number (.int n) => some (Float.ofInt n)
  | .number (.float x) => some x
  | _ => none

def items? (v : Value) : Option (List Value) :=
  match v.untagged with
  | .sequence vs => some vs
  | .null => some []
  | _ => none

def list? {α : Type} (get : Value → Option α) (v : Value) : Option (List α) :=
  (items? v).bind (·.mapM get)

/-- A value that may be null. -/
def optional? {α : Type} (get : Value → Option α) (v : Value) : Option (Option α) :=
  match v with
  | .null => some none
  | v => (get v).map some

/-- The entries of a mapping whose keys are all strings. -/
def entries? (v : Value) : Option (List (String × Value)) :=
  match v.untagged with
  | .mapping es => es.mapM fun (k, v) => (text? k).map (·, v)
  | .null => some []
  | _ => none

/-- The fields of a mapping. None of the known ones may stand there twice. -/
def fields? (known : List String) (v : Value) : Option (List (String × Value)) :=
  (entries? v).filter fun es => known.all fun name => (es.filter (·.1 == name)).length ≤ 1

/-- A field that has to be there. -/
def required? {α : Type} (name : String) (get : Value → Option α) (es : List (String × Value)) :
    Option α :=
  (es.lookup name).bind get

/-- A field that may be left out. -/
def defaulted? {α : Type} (name : String) (default : α) (get : Value → Option α)
    (es : List (String × Value)) : Option α :=
  match es.lookup name with
  | some v => get v
  | none => some default

end DnsBalancer.Yaml.Value
