import DnsBalancer.Settings.Setting

/-!
# Names of settings

The name of a setting may be a path: names separated by points, and places of a list
in brackets. A table is merged into what is there, entry by entry; all else replaces it.
-/
namespace DnsBalancer.Setting

inductive Step where
  | name (s : String)
  /-- A place in a list. No list is asked for anywhere, so its number does not matter. -/
  | place
  deriving DecidableEq, Repr

def entries : Setting → List (String × Setting)
  | .table es => es
  | _ => []

mutual

/-- Sets one name of a table. -/
def assign (name : String) (value root : Setting) : Setting :=
  match value with
  | .table incoming =>
    .table (place name (assignAll incoming ((lookup name root.entries).getD (.table [])))
      root.entries)
  | value => .table (place name value root.entries)

def assignAll : List (String × Setting) → Setting → Setting
  | [], root => root
  | (name, value) :: rest, root => assignAll rest (assign name value root)

end

/-- Sets what a path leads to, making the tables on the way. -/
def assignPath : List Step → Setting → Setting → Setting
  | [], value, _ => value
  | [.name s], value, root => assign s value root
  | .name s :: rest, value, root =>
    .table (place s (assignPath rest value ((lookup s root.entries).getD .nothing)) root.entries)
  | .place :: _, _, _ => .list []

def isNameChar (c : Char) : Bool :=
  c.isAlphanum || c == ' ' || c == '_' || c == '-'

/-- Passes the number of a place and the closing bracket. Blanks may stand around the
number, and a sign before it. -/
def afterPlace? (s : List Char) : Option (List Char) :=
  let isBlank (c : Char) : Bool := c == ' ' || c == '\t'
  let (sign, s) := match s.dropWhile isBlank with
    | '-' :: rest => (['-'], rest)
    | rest => ([], rest)
  if (Text.Decimal.readSigned? 10 64 (sign ++ s.takeWhile Char.isDigit)).isNone then none
  else match (s.dropWhile Char.isDigit).dropWhile isBlank with
    | ']' :: rest => some rest
    | _ => none

/-- What follows the first name: names behind points, and places in brackets. -/
def steps? (fuel : Nat) (s : List Char) : Option (List Step) :=
  match fuel, s with
  | _, [] => some []
  | 0, _ => none
  | fuel + 1, '.' :: cs =>
    let name := cs.takeWhile isNameChar
    if name.isEmpty then none
    else (steps? fuel (cs.dropWhile isNameChar)).map (.name (String.ofList name) :: ·)
  | fuel + 1, '[' :: cs =>
    match afterPlace? cs with
    | some rest => (steps? fuel rest).map (.place :: ·)
    | none => none
  | _, _ => none

/-- The path a name stands for. What is no path is one name. -/
def path (key : String) : List Step :=
  let cs := key.toList
  let name := cs.takeWhile isNameChar
  match steps? cs.length (cs.dropWhile isNameChar) with
  | some rest => if name.isEmpty then [.name key] else .name (String.ofList name) :: rest
  | none => [.name key]

/-- Adds settings to those there are, name by name. -/
def overlay (root : Setting) (es : List (String × Setting)) : Setting :=
  es.foldl (fun root (key, value) => assignPath (path key) value root) root

end DnsBalancer.Setting
