import DnsBalancer.Yaml.Node.OfTokens
import DnsBalancer.Yaml.Scalar

/-!
# Reading documents

Two ways lead from a document to data. Fields of a known shape are read from the
nodes: there any scalar is text by what is written, and a place left empty is an
empty list or mapping. Free-form parts are read as values, in which plain scalars
are resolved. Both follow references, and both refuse a document that nests too
deep or follows too many references.
-/
namespace DnsBalancer.Yaml

/-- Reads from a document; the state counts the references that may still be
followed. -/
abbrev Read := ReaderT Document (StateT Nat Option)

/-- Collections may nest this deep. -/
def nestingLimit : Nat := 128

namespace Read

def refuse {α : Type} : Read α := fun _ _ => none

def ofOption {α : Type} : Option α → Read α
  | some a => pure a
  | none => refuse

/-- The node that a reference stands for. -/
def follow (n : Node) : Read Node := do
  match n with
  | .reference anchor =>
    match ← get with
    | 0 => refuse
    | left + 1 =>
      set left
      ofOption (← read).anchors[anchor]?
  | other => return other

/-- The text of a scalar, however it was written. -/
def text (n : Node) : Read String := do
  match ← follow n with
  | .scalar _ _ s => return s
  | _ => refuse

def isBare : Node → Bool
  | .scalar _ .plain "" => true
  | _ => false

/-- The items of a sequence; an empty place has none. -/
def items (n : Node) : Read (List Node) := do
  match ← follow n with
  | .sequence _ ns => return ns
  | other => if isBare other then return [] else refuse

/-- The entries of a mapping; an empty place has none. -/
def entries (n : Node) : Read (List (Node × Node)) := do
  match ← follow n with
  | .mapping _ es => return es
  | other => if isBare other then return [] else refuse

/-- The entries of a mapping whose keys are scalars, by the text of the keys. -/
def textEntries (n : Node) : Read (List (String × Node)) := do
  (← entries n).mapM fun (k, v) => return (← text k, v)

/-- The fields of a mapping. None of the known ones may stand there twice. -/
def fields (known : List String) (n : Node) : Read (List (String × Node)) := do
  let es ← textEntries n
  if known.any fun name => 1 < (es.filter (·.1 == name)).length then refuse
  else return es

/-- A field that has to be there. -/
def required {α : Type} (name : String) (get : Node → Read α) (es : List (String × Node)) :
    Read α :=
  match es.lookup name with
  | some n => get n
  | none => refuse

/-- A field that may be left out. -/
def defaulted {α : Type} (name : String) (default : α) (get : Node → Read α)
    (es : List (String × Node)) : Read α :=
  match es.lookup name with
  | some n => get n
  | none => return default

/-- The name of a tag behind its exclamation mark, which a bare mark keeps. -/
def unmarked : List Char → List Char
  | '!' :: c :: name => c :: name
  | name => name

/-- A tag of the document's own begins with an exclamation mark. -/
def isOwnTag (tag : String) : Bool := tag.toList.head? == some '!'

/-- The name of a tag of the document's own: what stands behind one exclamation mark,
or behind two. -/
def ownTag? (tag : String) : Option String :=
  let name := tag.toList
  if isOwnTag tag && !name.contains unreadableMark then
    some (String.ofList (unmarked (unmarked name)))
  else none

/-- A scalar under its tag. A tag of the document's own wraps the value, if it can be
read. -/
def scalar (tag : Option String) (style : Style) (s : String) : Read Value :=
  let untagged := if style == .plain then plainValue? s else some (.string s)
  match tag with
  | none => ofOption untagged
  | some t =>
    match ownTag? t with
    | some name => ofOption (untagged.map (.tagged name))
    | none => ofOption (if isOwnTag t then untagged else taggedValue? t s)

/-- Wraps a collection in a tag of the document's own. -/
def wrap (tag : Option String) (v : Value) : Value :=
  match tag.bind ownTag? with
  | some name => .tagged name v
  | none => v

/-- Collects entries in order and refuses a key that is there already. -/
def addEntry (es : List (Value × Value)) (k v : Value) : Read (List (Value × Value)) :=
  if es.any fun e => e.1.same k then refuse else return es ++ [(k, v)]

/-- The value of a node. Collections may nest `depth` levels from here. -/
def value (depth : Nat) (n : Node) : Read Value := do
  match ← follow n with
  | .reference _ | .unfinished => refuse
  | .scalar tag style s => scalar tag style s
  | .sequence tag ns =>
    match depth with
    | 0 => refuse
    | depth + 1 => return wrap tag (.sequence (← ns.mapM (value depth)))
  | .mapping tag es =>
    match depth with
    | 0 => refuse
    | depth + 1 =>
      let es ← es.foldlM (fun acc (k, v) => do addEntry acc (← value depth k) (← value depth v)) []
      return wrap tag (.mapping es)

/-- The entries of a mapping read as values; an empty place has none. -/
def valueEntries (depth : Nat) (n : Node) : Read (List (Value × Value)) := do
  (← entries n).foldlM
    (fun acc (k, v) => do addEntry acc (← value (depth - 1) k) (← value (depth - 1) v)) []

/-- A scalar as a value; collections are refused. -/
def scalarValue (n : Node) : Read Value := do
  match ← follow n with
  | .scalar tag style s => scalar tag style s
  | _ => refuse

/-- The node is one of the spellings of nothing. -/
def isNothing (n : Node) : Read Bool := do
  match ← follow n with
  | .scalar none .plain s => return s.isEmpty || isNullWord s
  | .scalar (some "tag:yaml.org,2002:null") .plain s => if isNullWord s then return true else refuse
  | _ => return false

/-- A field that may be nothing. A reference to it is followed once. -/
def optional {α : Type} (get : Node → Read α) (n : Node) : Read (Option α) := do
  let n ← follow n
  if ← isNothing n then return none else return some (← get n)

end Read

/-- Reads a document. References may be followed a hundred times its size. -/
def Document.read? {α : Type} (get : Node → Read α) (d : Document) : Option α :=
  ((get d.root).run d |>.run (100 * d.size)).map (·.1)

/-- Parses a text and reads its document, anchors of one place taken together. -/
def readText? {α : Type} (get : Node → Read α) (text : String) : Option α :=
  (Document.parse? .strict text).bind fun d => d.sharePlaces.read? get

end DnsBalancer.Yaml
