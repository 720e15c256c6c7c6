import DnsBalancer.Yaml.Cursor
import DnsBalancer.Yaml.Token

/-!
# Nodes of a YAML document

A document is a tree whose leaves are scalars as they were written and references
to anchored nodes. What a scalar means is decided when it is read.
-/
namespace DnsBalancer.Yaml

inductive Node where
  /-- The node that the numbered anchor of the document names. -/
  | reference (anchor : Nat)
  /-- A reference, in the lenient dialect, to a node that it stands inside. -/
  | unfinished
  | scalar (tag : Option String) (style : Style) (text : String)
  | sequence (tag : Option String) (items : List Node)
  | mapping (tag : Option String) (entries : List (Node × Node))
  deriving Repr, Inhabited

/-- The node of a place where nothing is written. The lenient dialect reads it as one of
the words for nothing, and takes an empty text for written. -/
def Node.empty : Dialect → Node
  | .strict => .scalar none .plain ""
  | .lenient => .scalar none .plain "~"

structure Document where
  root : Node
  /-- The anchored nodes, by number. -/
  anchors : Array Node
  /-- How many different names had been set before each anchor. -/
  places : Array Nat
  /-- One for each scalar and reference, two for each collection. -/
  size : Nat
  deriving Repr, Inhabited

namespace Document

/-- The last of the nodes at place `p`. -/
def lastAt? (p : Nat) (nodes : Array (Nat × Node)) : Option Node :=
  (nodes.reverse.find? (·.1 == p)).map (·.2)

/-- Anchors of one place all name the last node of that place. A name that is set anew
takes the place of the next new name, and so comes to stand for that node. -/
def sharePlaces (d : Document) : Document :=
  { d with anchors := d.places.map fun p =>
      (lastAt? p (d.places.zip d.anchors)).getD .unfinished }

end Document

end DnsBalancer.Yaml
