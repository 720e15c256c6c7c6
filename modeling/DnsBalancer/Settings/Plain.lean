import DnsBalancer.Settings.Setting
import DnsBalancer.Yaml.Node.OfTokens

/-!
# Settings in YAML

Settings are written in the lenient dialect and in a plainer schema than zone files: two
words for nothing, one for each switch, whole numbers of 64 bits in three bases. Names are
texts; an entry of any other name is left out, whatever it holds. Of equal names the last
one counts.
-/
namespace DnsBalancer.Setting

open Text
open Yaml (Node Style Document schemaTag)

/-- What a node means by itself, before it is taken for a setting. -/
inductive Meaning where
  /-- A text that does not fit its tag, or a reference to what is not complete. -/
  | void
  /-- An infinity, or what is no number, written with a point: it cannot be set. -/
  | pointed
  | setting (s : Setting)
  /-- A list or a table. -/
  | collection

def isPointedWord (s : String) : Bool :=
  [".inf", ".Inf", ".INF", "+.inf", "+.Inf", "+.INF", "-.inf", "-.Inf", "-.INF",
    ".nan", ".NAN"].contains s

/-- A whole number behind `0x` or `0o`, with any sign, or in plain digits. -/
def wholeText? (cs : List Char) : Option Int :=
  let based : Option Int := match cs with
    | '0' :: 'x' :: ds => Decimal.readSigned? 16 64 ds
    | '0' :: 'o' :: ds => Decimal.readSigned? 8 64 ds
    | '+' :: ds => Decimal.readSigned? 10 64 ds
    | _ => none
  based.orElse fun _ => Decimal.readSigned? 10 64 cs

/-- The words for nothing. -/
def isNothingWord (s : String) : Bool := s == "~" || s == "null"

def switch? (s : String) : Option Bool :=
  if s == "true" then some true else if s == "false" then some false else none

/-- A number that is not whole, if the text is one. -/
def realMeaning? (s : String) : Option Meaning :=
  if isPointedWord s then some .pointed else (realText? s).map fun x => .setting (.real x)

/-- The meaning of an unquoted text. -/
def ofPlain (s : String) : Meaning :=
  match wholeText? s.toList with
  | some n => .setting (.whole n)
  | none =>
    if isNothingWord s then .setting .nothing
    else match switch? s with
      | some b => .setting (.flag b)
      | none => (realMeaning? s).getD (.setting (.text s))

/-- The meaning of an unquoted text under a tag. A tag that asks for no kind of its own
makes it a text. -/
def ofTagged (tag s : String) : Meaning :=
  let whole? : Option Meaning :=
    (Decimal.readSigned? 10 64 s.toList).map fun n => .setting (.whole n)
  if tag == schemaTag "bool" then ((switch? s).map fun b => .setting (.flag b)).getD .void
  else if tag == schemaTag "int" then whole?.getD .void
  else if tag == schemaTag "float" then (realMeaning? s).getD .void
  else if tag == schemaTag "null" then (if isNothingWord s then .setting .nothing else .void)
  else .setting (.text s)

def ofScalar (tag : Option String) (style : Style) (s : String) : Meaning :=
  if style != .plain then .setting (.text s)
  else match tag with
    | none => ofPlain s
    | some t => ofTagged t s

def meaning : Node → Meaning
  | .scalar tag style s => ofScalar tag style s
  | .sequence _ _ | .mapping _ _ => .collection
  | .reference _ | .unfinished => .void

/-- The node that a reference stands for. No anchor names a reference. -/
def follow (anchors : Array Node) : Node → Node
  | .reference anchor => anchors[anchor]?.getD .unfinished
  | n => n

/-- Takes the nodes of a table for names and values by turns. A void one is no name: the
next node stands in for it. A name at the end that is left without a value is dropped. -/
def pairUp (isVoid : Node → Bool) : List Node → List (Node × Node)
  | [] => []
  | name :: rest =>
    if isVoid name then pairUp isVoid rest
    else match rest with
      | [] => []
      | value :: rest => (name, value) :: pairUp isVoid rest

/-- The entries of a table that have a text for a name, with the last value of each. -/
def namedEntries (anchors : Array Node) (es : List (Node × Node)) : List (String × Node) :=
  let means (n : Node) : Meaning := meaning (follow anchors n)
  let isVoid (n : Node) : Bool := match means n with
    | .void => true
    | _ => false
  let add (acc : List (String × Node)) (e : Node × Node) : List (String × Node) :=
    match means e.1 with
    | .setting (.text name) => place name e.2 acc
    | _ => acc
  (pairUp isVoid (es.flatMap fun (name, value) => [name, value])).foldl add []

/-- The setting that a node stands for. Nodes are followed `depth` levels. -/
def ofNode? (anchors : Array Node) : Nat → Node → Option Setting
  | 0, _ => none
  | depth + 1, n =>
    match follow anchors n with
    | .sequence _ items => (items.mapM (ofNode? anchors depth)).map .list
    | .mapping _ es =>
      let entry? (e : String × Node) : Option (String × Setting) :=
        (ofNode? anchors depth e.2).map fun s => (e.1, s)
      ((namedEntries anchors es).mapM entry?).map .table
    | n => match meaning n with
      | .setting s => some s
      | .pointed => none
      | .void | .collection => some .nothing

/-- Reads a settings text. A way down the document passes each anchored node once at the
most, because a node names only those that were complete before it. -/
def ofYaml? (text : String) : Option Setting :=
  (Document.parse? .lenient text).bind fun d =>
    ofNode? d.anchors ((d.size + 1) * (d.anchors.size + 1)) d.root

end DnsBalancer.Setting
