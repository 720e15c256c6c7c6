import DnsBalancer.Address
import DnsBalancer.Database.Decode
import DnsBalancer.Text.Quoted

/-!
# Database files

A file has a search tree over the bits of addresses, a section of data that its leaves
point into, and a description of both behind a marker, the last of which counts. In a
tree for IPv6, IPv4 addresses start where 96 zero bits lead; any other tree is walked
from its root.
-/
namespace DnsBalancer

structure Database where
  bytes : ByteArray
  kind : String
  nodeCount : Nat
  recordSize : Nat
  /-- The node that IPv4 addresses start from. -/
  v4Start : Nat

namespace Database

def marker : List UInt8 :=
  [0xab, 0xcd, 0xef] ++ "MaxMind.com".toUTF8.toList

def markerAt (b : ByteArray) (start : Nat) : Bool :=
  (List.range marker.length).all fun i => b[start + i]? == marker[i]?

/-- Where the description starts: behind the last marker that starts before `n`. -/
def descriptionFrom? (b : ByteArray) : Nat → Option Nat
  | 0 => none
  | n + 1 => if markerAt b n then some (n + marker.length) else descriptionFrom? b n

def description? (b : ByteArray) : Option Nat :=
  descriptionFrom? b b.size

/-- All that a description has to hold. -/
def descriptionFields : List (String × Shape) := [
  ("binary_format_major_version", .natural 16), ("binary_format_minor_version", .natural 16),
  ("build_epoch", .natural 64), ("database_type", .text), ("description", .texts),
  ("ip_version", .natural 16), ("languages", .list .text), ("node_count", .natural 32),
  ("record_size", .natural 16)]

/-- The branch of a node that a bit decides on. -/
def child? (b : ByteArray) (recordSize node : Nat) (bit : Bool) : Option Nat :=
  let start := node * recordSize / 4
  match recordSize with
  | 24 => natAt? b (start + if bit then 3 else 0) 3
  | 28 => do
    let middle := (← b[start + 3]?).toNat
    let low ← natAt? b (start + if bit then 4 else 0) 3
    return (if bit then middle % 16 else middle / 16) * Nat.pow 2 24 + low
  | 32 => natAt? b (start + if bit then 4 else 0) 4
  | _ => none

/-- Follows bits from a node, up to a leaf. -/
def walk? (b : ByteArray) (recordSize nodeCount : Nat) : Nat → List Bool → Option Nat
  | node, [] => some node
  | node, bit :: bits =>
    if nodeCount ≤ node then some node
    else (child? b recordSize node bit).bind fun next =>
      walk? b recordSize nodeCount next bits

/-- Opens a file; none when it is no database. -/
def open? (b : ByteArray) : Option Database := do
  let start ← description? b
  let d ← decode? b start (.record descriptionFields) start
  let natural (name : String) (bits : Nat) : Option Nat := (d.field? name).bind (·.natural? bits)
  if descriptionFields.any fun f => (d.field? f.1).isNone then none
  else
    let nodeCount ← natural "node_count" 32
    let recordSize ← natural "record_size" 16
    let v4Start ←
      if (← natural "ip_version" 16) = 6 then
        walk? b recordSize nodeCount 0 (List.replicate 96 false)
      else some 0
    let kind ← (← d.field? "database_type").text?
    return { bytes := b, kind, nodeCount, recordSize, v4Start }

/-- The bits of an address, the most significant one first. -/
def bitsOf {w : Nat} (bits : BitVec w) : List Bool :=
  (List.range w).map bits.getMsbD

/-- The leaf that an address leads to. -/
def leaf? (db : Database) : Address → Option Nat
  | .v4 bits => walk? db.bytes db.recordSize db.nodeCount db.v4Start (bitsOf bits)
  | .v6 bits => walk? db.bytes db.recordSize db.nodeCount 0 (bitsOf bits)

/-- How many bytes lie between the tree and the data. -/
def gap : Nat := 16

/-- What the file holds for an address, read as the given shape. -/
def find? (db : Database) (shape : Shape) (a : Address) : Option Datum := do
  let leaf ← db.leaf? a
  if leaf < db.nodeCount + gap then none
  else
    let base := db.nodeCount * db.recordSize / 4 + gap
    decode? db.bytes base shape (base + (leaf - db.nodeCount - gap))

/-- A one-line description of an open file. -/
def describe (db : Database) (path : String) : String :=
  "MaxMindDb \x7b path: " ++ Text.quoted path ++ ", database_type: " ++ Text.quoted db.kind ++
    " \x7d"

end Database

end DnsBalancer
