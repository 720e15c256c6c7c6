import DnsBalancer.Text.CodePoints
import DnsBalancer.Text.Pattern.Property

/-!
# Members of classes

What a class of a regular expression holds, and how much room it takes once it is
compiled to a machine that reads UTF-8. Ranges are kept as they are; of properties only
the number of their ranges is known, and their room is estimated from it.
-/
namespace DnsBalancer.Text.Pattern

structure Members where
  points : CodePoints := {}
  /-- How many ranges the properties among the members fall into. -/
  named : Nat := 0
  deriving DecidableEq, Repr, Inhabited

/-- How the two sides of an operator in a class are brought together. -/
inductive SetOperator where
  | intersection
  | difference
  | symmetricDifference
  deriving DecidableEq, Repr

namespace Members

def ofChar (c : Char) : Members := ⟨CodePoints.ofChar c, 0⟩

def ofRanges (ranges : List (Nat × Nat)) : Members := ⟨⟨ranges⟩, 0⟩

def ofProperty (p : Property) : Members := ⟨{}, p.ranges⟩

/-- Every character but the line feed. -/
def dot : Members := ⟨(CodePoints.ofChar '\n').complement, 0⟩

def union (m n : Members) : Members := ⟨m.points.union n.points, m.named + n.named⟩

def complement (m : Members) : Members :=
  if m.named = 0 then ⟨m.points.complement, 0⟩ else m

def combine (m n : Members) : SetOperator → Members
  | .intersection =>
    if m.named + n.named = 0 then ⟨m.points.intersection n.points, 0⟩ else ⟨{}, min m.named n.named⟩
  | .difference =>
    if m.named + n.named = 0 then ⟨m.points.difference n.points, 0⟩ else m.union n
  | .symmetricDifference =>
    if m.named + n.named = 0 then ⟨m.points.symmetricDifference n.points, 0⟩ else m.union n

/-- Adds the other case of ASCII letters, and the two signs outside ASCII that fold to
one of them. -/
def foldCase (m : Members) : Members :=
  let lower := m.points.shifted 0x41 0x5A 0x20 0
  let upper := m.points.shifted 0x61 0x7A 0 0x20
  let all := (m.points.union lower).union upper
  let all := if all.contains 'k' then all.union (CodePoints.ofRange 0x212A 0x212A) else all
  let all := if all.contains 's' then all.union (CodePoints.ofRange 0x17F 0x17F) else all
  ⟨all, m.named⟩

/-- Classes that have a name between colons, in ASCII. -/
def asciiClass? (name : String) : Option Members :=
  match name with
  | "alnum" => some (ofRanges [(0x30, 0x39), (0x41, 0x5A), (0x61, 0x7A)])
  | "alpha" => some (ofRanges [(0x41, 0x5A), (0x61, 0x7A)])
  | "ascii" => some (ofRanges [(0x00, 0x7F)])
  | "blank" => some (ofRanges [(0x09, 0x09), (0x20, 0x20)])
  | "cntrl" => some (ofRanges [(0x00, 0x1F), (0x7F, 0x7F)])
  | "digit" => some (ofRanges [(0x30, 0x39)])
  | "graph" => some (ofRanges [(0x21, 0x7E)])
  | "lower" => some (ofRanges [(0x61, 0x7A)])
  | "print" => some (ofRanges [(0x20, 0x7E)])
  | "punct" => some (ofRanges [(0x21, 0x2F), (0x3A, 0x40), (0x5B, 0x60), (0x7B, 0x7E)])
  | "space" => some (ofRanges [(0x09, 0x0D), (0x20, 0x20)])
  | "upper" => some (ofRanges [(0x41, 0x5A)])
  | "word" => some (ofRanges [(0x30, 0x39), (0x41, 0x5A), (0x5F, 0x5F), (0x61, 0x7A)])
  | "xdigit" => some (ofRanges [(0x30, 0x39), (0x41, 0x46), (0x61, 0x66)])
  | _ => none

/-- The classes of digits, blanks and word characters, of all scripts or of ASCII. -/
def letterClass? (unicode : Bool) (c : Char) : Option Members :=
  let wide (ranges : Nat) (name : String) : Option Members :=
    if unicode then some ⟨{}, ranges⟩ else asciiClass? name
  match c with
  | 'd' => wide 72 "digit"
  | 's' => wide 10 "space"
  | 'w' => wide 802 "word"
  | _ => none

/-- The bytes of a code point in UTF-8. -/
def bytes (n : Nat) : List Nat :=
  (String.utf8EncodeChar (Char.ofNat n)).map UInt8.toNat

/-- Rows of byte ranges that together stand for a range of code points: the range is
cut where the number of bytes changes, and wherever a later byte would not run through
all its values. -/
def byteRows : Nat → Nat → Nat → List (List (Nat × Nat))
  | 0, _, _ => []
  | fuel + 1, low, high =>
    let cut (mid : Nat) : List (List (Nat × Nat)) :=
      byteRows fuel low mid ++ byteRows fuel (mid + 1) high
    match [0x7F, 0x7FF, 0xD7FF, 0xDFFF, 0xFFFF].find? fun n => low ≤ n && n < high with
    | some n => cut n
    | none =>
      if 0xD800 ≤ low && low ≤ 0xDFFF then []
      else if high < 0x80 then [[(low, high)]]
      else
        match [0x40, 0x1000, 0x40000].find? fun n =>
            low / n != high / n && (low % n != 0 || high % n != n - 1) with
        | some n => cut (if low % n != 0 then low / n * n + (n - 1) else high / n * n - 1)
        | none => [(bytes low).zip (bytes high)]

/-- The length of what two rows have in common at the front. -/
def sharedLength : List (Nat × Nat) → List (Nat × Nat) → Nat
  | a :: as, b :: bs => if a = b then sharedLength as bs + 1 else 0
  | _, _ => 0

/-- How many different beginnings the rows have. -/
def beginnings : List (Nat × Nat) → List (List (Nat × Nat)) → Nat
  | _, [] => 0
  | previous, row :: rows => row.length - sharedLength previous row + beginnings row rows

/-- The room of a state of the machine, and of a branch out of one. -/
def stateSize : Nat := 32

def byteBranchSize : Nat := 8

def branchSize : Nat := 4

/-- The room that ranges take. -/
def pointsSize (s : CodePoints) : Nat :=
  match s.ranges with
  | [] => stateSize
  | [(low, high)] =>
    if low = high then stateSize * (bytes low).length
    else if s.endsBy 0x7F then 2 * stateSize + byteBranchSize
    else
      let rows := byteRows 64 low high
      2 * stateSize + branchSize * rows.length + stateSize * beginnings [] rows
  | ranges =>
    if s.endsBy 0x7F then 2 * stateSize + byteBranchSize * ranges.length
    else
      let rows := ranges.flatMap fun (low, high) => byteRows 64 low high
      2 * stateSize + branchSize * rows.length + stateSize * beginnings [] rows

/-- The room that all members take: about two states for each range of a property. -/
def size (m : Members) : Nat :=
  if m.named = 0 then pointsSize m.points
  else pointsSize m.points + 62 * m.named + 20 * stateSize

end Members

end DnsBalancer.Text.Pattern
