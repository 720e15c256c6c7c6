import DnsBalancer.Text.Pattern.Members

/-!
# Regular expressions

An expression as it is written, with two measures: how deep it nests, and how much
room the machine takes that it is compiled to.
-/
namespace DnsBalancer.Text.Pattern

inductive Expr where
  | empty
  /-- A row of switches, which matches nothing and cannot be repeated. -/
  | switches
  | literal (c : Char) (folded : Bool)
  /-- A class. Brackets nest `nesting` deep in it. -/
  | members (nesting : Nat) (m : Members)
  /-- A place between characters. -/
  | place
  | repeated (e : Expr) (low : Nat) (high : Option Nat)
  | group (captures : Bool) (e : Expr)
  | sequence (es : List Expr)
  | choice (es : List Expr)
  deriving Inhabited

namespace Expr

/-- Several parts, one behind the other. -/
def ofSequence : List Expr → Expr
  | [] => .empty
  | [e] => e
  | es => .sequence es

def ofChoice : List Expr → Expr
  | [] => .empty
  | [e] => e
  | es => .choice es

mutual

/-- How deep groups, repetitions, classes, rows and choices lie in one another. -/
def nesting : Expr → Nat
  | .empty | .switches | .literal _ _ | .place => 0
  | .members n _ => n
  | .repeated e _ _ => e.nesting + 1
  | .group _ e => e.nesting + 1
  | .sequence es => nestings es + 1
  | .choice es => nestings es + 1

def nestings : List Expr → Nat
  | [] => 0
  | e :: es => max e.nesting (nestings es)

end

mutual

/-- The expression matches the empty text and no other. -/
def isEmptyOnly : Expr → Bool
  | .empty | .switches | .place => true
  | .literal _ _ | .members _ _ => false
  | .repeated e _ high => high == some 0 || e.isEmptyOnly
  | .group _ e => e.isEmptyOnly
  | .sequence es => allEmptyOnly es
  | .choice es => allEmptyOnly es

def allEmptyOnly : List Expr → Bool
  | [] => true
  | e :: es => e.isEmptyOnly && allEmptyOnly es

end

/-- The characters of an expression that always matches exactly one. -/
def single? : Expr → Option Members
  | .literal c folded =>
    let m := Members.ofChar c
    some (if folded then m.foldCase else m)
  | .members _ m => some m
  | .group false e => e.single?
  | _ => none

/-- The room of copies in a row. Those behind the first `low` may be left out, and
without a bound the last may follow itself for ever. -/
def repeatedSize (size low : Nat) (high : Option Nat) : Nat :=
  let fork := Members.stateSize + 2 * Members.branchSize
  match high with
  | none => max low 1 * size + fork
  | some high =>
    if low = high then max Members.stateSize (low * size)
    else high * size + (high - low) * fork + 2 * Members.stateSize

mutual

/-- The room of the compiled machine. -/
def size : Expr → Nat
  | .empty | .switches | .place => Members.stateSize
  | .literal c folded =>
    let m := Members.ofChar c
    (if folded then m.foldCase else m).size
  | .members _ m => m.size
  | .repeated e low high =>
    if e.isEmptyOnly then repeatedSize e.size (min low 1) (some (min (high.getD 1) 1))
    else repeatedSize e.size low high
  | .group captures e => (if captures then 2 * Members.stateSize else 0) + e.size
  | .sequence es => (sizes es).foldr (· + ·) 0
  | .choice es =>
    match es.mapM single? with
    | some ms => (ms.foldl Members.union {}).size
    | none =>
      2 * Members.stateSize + Members.branchSize * es.length + (sizes es).foldr (· + ·) 0

def sizes : List Expr → List Nat
  | [] => []
  | e :: es => e.size :: sizes es

end

end Expr

end DnsBalancer.Text.Pattern
