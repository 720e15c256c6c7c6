import DnsBalancer.Text.Pattern.Reader

/-!
# Usable regular expressions

A text is usable as a regular expression when it can be read, nests no deeper than is
allowed, and compiles to a machine that is not too large.
-/
namespace DnsBalancer.Text.Pattern

def nestingLimit : Nat := 250

/-- Compiled machines have at most this room. -/
def sizeLimit : Nat := 10 * Nat.pow 2 20

/-- The room of what every machine has in front and at its end. -/
def frameSize : Nat := 8 * Members.stateSize

def wellFormed (s : String) : Bool :=
  match parse? s with
  | some e => e.nesting ≤ nestingLimit && e.size + frameSize ≤ sizeLimit
  | none => false

end DnsBalancer.Text.Pattern
