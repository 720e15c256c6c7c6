import DnsBalancer.Address.Text

/-!
# Subnets

A subnet is a network address and the number of leading bits that its members
share with it. An address that embeds an IPv4 one is looked for as that IPv4
address; the network is taken as it is written.
-/
namespace DnsBalancer

structure Subnet where
  network : Address
  bits : Nat
  deriving DecidableEq, Repr, Inhabited

namespace Subnet

/-- `a` and `b` agree on their first `n` bits. -/
def agree {w : Nat} (n : Nat) (a b : BitVec w) : Bool :=
  a >>> (w - n) == b >>> (w - n)

def contains (s : Subnet) (a : Address) : Bool :=
  match s.network, a.canonical with
  | .v4 network, .v4 bits => agree s.bits network bits
  | .v6 network, .v6 bits => agree s.bits network bits
  | _, _ => false

/-- How many bits an address of the network's kind has. -/
def width : Address → Nat
  | .v4 _ => 32
  | .v6 _ => 128

/-- Reads `address/bits`, whatever blanks surround it. -/
def ofChars? (s : List Char) : Option Subnet :=
  match Text.splitOnce '/' (Text.trimBlank s) with
  | none => none
  | some (front, back) =>
    match Address.ofChars? front, Text.Decimal.readUnsigned? 10 255 back with
    | some network, some bits => if bits ≤ width network then some ⟨network, bits⟩ else none
    | _, _ => none

def parse? (s : String) : Option Subnet := ofChars? s.toList

end Subnet

end DnsBalancer
