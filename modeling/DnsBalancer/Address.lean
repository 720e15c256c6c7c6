/-!
# Internet addresses

An address is a row of 32 or 128 bits. An IPv6 address that embeds an IPv4 one
below `::ffff:0:0/96` stands for it: its canonical form is the IPv4 address, and
its family is IPv4.
-/
namespace DnsBalancer

inductive Address where
  | v4 (bits : BitVec 32)
  | v6 (bits : BitVec 128)
  deriving DecidableEq, Repr, Inhabited

inductive Family where
  | ipv4
  | ipv6
  deriving DecidableEq, Repr, Inhabited

def Family.render : Family → String
  | .ipv4 => "IPv4"
  | .ipv6 => "IPv6"

namespace Address

/-- The IPv4 address that `::ffff:a.b.c.d` embeds. -/
def embedded? (bits : BitVec 128) : Option (BitVec 32) :=
  if bits.toNat / Nat.pow 2 32 = 0xffff then some (bits.truncate 32) else none

def canonical : Address → Address
  | .v4 bits => .v4 bits
  | .v6 bits =>
    match embedded? bits with
    | some inner => .v4 inner
    | none => .v6 bits

/-- The family of the address it stands for. -/
def family (a : Address) : Family :=
  match a.canonical with
  | .v4 _ => .ipv4
  | .v6 _ => .ipv6

/-- Orders addresses of four bytes before those of sixteen, then by value. -/
def le : Address → Address → Bool
  | .v4 a, .v4 b => a.toNat ≤ b.toNat
  | .v4 _, .v6 _ => true
  | .v6 _, .v4 _ => false
  | .v6 a, .v6 b => a.toNat ≤ b.toNat

end Address

end DnsBalancer
