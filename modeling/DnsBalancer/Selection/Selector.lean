import DnsBalancer.Selection.Geographic

/-!
# Selectors

A selector is a record's policy with what it keeps between queries: the rotation
cursor. It starts anew whenever the policy changes.
-/
namespace DnsBalancer

/-- What chance decides: a place on a wheel of the given width, and an order. -/
structure Chance where
  draw : Nat → Nat
  shuffle : List Address → List Address
  draw_lt : ∀ {width : Nat}, 0 < width → draw width < width
  shuffle_perm : ∀ addresses, (shuffle addresses).Perm addresses

/-- Draws the place `n`, counted round and round, and leaves the order as it is. -/
def Chance.ofDraw (n : Nat) : Chance where
  draw width := n % width
  shuffle := id
  draw_lt := Nat.mod_lt n
  shuffle_perm := List.Perm.refl

/-- Draws the first place, and shuffles as it is told. -/
def Chance.ofShuffle (shuffle : List Address → List Address)
    (shuffle_perm : ∀ addresses, (shuffle addresses).Perm addresses) : Chance where
  draw _ := 0
  shuffle
  draw_lt := id
  shuffle_perm

instance : Inhabited Chance := ⟨.ofDraw 0⟩

structure Selector where
  mode : Mode
  cursor : Nat := 0
  deriving DecidableEq, Repr, Inhabited

namespace Selector

def ofMode (mode : Mode) : Selector := { mode }

/-- The answer to a request, and the selector for the next one. -/
def select (s : Selector) (chance : Chance) (r : Request) :
    Except SelectionError (List Address) × Selector :=
  match s.mode with
  | .failover => (Failover.select r, s)
  | .roundRobin =>
    let (answer, cursor) := RoundRobin.select s.cursor r
    (answer, { s with cursor })
  | .random => (Random.select chance.shuffle r, s)
  | .weighted => (Weighted.select chance.draw r, s)
  | .geoip => (GeoIp.select r, s)
  | .nearest => (Nearest.select Distance.haversine r, s)
  | .fastest => (Fastest.select r, s)

end Selector

end DnsBalancer
