import DnsBalancer.Selection.Request

/-!
# Policies that look at the backends alone

Failover, rotation, shuffling, weighted choice and the fastest backend. What chance
decides is an argument.
-/
namespace DnsBalancer

namespace Failover

/-- The lowest priority value of a row of candidates. -/
def lowest? (cs : List Candidate) : Option Int :=
  (cs.map (·.priority)).min?

/-- Every eligible candidate of the lowest priority value. -/
def select (r : Request) : Except SelectionError (List Address) :=
  match lowest? r.eligible with
  | none => .error (.noHealthyBackend .failover r.family)
  | some p => .ok ((r.eligible.filter (·.priority == p)).map (·.address))

end Failover

namespace RoundRobin

/-- One eligible candidate, and the cursor for the next selection. With nothing to
choose from, the cursor stays. -/
def select (cursor : Nat) (r : Request) : Except SelectionError (List Address) × Nat :=
  let cs := r.eligible
  match cs[cursor % cs.length]? with
  | some c => (.ok [c.address], (cursor + 1) % cs.length)
  | none => (.error (.noHealthyBackend .roundRobin r.family), cursor)

end RoundRobin

namespace Random

/-- All eligible candidates in the order that `shuffle` gives them. -/
def select (shuffle : List Address → List Address) (r : Request) :
    Except SelectionError (List Address) :=
  if r.eligible.isEmpty then .error (.noHealthyBackend .random r.family)
  else .ok (shuffle (r.eligible.map (·.address)))

end Random

namespace Weighted

/-- The candidate in whose share of the wheel `draw` falls; each share is as wide as
the candidate's weight. -/
def pick? : List Candidate → Nat → Option Address
  | [], _ => none
  | c :: cs, draw => if draw < c.weight then some c.address else pick? cs (draw - c.weight)

def total (cs : List Candidate) : Nat := (cs.map (·.weight)).foldr (· + ·) 0

/-- One eligible candidate, chosen by a place on a wheel as wide as all weights together. -/
def select (draw : Nat → Nat) (r : Request) : Except SelectionError (List Address) :=
  let cs := r.eligible.filter (0 < ·.weight)
  if cs.isEmpty || total cs == 0 then .error (.noHealthyBackend .weighted r.family)
  else match pick? cs (draw (total cs)) with
    | some a => .ok [a]
    | none => .error .weightedExhausted

end Weighted

namespace Fastest

/-- What a walk over the candidates has found: the best so far, its time, and whether
any was measured. -/
structure Search where
  best : Option Candidate := none
  time : Duration := .longest
  measured : Bool := false

/-- A candidate that was never measured is taken only when there is nothing yet. -/
def Search.step (s : Search) (c : Candidate) : Search :=
  if c.responseTime.isZero then { s with best := s.best.orElse fun _ => some c }
  else if c.responseTime < s.time then ⟨some c, c.responseTime, true⟩
  else { s with measured := true }

/-- The eligible candidate with the lowest measured response time. -/
def select (r : Request) : Except SelectionError (List Address) :=
  let s := r.eligible.foldl Search.step {}
  match s.best with
  | none => .error (.noHealthyBackend .fastest r.family)
  | some c => if s.measured && c.responseTime.isZero then Failover.select r else .ok [c.address]

end Fastest

end DnsBalancer
