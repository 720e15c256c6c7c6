import DnsBalancer.Probing.Flight

/-!
# Rehearsals

Runs cycles of one backend at given times, each with its own cutoff and retries, until
everything is over. Cycles may overlap; those of one instant start in the order given.
-/
namespace DnsBalancer

/-- A cycle to be started. -/
structure Launch where
  start : Instant
  cutoff : Duration
  retries : Nat
  deriving Repr, Inhabited

/-- How a launched cycle ended. -/
structure Arrival where
  launch : Nat
  doneAt : Instant
  report : CycleReport
  applied : Bool
  deriving Repr

structure Rehearsal where
  backend : Backend
  /-- Launches by their number, in the order of their times. -/
  waiting : List (Nat × Launch)
  flying : List (Nat × Flight) := []
  strays : List Run := []
  network : Network := .silent
  tally : Tally := {}
  metrics : Metrics := {}
  arrivals : List Arrival := []

namespace Rehearsal

/-- Numbers launches and puts them in the order of their times. -/
def ofLaunches (backend : Backend) (launches : List Launch) (network : Network := .silent) :
    Rehearsal where
  backend
  network
  waiting := ((List.range launches.length).zip launches).mergeSort
    fun a b => decide (a.2.start ≤ b.2.start)

/-- Ends every cycle that is over. -/
def landAll (now : Instant) (at' : Timestamp) (r : Rehearsal) : Rehearsal :=
  r.flying.foldl
    (fun (r : Rehearsal) (n, f) =>
      if f.isOver now then
        let landing := f.land at' r.backend r.metrics
        { r with
          backend := landing.backend
          metrics := landing.metrics
          strays := r.strays ++ f.strays
          arrivals := r.arrivals ++ [⟨n, now, landing.report, landing.applied⟩] }
      else { r with flying := r.flying ++ [(n, f)] })
    { r with flying := [] }

def resumeFlights (net : Network) (now : Instant) (t : Tally) :
    List (Nat × Flight) → Tally × List (Nat × Flight)
  | [] => (t, [])
  | (n, f) :: rest =>
    let (t, f) := f.resume net now t
    let (t, rest) := resumeFlights net now t rest
    (t, (n, f) :: rest)

/-- Starts the launches that are due. -/
def startDue (now : Instant) (r : Rehearsal) : Rehearsal :=
  let (due, waiting) := r.waiting.partition fun l => decide (l.2.start ≤ now)
  due.foldl
    (fun (r : Rehearsal) (n, l) =>
      let (backend, tally, f) := Flight.start r.network r.backend l.retries l.cutoff now r.tally
      { r with backend, tally, flying := r.flying ++ [(n, f)] })
    { r with waiting }

/-- All that happens at `now`. -/
def settle (at' : Timestamp) (now : Instant) (r : Rehearsal) : Rehearsal :=
  let (tally, strays) := Run.resumeAll r.network now r.tally r.strays
  let (tally, flying) := resumeFlights r.network now tally r.flying
  let r := landAll now at' { r with tally, strays, flying }
  landAll now at' (startDue now r)

/-- When something happens next. -/
def nextDue? (r : Rehearsal) : Option Instant :=
  let times := r.waiting.map (·.2.start) ++ r.flying.flatMap (·.2.due) ++
    r.strays.map Run.ends
  (times.map (·.nanos)).min?.map fun n => ⟨n⟩

/-- Goes from instant to instant, at most `fuel` of them. -/
def runFor (at' : Timestamp) : Nat → Rehearsal → Rehearsal
  | 0, r => r
  | fuel + 1, r =>
    match r.nextDue? with
    | some now => runFor at' fuel (r.settle at' now)
    | none => r

/-- More instants than can be of note: every launch has its start, its deadline, and an
end for each attempt of each probe. -/
def instants (r : Rehearsal) : Nat :=
  (r.waiting.map fun l =>
    2 + r.backend.probes.length * Retry.maxAttempts l.2.retries).foldr (· + ·) 0

def run (at' : Timestamp) (r : Rehearsal) : Rehearsal := runFor at' r.instants r

end Rehearsal

end DnsBalancer
