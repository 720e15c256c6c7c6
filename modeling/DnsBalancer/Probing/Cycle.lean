import DnsBalancer.Check.Probe

/-!
# Probe cycles

A cycle runs every probe of a backend at once and cuts off those that take too long.
The backend is alive when every probe passed. A cycle takes as long as its slowest
probe.
-/
namespace DnsBalancer

/-- How long a probe took, its retries included, and how its last attempt ended. -/
structure Completion where
  after : Duration
  outcome : AttemptOutcome
  deriving DecidableEq, Repr, Inhabited

/-- The tag and the fault, if it failed. -/
def Completion.fault? (tag : String) (c : Completion) : Option (String × ProbeFault) :=
  match c.outcome with
  | .passed => none
  | .failed fault => some (tag, fault)

structure CycleReport where
  alive : Bool
  responseTime : Duration
  failures : List (String × ProbeFault)
  deriving DecidableEq, Repr

namespace CycleReport

/-- The verdict over probes that have been judged, in the order of configuration. -/
def ofJudged (results : List (String × Completion)) : CycleReport :=
  let failures := results.filterMap fun (tag, c) => c.fault? tag
  { alive := failures.isEmpty
    responseTime := results.foldl (fun d r => d.longer r.2.after) .zero
    failures }

end CycleReport

end DnsBalancer
