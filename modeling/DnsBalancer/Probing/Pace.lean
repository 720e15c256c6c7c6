import DnsBalancer.Duration
import DnsBalancer.NameMap

/-!
# The pace of probing

Records that nobody asks for are probed less often, and records are started in
batches that are spread evenly over a window. The tracker keeps when each record was
last asked for.
-/
namespace DnsBalancer

/-- A record not asked for during more than `timeout` is probed `multiplier` times
less often. -/
structure IdlePolicy where
  timeout : Duration := .ofSeconds 3600
  multiplier : Nat := 10
  deriving DecidableEq, Repr, Inhabited

/-- The time until the next round of probes. A record never asked for counts from the
start of its own probing. -/
def IdlePolicy.interval (p : IdlePolicy) (base : Duration) (lastQuery : Option Instant)
    (started now : Instant) : Duration :=
  if p.timeout < now.since (lastQuery.getD started) then base.saturatingMul p.multiplier
  else base

/-- The start delay of each of `count` records. Batch `b` of `n` waits for `b / n` of
the window, rounded down to a nanosecond and never beyond 64 bits of them. -/
def staggerDelays (count batchSize : Nat) (window : Duration) : List Duration :=
  let size := Nat.max batchSize 1
  let batches := (count + size - 1) / size
  (List.range count).map fun i =>
    ⟨Nat.min (window.nanos * (i / size) / batches) (Nat.pow 2 64 - 1)⟩

/-- When each name was last asked for. -/
abbrev QueryTracker := NameMap Instant

namespace QueryTracker

def touch (t : QueryTracker) (name : String) (now : Instant) : QueryTracker :=
  NameMap.insert t name now

def forget (t : QueryTracker) (name : String) : QueryTracker := NameMap.erase t name

def last? (t : QueryTracker) (name : String) : Option Instant := NameMap.find? t name

end QueryTracker

end DnsBalancer
