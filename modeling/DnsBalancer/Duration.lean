/-!
# Durations

A span of time is a number of nanoseconds. The longest one counts 2^64 - 1 whole
seconds; products that would pass it stop there.
-/
namespace DnsBalancer

structure Duration where
  nanos : Nat
  deriving DecidableEq, Repr, Inhabited

namespace Duration

instance : LE Duration := ⟨fun a b => a.nanos ≤ b.nanos⟩
instance : LT Duration := ⟨fun a b => a.nanos < b.nanos⟩
instance (a b : Duration) : Decidable (a ≤ b) := inferInstanceAs (Decidable (a.nanos ≤ b.nanos))
instance (a b : Duration) : Decidable (a < b) := inferInstanceAs (Decidable (a.nanos < b.nanos))

def zero : Duration := ⟨0⟩

def ofMillis (n : Nat) : Duration := ⟨n * 1000000⟩

def ofSeconds (n : Nat) : Duration := ⟨n * 1000000000⟩

/-- One nanosecond short of 2^64 seconds. -/
def longest : Duration := ⟨Nat.pow 2 64 * 1000000000 - 1⟩

def isZero (d : Duration) : Bool := d.nanos == 0

/-- `n` times `d`, or the longest duration when the product passes it. -/
def saturatingMul (d : Duration) (n : Nat) : Duration :=
  ⟨min (d.nanos * n) longest.nanos⟩

def longer (a b : Duration) : Duration :=
  if a.nanos ≤ b.nanos then b else a

def shorter (a b : Duration) : Duration :=
  if a.nanos ≤ b.nanos then a else b

instance : Add Duration := ⟨fun a b => ⟨a.nanos + b.nanos⟩⟩

/-- What `later` lies behind `earlier`; zero when it does not. -/
def since (later earlier : Duration) : Duration := ⟨later.nanos - earlier.nanos⟩

/-- The first whole millisecond not below it, which is when a timer set for it fires. -/
def nextMilli (d : Duration) : Duration := ofMillis ((d.nanos + 999999) / 1000000)

/-- How long a timer for `d` takes that is set at `now`. -/
def timer (now d : Duration) : Duration := (now + d).nextMilli.since now

end Duration

/-- A point of time is the span since the clock was started. -/
abbrev Instant := Duration

end DnsBalancer
