import DnsBalancer.Duration

/-!
# Bursts of changes

Changes of watched files that follow one another within a window form a burst. A watch takes them
one after the other and sets its timer anew at each. When the timer goes off, or the input is
closed, it reports what it gathered, each target once.
-/
namespace DnsBalancer

/-- What a watched file holds. -/
inductive WatchTarget where
  | zone (name path : String)
  | locations (path : String)
  deriving DecidableEq, Repr, Inhabited

/-- A target that changed at some time. -/
structure Change where
  time : Instant
  target : WatchTarget
  deriving DecidableEq, Repr, Inhabited

/-- What a watch waits for. -/
inductive Watch where
  /-- For the first change of a burst. -/
  | idle
  /-- For more of a burst, until the timer goes off. -/
  | gathering (order : List WatchTarget) (rings : Instant)
  /-- For nothing any more. -/
  | ended
  deriving DecidableEq, Repr, Inhabited

/-- What a wait ends with. -/
inductive Signal where
  | change (target : WatchTarget)
  | silence
  | closed
  deriving DecidableEq, Repr, Inhabited

/-- A watch with what it has reported. -/
structure Watched where
  reported : List Change := []
  watch : Watch := .idle
  deriving DecidableEq, Repr, Inhabited

/-- The window of a watch and what it depends on: when a timer goes off that is set for an
instant, and whether a target that is reported at an instant still finds a receiver. -/
structure Debounce where
  window : Duration := .ofMillis 500
  timer : Instant → Instant := Duration.nextMilli
  attended : Instant → WatchTarget → Bool := fun _ _ => true

namespace Debounce

/-- A target keeps the place where it first came. -/
def note (order : List WatchTarget) (target : WatchTarget) : List WatchTarget :=
  if order.contains target then order else order ++ [target]

variable (d : Debounce)

/-- The targets are reported in their order. The first without a receiver is the end. -/
def report (now : Instant) (order : List WatchTarget) (next : Watch) (s : Watched) : Watched where
  reported := s.reported ++ (order.takeWhile (d.attended now)).map (Change.mk now)
  watch := if order.all (d.attended now) then next else .ended

/-- One wait is over. -/
def step (now : Instant) (s : Watched) (signal : Signal) : Watched :=
  match s.watch, signal with
  | .idle, .change target => { s with watch := .gathering [target] (d.timer (now + d.window)) }
  | .idle, .closed => { s with watch := .ended }
  | .gathering order _, .change target =>
    { s with watch := .gathering (note order target) (d.timer (now + d.window)) }
  | .gathering order _, .silence => d.report now order .idle s
  | .gathering order _, .closed => d.report now order .ended s
  | .idle, .silence | .ended, _ => s

/-- Time passes until `now`, and the timer goes off on the way if it is due. -/
def elapse (now : Instant) (s : Watched) : Watched :=
  match s.watch with
  | .gathering _ rings => if rings ≤ now then d.step rings s .silence else s
  | .idle | .ended => s

def receive (now : Instant) (s : Watched) (signal : Signal) : Watched :=
  d.step now (d.elapse now s) signal

/-- The changes come in, each at its time. -/
def feed (cs : List Change) (s : Watched) : Watched :=
  cs.foldl (fun s c => d.receive c.time s (.change c.target)) s

/-- A row of changes, in the order of their times, after which the input is closed. -/
def run (closes : Instant) (cs : List Change) : Watched :=
  d.receive closes (d.feed cs {}) .closed

end Debounce

end DnsBalancer
