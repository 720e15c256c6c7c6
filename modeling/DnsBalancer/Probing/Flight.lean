import DnsBalancer.Metrics.Collector
import DnsBalancer.Probing.Cycle
import DnsBalancer.Probing.Retry
import DnsBalancer.Registry.Backend

/-!
# Cycles in flight

While a cycle lasts, each of its probes runs through its attempts. A probe that is cut
off, or whose cycle is given up, goes on by itself until its attempts are over, and all
its attempts count. The cutoff is a timer and fires on a whole millisecond; attempts end
when they end. What has ended is noticed when it is looked at, which may be later.
-/
namespace DnsBalancer

/-- How many attempts were made, by the serial number of the probe. -/
structure Tally where
  counts : List (Nat × Nat) := []
  deriving Repr, Inhabited

namespace Tally

def lookup (serial : Nat) : List (Nat × Nat) → Nat
  | [] => 0
  | (s, n) :: rest => if s = serial then n else lookup serial rest

def place (serial n : Nat) : List (Nat × Nat) → List (Nat × Nat)
  | [] => [(serial, n)]
  | (s, m) :: rest => if s = serial then (serial, n) :: rest else (s, m) :: place serial n rest

def count (t : Tally) (serial : Nat) : Nat := lookup serial t.counts

def add (t : Tally) (serial : Nat) : Tally := ⟨place serial (t.count serial + 1) t.counts⟩

end Tally

/-- A probe in the middle of an attempt. -/
structure Run where
  probe : Probe
  /-- How many attempts may follow this one. -/
  left : Nat
  /-- How this attempt will end, and when. -/
  outcome : AttemptOutcome
  ends : Instant
  deriving Repr, Inhabited

/-- A probe is on its way, or it is done. -/
inductive Progress where
  | running (run : Run)
  | done (outcome : AttemptOutcome)
  deriving Repr, Inhabited

namespace Run

/-- Makes attempts at `now`, as long as they take no time and ask for another. -/
def attempt (net : Network) (t : Tally) (p : Probe) (now : Instant) (left : Nat) :
    Tally × Progress :=
  let (delay, outcome) := p.attempt net (t.count p.serial) now
  let t := t.add p.serial
  if delay.isZero then
    match _h : Retry.next? left outcome with
    | some rest => attempt net t p now rest
    | none => (t, .done outcome)
  else (t, .running ⟨p, left, outcome, now + delay⟩)
termination_by left
decreasing_by exact Retry.lt_of_next? _h

/-- Takes note at `now` that the attempt has ended, and makes the next one if it asks for
one. -/
def resume (net : Network) (now : Instant) (t : Tally) (r : Run) : Tally × Progress :=
  match Retry.next? r.left r.outcome with
  | some rest => attempt net t r.probe now rest
  | none => (t, .done r.outcome)

/-- Brings runs that nobody waits for up to date and drops those that are over. -/
def resumeAll (net : Network) (now : Instant) (t : Tally) : List Run → Tally × List Run
  | [] => (t, [])
  | r :: rs =>
    if r.ends ≤ now then
      let (t, progress) := r.resume net now t
      let (t, rest) := resumeAll net now t rs
      match progress with
      | .running r => (t, r :: rest)
      | .done _ => (t, rest)
    else
      let (t, rest) := resumeAll net now t rs
      (t, r :: rest)

end Run

/-- One probe of a cycle. -/
structure Slot where
  tag : String
  progress : Progress
  /-- When its last attempt ended, once it is done. -/
  ended : Instant
  /-- How long the cycle had lasted when it was looked at last, or was found done. -/
  after : Duration := .zero
  deriving Repr, Inhabited

namespace Slot

def isDone (s : Slot) : Bool :=
  match s.progress with
  | .running _ => false
  | .done _ => true

def run? (s : Slot) : Option Run :=
  match s.progress with
  | .running r => some r
  | .done _ => none

/-- What a cycle makes of the probe when it ends. The timer of the cutoff was set before
those of the attempts, so that what ends with it comes too late. -/
def completion (deadline : Instant) (s : Slot) : Completion :=
  match s.progress with
  | .done outcome =>
    if s.ended < deadline then ⟨s.after, outcome⟩ else ⟨s.after, .failed .timedOut⟩
  | .running _ => ⟨s.after, .failed .timedOut⟩

/-- Brings a probe up to date. -/
def resume (net : Network) (began now : Instant) (t : Tally) (s : Slot) : Tally × Slot :=
  match s.progress with
  | .running r =>
    if r.ends ≤ now then
      let (t, progress) := r.resume net now t
      (t, { s with progress, ended := r.ends, after := now.since began })
    else (t, { s with after := now.since began })
  | .done _ => (t, s)

def startAll (net : Network) (now : Instant) (retries : Nat) (t : Tally) :
    List Probe → Tally × List Slot
  | [] => (t, [])
  | p :: ps =>
    let (t, progress) := Run.attempt net t p now (Retry.maxAttempts retries - 1)
    let (t, slots) := startAll net now retries t ps
    (t, { tag := p.tag, progress, ended := now } :: slots)

def resumeAll (net : Network) (began now : Instant) (t : Tally) :
    List Slot → Tally × List Slot
  | [] => (t, [])
  | s :: ss =>
    let (t, s) := s.resume net began now t
    let (t, ss) := resumeAll net began now t ss
    (t, s :: ss)

end Slot

/-- A cycle of one backend under way. -/
structure Flight where
  address : Address
  cycle : Nat
  began : Instant
  /-- When the probes that are not done are cut off. -/
  deadline : Instant
  slots : List Slot
  /-- The backend as it was taken off its record, if it was. -/
  detached : Option Backend := none
  deriving Repr, Inhabited

namespace Flight

/-- Begins a cycle: the backend gives out a number, and every probe its first attempt. -/
def start (net : Network) (b : Backend) (retries : Nat) (cutoff : Duration) (now : Instant)
    (t : Tally) : Backend × Tally × Flight :=
  let (cycle, b) := b.beginCycle
  let (t, slots) := Slot.startAll net now retries t b.probes
  (b, t, { address := b.address, cycle, began := now, deadline := (now + cutoff).nextMilli, slots })

def resume (net : Network) (now : Instant) (t : Tally) (f : Flight) : Tally × Flight :=
  let (t, slots) := Slot.resumeAll net f.began now t f.slots
  (t, { f with slots })

def isOver (now : Instant) (f : Flight) : Bool :=
  f.deadline ≤ now || f.slots.all Slot.isDone

/-- The probes that are not done. -/
def strays (f : Flight) : List Run := f.slots.filterMap Slot.run?

/-- The next instants at which something happens. -/
def due (f : Flight) : List Instant := f.deadline :: f.strays.map Run.ends

/-- Every probe as the cycle judges it. -/
def results (f : Flight) : List (String × Completion) :=
  f.slots.map fun s => (s.tag, s.completion f.deadline)

def report (f : Flight) : CycleReport := .ofJudged f.results

end Flight

/-- Counts what a cycle found of each probe. -/
def Metrics.probed (m : Metrics) (record address : String)
    (results : List (String × Completion)) : Metrics :=
  results.foldl
    (fun m (tag, c) =>
      let m := m.checkObserved record tag address c.outcome.isPassed c.after
      match c.outcome with
      | .passed => m
      | .failed fault => m.checkFailed tag address fault.label)
    m

/-- A cycle brought to its end. -/
structure Landing where
  report : CycleReport
  /-- Whether its finding is the one held. -/
  applied : Bool
  backend : Backend
  metrics : Metrics

/-- Ends a cycle: its probes are counted, its finding is recorded unless a later one is
held, and the health shown follows what was recorded. -/
def Flight.land (f : Flight) (at' : Timestamp) (b : Backend) (m : Metrics) : Landing :=
  let report := f.report
  let address := b.address.render
  let metrics := m.probed b.record address f.results
  match b.recordCycle f.cycle ⟨report.alive, report.responseTime, some at'⟩ with
  | some (_, backend) =>
    { report, applied := true, backend
      metrics := metrics.setHealthy b.record address report.alive }
  | none => { report, applied := false, backend := b, metrics }

end DnsBalancer
