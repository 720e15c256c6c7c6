import DnsBalancer.Balancer.State

/-!
# The clockwork

Time goes from one instant at which something is due to the next. A round of a loop
begins a cycle on every backend of its record; when the last of them is over, the loop
sleeps for the interval that the record's settings and its queries then ask for.
-/
namespace DnsBalancer.Balancer

/-- Begins a cycle on each backend. -/
def startFlights (net : Network) (now : Instant) (retries : Nat) (cutoff : Duration)
    (t : Tally) : List Backend → List Backend × Tally × List Flight
  | [] => ([], t, [])
  | b :: bs =>
    let (b, t, f) := Flight.start net b retries cutoff now t
    let (bs, t, fs) := startFlights net now retries cutoff t bs
    (b :: bs, t, f :: fs)

def resumeFlights (net : Network) (now : Instant) (t : Tally) :
    List Flight → Tally × List Flight
  | [] => (t, [])
  | f :: fs =>
    let (t, f) := f.resume net now t
    let (t, fs) := resumeFlights net now t fs
    (t, f :: fs)

/-- Ends a cycle. The finding goes to the backend, which its address tells from the others
of the record, or to what it was when it was taken off. -/
def landFlight (zone fqdn : String) (b : Balancer) (f : Flight) : Balancer :=
  let b := { b with strays := b.strays ++ f.strays }
  match f.detached with
  | some gone => { b with metrics := (f.land b.date gone b.metrics).metrics }
  | none =>
    match b.zones.record? zone fqdn with
    | none => b
    | some r =>
      match r.backend? f.address with
      | none => b
      | some backend =>
        let landing := f.land b.date backend b.metrics
        { b with zones := b.zones.put (r.setBackend landing.backend), metrics := landing.metrics }

/-- Ends the cycles that are over. With none left the loop goes to sleep. -/
def landFlights (now started : Instant) (l : ProbeLoop) (flights : List Flight) (b : Balancer) :
    Balancer × ProbeLoop :=
  let (ended, rest) := flights.partition (·.isOver now)
  let b := ended.foldl (landFlight l.zone l.fqdn) b
  if rest.isEmpty then
    let base := ((b.zones.record? l.zone l.fqdn).map (·.settings.scrapeInterval)).getD .zero
    let interval := b.pacing.policy.interval base (b.tracker.last? l.fqdn) started now
    (b, { l with phase := .sleeping started (now + interval).nextMilli })
  else (b, { l with phase := .probing started rest })

/-- Begins a round of the loop. -/
def startRound (now started : Instant) (l : ProbeLoop) (b : Balancer) : Balancer × ProbeLoop :=
  match b.zones.record? l.zone l.fqdn with
  | none => (b, l)
  | some r =>
    let (backends, tally, flights) :=
      startFlights b.network now r.settings.scrapeRetries r.settings.scrapeTimeout b.tally
        r.backends
    landFlights now started l flights
      { b with zones := b.zones.put { r with backends }, tally }

/-- Brings a loop up to `now`. -/
def stepLoop (now : Instant) (b : Balancer) (l : ProbeLoop) : Balancer × ProbeLoop :=
  match l.phase with
  | .waiting wakes => if wakes ≤ now then startRound now now l b else (b, l)
  | .sleeping started wakes => if wakes ≤ now then startRound now started l b else (b, l)
  | .probing started flights =>
    let (tally, flights) := resumeFlights b.network now b.tally flights
    landFlights now started l flights { b with tally }

/-- Ends loops at once. Their cycles are given up, the attempts under way go on. -/
def endLoops (ends : ProbeLoop → Bool) (b : Balancer) : Balancer :=
  let (ended, loops) := b.loops.partition ends
  { b with loops, strays := b.strays ++ (ended.flatMap (·.flights)).flatMap Flight.strays }

/-- Lets a loop go on until it has to wait again. Whatever it waits for, it waits for its token
as well and looks there first: a cancelled loop ends where it stands. -/
def poll (b : Balancer) (number : Nat) : Balancer :=
  match b.loops.find? (·.number == number) with
  | none => b
  | some l =>
    if l.cancelled then b.endLoops (·.number == number)
    else
      let (b, l) := stepLoop b.now b l
      { b with loops := b.loops.map fun k => if k.number == number then l else k }

/-- Brings the attempts up to date that nobody waits for. -/
def resumeStrays (b : Balancer) : Balancer :=
  let (tally, strays) := Run.resumeAll b.network b.now b.tally b.strays
  { b with tally, strays }

/-- All that happens at `now`. -/
def settle (now : Instant) (b : Balancer) : Balancer :=
  (b.loops.map (·.number)).foldl poll (resumeStrays { b with now })

def ProbeLoop.due (l : ProbeLoop) : List Instant :=
  match l.phase with
  | .waiting wakes => [wakes]
  | .sleeping _ wakes => [wakes]
  | .probing _ flights => flights.flatMap Flight.due

/-- When something happens next. -/
def nextDue? (b : Balancer) : Option Instant :=
  let times := b.loops.flatMap ProbeLoop.due ++ b.strays.map Run.ends
  (times.map (·.nanos)).min?.map fun n => ⟨n⟩

/-- The instant after `now` at which what is due next is looked at. What is due already
has to wait a millisecond. -/
def upcoming (now due : Instant) : Instant :=
  if now < due then due else now + .ofMillis 1

theorem lt_upcoming (now due : Instant) : now < upcoming now due := by
  unfold upcoming
  split
  · assumption
  · exact Nat.lt_add_of_pos_right (by decide)

/-- Goes from `now` to `target`, instant by instant. -/
def runTo (target now : Instant) (b : Balancer) : Balancer :=
  match b.nextDue? with
  | none => { b with now := target }
  | some due =>
    let next := upcoming now due
    if _h : next ≤ target then runTo target next (b.settle next) else { b with now := target }
termination_by target.nanos - now.nanos
decreasing_by
  have later := lt_upcoming now due
  exact Nat.sub_lt_sub_left (Nat.lt_of_lt_of_le later _h) later

/-- Lets time pass. What is due at once happens first. -/
def advance (d : Duration) (b : Balancer) : Balancer :=
  let b := b.settle b.now
  runTo (b.now + d) b.now b

end DnsBalancer.Balancer
