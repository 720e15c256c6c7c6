import DnsBalancer.Check.Fault
import DnsBalancer.Check.Params

/-!
# Probes

A probe is a health check made ready: its parameters have been judged and its
timeout is settled. What it finds out there is up to the network. A scripted probe
follows a fixed row of outcomes instead of reaching out, which is how schedules are
rehearsed. Two probes are equivalent when nothing that was configured tells them apart.
-/
namespace DnsBalancer

/-- Attempt `n` of a probe's life ends in outcome `n`, the last one for all later
ones, after `delay`. -/
structure Script where
  tag : String
  delay : Duration
  outcomes : List AttemptOutcome
  deriving DecidableEq, Repr, Inhabited

def Script.outcome (s : Script) (n : Nat) : AttemptOutcome :=
  (s.outcomes[n]?).getD (s.outcomes.getLast?.getD .passed)

inductive Check where
  | http (params : HttpParams) (timeout : Duration)
  | tcp (params : TcpParams) (timeout : Duration)
  | scripted (script : Script)
  deriving DecidableEq, Repr, Inhabited

namespace Check

/-- A stable name such as `https/443`. -/
def tag : Check → String
  | .http p _ => (if p.enableTls then "https" else "http") ++ "/" ++ Text.Decimal.render p.port
  | .tcp p _ => "tcp/" ++ Text.Decimal.render p.port
  | .scripted s => s.tag

/-- Makes a check ready. `timeout` is the backend's own, for checks that set none. -/
def ofSpec (spec : CheckSpec) (timeout : Duration) : Except ConfigError Check :=
  let kind := Text.asciiLower (Text.trim spec.kind)
  if kind == "http" then
    match HttpParams.ofValue? spec.params with
    | none => .error (.invalidCheck spec.kind .parameters)
    | some p =>
      match p.fault? with
      | some f => .error (.invalidCheck "http" f)
      | none => .ok (.http p (p.timeout.getD timeout))
  else if kind == "tcp" then
    match TcpParams.ofValue? spec.params with
    | none => .error (.invalidCheck spec.kind .parameters)
    | some p =>
      match p.fault? with
      | some f => .error (.invalidCheck "tcp" f)
      | none => .ok (.tcp p (p.timeout.getD timeout))
  else .error (.unsupportedCheck kind)

end Check

/-- What comes of reaching out: after how long, and what the check makes of it. -/
inductive Reply where
  | never
  | comes (after : Duration) (outcome : AttemptOutcome)
  deriving DecidableEq, Repr, Inhabited

def Reply.within (limit : Duration) : Reply → Duration × AttemptOutcome
  | .comes after outcome => if after ≤ limit then (after, outcome) else (limit, .failed .timedOut)
  | .never => (limit, .failed .timedOut)

/-- The network answers each attempt of a probe as it likes: by the probe's serial number,
the number of the attempt, when it is begun, and what is asked. -/
abbrev Network := Nat → Nat → Instant → Check → Reply

/-- Nobody is there. -/
def Network.silent : Network := fun _ _ _ _ => .never

/-- A check as a backend holds it. The serial number tells it from its equals and is
what its attempts are counted by. -/
structure Probe where
  check : Check
  serial : Nat := 0
  deriving DecidableEq, Repr, Inhabited

namespace Probe

def tag (p : Probe) : String := p.check.tag

/-- How long attempt `n` of the probe's life takes that is begun at `now`, and how it
ends. A reply that does not come within the timeout is not waited for. -/
def attempt (net : Network) (p : Probe) (n : Nat) (now : Instant) :
    Duration × AttemptOutcome :=
  match p.check with
  | .http _ timeout => (net p.serial n now p.check).within (now.timer timeout)
  | .tcp _ timeout => (net p.serial n now p.check).within (now.timer timeout)
  | .scripted s => (now.timer s.delay, s.outcome n)

def equivalent (p q : Probe) : Bool := p.check == q.check

/-- Same length and pairwise equivalent, in order. -/
def allEquivalent : List Probe → List Probe → Bool
  | [], [] => true
  | p :: ps, q :: qs => p.equivalent q && allEquivalent ps qs
  | _, _ => false

end Probe

end DnsBalancer
