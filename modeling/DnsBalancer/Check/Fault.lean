/-!
# How probes fail

The ways in which an attempt of a health check ends. A fault has a class, under which
it is counted, and most faults are worth another attempt.
-/
namespace DnsBalancer

inductive ProbeFault where
  | connection (text : String)
  | protocol (text : String)
  | timedOut
  /-- Nothing that another attempt would mend. -/
  | other (text : String)
  | crashed
  deriving DecidableEq, Repr, Inhabited

namespace ProbeFault

/-- The name of the fault's class. -/
def label : ProbeFault → String
  | .connection _ => "connection"
  | .protocol _ => "protocol"
  | .timedOut => "timeout"
  | .other _ => "other"
  | .crashed => "other"

def message : ProbeFault → String
  | .connection text => "connection failed: " ++ text
  | .protocol text => "unexpected response: " ++ text
  | .timedOut => "timed out"
  | .other text => text
  | .crashed => "the probe crashed"

def retryable : ProbeFault → Bool
  | .connection _ | .protocol _ | .timedOut => true
  | .other _ | .crashed => false

end ProbeFault

inductive AttemptOutcome where
  | passed
  | failed (fault : ProbeFault)
  deriving DecidableEq, Repr, Inhabited

def AttemptOutcome.isPassed : AttemptOutcome → Bool
  | .passed => true
  | .failed _ => false

end DnsBalancer
