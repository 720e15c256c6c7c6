import DnsBalancer.Duration.Text
import DnsBalancer.Yaml.Reader

/-!
# Durations in settings

A setting gives a duration as a whole number of seconds or as text. The same rule
holds for a settings text and for a value taken out of one.
-/
namespace DnsBalancer.Duration

open Yaml (Value Node Read)

def ofValue? : Value → Option Duration
  | .number (.int n) => if 0 ≤ n && n < Nat.pow 2 64 then some (ofSeconds n.toNat) else none
  | .string s => parse? s
  | _ => none

def read (n : Node) : Read Duration := do
  Read.ofOption (ofValue? (← Read.scalarValue n))

/-- How often to act, and how long one act may take. -/
structure Timing where
  interval : Duration
  timeout : Option Duration
  deriving DecidableEq, Repr

/-- Reads an `interval` and, where it is set, a `timeout`. -/
def Timing.read (n : Node) : Read Timing := do
  let es ← Read.fields ["interval", "timeout"] n
  return {
    interval := ← Read.required "interval" Duration.read es
    timeout := ← Read.defaulted "timeout" none (Read.optional Duration.read) es }

def Timing.parse? (text : String) : Option Timing :=
  Yaml.readText? Timing.read text

end DnsBalancer.Duration
