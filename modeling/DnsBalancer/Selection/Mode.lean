import DnsBalancer.ConfigError

/-!
# Selection modes

The seven policies by which a record's backends are chosen.
-/
namespace DnsBalancer

inductive Mode where
  | failover
  | roundRobin
  | random
  | weighted
  | geoip
  | nearest
  | fastest
  deriving DecidableEq, Repr

namespace Mode

instance : Inhabited Mode := ⟨.failover⟩

def render : Mode → String
  | .failover => "failover"
  | .roundRobin => "roundrobin"
  | .random => "random"
  | .weighted => "weighted"
  | .geoip => "geoip"
  | .nearest => "nearest"
  | .fastest => "fastest"

/-- Every spelling of a mode. -/
def spellings : List (String × Mode) :=
  [("failover", .failover), ("roundrobin", .roundRobin), ("round-robin", .roundRobin),
    ("round_robin", .roundRobin), ("random", .random), ("weighted", .weighted),
    ("geoip", .geoip), ("nearest", .nearest), ("closest", .nearest), ("fastest", .fastest)]

/-- Reads a mode in any letter case, whatever blanks surround it. -/
def parse (s : String) : Except ConfigError Mode :=
  let word := Text.asciiLower (Text.trim s)
  match spellings.lookup word with
  | some mode => .ok mode
  | none => .error (.invalidMode word)

end Mode

end DnsBalancer
