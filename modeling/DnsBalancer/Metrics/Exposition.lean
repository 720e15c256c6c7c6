import DnsBalancer.Metrics.Collector

/-!
# The text exposition

Families in the order of their names, each with its help, its type and its series. A
family without series is left out. Labels stand in the order of their names, and series
in the order of their label values.
-/
namespace DnsBalancer

open Text

namespace Metrics

/-- The version that the build is labelled with. -/
def version : String := "0.1.0"

inductive FamilyKind where
  | counter
  | gauge
  | histogram
  deriving DecidableEq, Repr

def FamilyKind.render : FamilyKind → String
  | .counter => "counter"
  | .gauge => "gauge"
  | .histogram => "histogram"

/-- A line of a series: what follows the family's name, its labels, its number. -/
structure Sample where
  ending : String := ""
  labels : List (String × String)
  number : String

structure Family where
  name : String
  help : String
  kind : FamilyKind
  samples : List Sample

/-- A backslash, a quote and a line end are escaped. -/
def escapeLabel (s : String) : String :=
  String.ofList (s.toList.flatMap fun c =>
    if c == '\\' then ['\\', '\\']
    else if c == '"' then ['\\', '"']
    else if c == '\n' then ['\\', 'n']
    else [c])

def renderLabels : List (String × String) → String
  | [] => ""
  | ls => "\x7b" ++ ",".intercalate (ls.map fun (n, v) => n ++ "=\"" ++ escapeLabel v ++ "\"") ++
      "\x7d"

def Sample.render (family : String) (s : Sample) : String :=
  family ++ s.ending ++ renderLabels s.labels ++ " " ++ s.number

def Family.render (f : Family) : List String :=
  if f.samples.isEmpty then []
  else
    ("# HELP " ++ f.name ++ " " ++ f.help) :: ("# TYPE " ++ f.name ++ " " ++ f.kind.render) ::
      f.samples.map (·.render f.name)

def whole (n : Nat) : String := plain (Float.ofNat n)

/-- A gauge holds a count in 64 bits with a sign; a larger count wraps around. -/
def gauge (n : Nat) : String := plain (Float.ofInt (Int.bmod n (Nat.pow 2 64)))

/-- Rows are compared label by label. -/
def before : List (String × String) → List (String × String) → Bool
  | (_, a) :: as, (_, b) :: bs => if a = b then before as bs else a < b
  | [], _ :: _ => true
  | _, [] => false

/-- The rows of a family with their labels, in order. `names` are the labels in the
order of the rows' values. -/
def ordered {α : Type} (names : List String) (s : Series α) :
    List (List (String × String) × α) :=
  let labelled := s.rows.map fun (values, a) =>
    ((names.zip values).mergeSort fun p q => !(q.1 < p.1), a)
  labelled.mergeSort fun p q => !before q.1 p.1

def counterSamples (names : List String) (s : Series Nat) : List Sample :=
  (ordered names s).map fun (labels, n) => { labels, number := whole n }

def flagSamples (names : List String) (s : Series Bool) : List Sample :=
  (ordered names s).map fun (labels, b) => { labels, number := if b then "1" else "0" }

/-- The buckets by their bounds, the unbounded one, the sum and the count. -/
def histogramSamples (names : List String) (s : Series Histogram) : List Sample :=
  (ordered names s).flatMap fun (labels, h) =>
    let bucket (bound : String) (n : Nat) : Sample :=
      ⟨"_bucket", labels ++ [("le", bound)], whole n⟩
    (Histogram.bounds.zip h.cumulative).map (fun (b, n) => bucket (plain b) n) ++
      [bucket "+Inf" h.total, ⟨"_sum", labels, plain h.sum⟩, ⟨"_count", labels, whole h.total⟩]

def families (m : Metrics) : List Family := [
  { name := "gslb_backend_healthy"
    help := "Backend aliveness after the last probe cycle (1=alive, 0=dead)"
    kind := .gauge
    samples := flagSamples ["record", "address"] m.healthy },
  { name := "gslb_backend_selected_total"
    help := "Times a backend address was returned in an answer"
    kind := .counter
    samples := counterSamples ["record", "address"] m.selected },
  { name := "gslb_backends_total"
    help := "Configured backends"
    kind := .gauge
    samples := [{ labels := [], number := gauge m.inventory.backends }] },
  { name := "gslb_build_info"
    help := "Build information"
    kind := .gauge
    samples := [{ labels := [("version", version)], number := "1" }] },
  { name := "gslb_config_reloads_total"
    help := "Configuration reloads by result"
    kind := .counter
    samples := counterSamples ["result"] m.reloads },
  { name := "gslb_healthcheck_duration_seconds"
    help := "Health check duration in seconds"
    kind := .histogram
    samples := histogramSamples ["record", "type", "address", "result"] m.checkTimes },
  { name := "gslb_healthcheck_failures_total"
    help := "Failed health checks by type, backend and failure class"
    kind := .counter
    samples := counterSamples ["type", "address", "reason"] m.checkFailures },
  { name := "gslb_healthchecks_total"
    help := "Configured health checks"
    kind := .gauge
    samples := [{ labels := [], number := gauge m.inventory.checks }] },
  { name := "gslb_record_resolution_duration_seconds"
    help := "Time spent choosing an answer for a record"
    kind := .histogram
    samples := histogramSamples ["record", "outcome"] m.resolutionTimes },
  { name := "gslb_record_resolutions_total"
    help := "Record resolutions by outcome"
    kind := .counter
    samples := counterSamples ["record", "outcome"] m.resolutions },
  { name := "gslb_records_total"
    help := "Configured records"
    kind := .gauge
    samples := [{ labels := [], number := gauge m.inventory.records }] },
  { name := "gslb_zones_total"
    help := "Configured zones"
    kind := .gauge
    samples := [{ labels := [], number := gauge m.inventory.zones }] }]

/-- The exposition, line by line. -/
def render (m : Metrics) : List String := (families m).flatMap (·.render)

end Metrics

end DnsBalancer
