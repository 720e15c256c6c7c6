import DnsBalancer.Proofs.Balancer.Upkeep
import DnsBalancer.Proofs.Metrics.Books
import DnsBalancer.Proofs.Traversal

/-!
# The books of a balancer

In every run the books balance, as long as a family has one row for each row of label values that
it is given: failures are counted as often as they are timed, resolutions too, and there is one
resolution for each query that found a record and one selection for each single address that a
policy chose.
-/
namespace DnsBalancer

/-! ### Cycles that end -/

namespace Flight

/-- Whether or not its finding is taken over, a cycle leaves the books of checks in balance. -/
theorem checked_land (f : Flight) (date : Timestamp) (x : Backend) {m : Metrics}
    (checked : m.Checked) : (f.land date x m).metrics.Checked := by
  have probed := Metrics.checked_probed checked x.record x.address.render f.results
  unfold land
  dsimp only
  split
  · exact probed.of_checks rfl
  · exact probed

theorem queries_land (f : Flight) (date : Timestamp) (x : Backend) (m : Metrics) :
    (f.land date x m).metrics.queries = m.queries := by
  have probed := m.queries_probed x.record x.address.render f.results
  unfold land
  dsimp only
  split <;> exact probed

end Flight

namespace Balancer

theorem checked_landFlight (zone fqdn : String) {b : Balancer} (checked : b.metrics.Checked)
    (f : Flight) : (landFlight zone fqdn b f).metrics.Checked := by
  unfold landFlight
  split
  · exact f.checked_land _ _ checked
  · dsimp only
    split
    · exact checked
    · split
      · exact checked
      · exact f.checked_land _ _ checked

theorem upkeep_checked : Upkeep (·.metrics.Checked) fun _ => True where
  tallied _ checked := checked
  begun checked _ := ⟨checked, fun _ _ _ _ _ _ _ => trivial⟩
  resumed _ _ _ _ := trivial
  landed zone fqdn checked _ := checked_landFlight zone fqdn checked _

theorem queries_landFlight (zone fqdn : String) (b : Balancer) (f : Flight) :
    (landFlight zone fqdn b f).metrics.queries = b.metrics.queries := by
  unfold landFlight
  split
  · exact f.queries_land ..
  · dsimp only
    split
    · rfl
    · split
      · rfl
      · exact f.queries_land ..

theorem upkeep_queries (c : Balancer) :
    Upkeep (·.metrics.queries = c.metrics.queries) fun _ => True where
  tallied _ same := same
  begun same _ := ⟨same, fun _ _ _ _ _ _ _ => trivial⟩
  resumed _ _ _ _ := trivial
  landed zone fqdn same _ := (queries_landFlight zone fqdn _ _).trans same

/-! ### Queries -/

/-- The books are kept. -/
structure Booked (b : Balancer) : Prop where
  checked : b.metrics.Checked
  queried : b.metrics.Queried

/-- One address was chosen and no more. -/
def isSingle : Except SelectionError (List Address) → Bool
  | .ok [_] => true
  | _ => false

/-- The name of the record whose policy is asked, if it chooses a single address. -/
def single? (b : Balancer) (name : String) (family : Family) (client : Address) (chance : Chance) :
    Option String :=
  if isSingle (b.pick name family client chance).1 then (b.findRecord name).map (·.fqdn)
  else none

/-- In the second state the books are kept, with one more resolution and one more selection if
they are of records. -/
structure Grows (b c : Balancer) (heard drawn : Option String) : Prop where
  booked : c.Booked
  resolutions : ∀ those, c.metrics.countedResolutions those =
    b.metrics.countedResolutions those + if heard.any those then 1 else 0
  selections : ∀ those, c.metrics.countedSelections those =
    b.metrics.countedSelections those + if drawn.any those then 1 else 0

section

variable {b c : Balancer}

theorem grows_of_queries (booked : b.Booked) (checked : c.metrics.Checked)
    (same : c.metrics.queries = b.metrics.queries) : b.Grows c none none := by
  obtain ⟨selected, resolutions, _⟩ : _ ∧ _ ∧ _ := by
    simpa only [Metrics.queries, Prod.mk.injEq] using same
  refine ⟨⟨checked, booked.queried.of_queries same⟩, fun those => ?_, fun those => ?_⟩
  · rw [Metrics.countedResolutions, resolutions]
    rfl
  · rw [Metrics.countedSelections, selected]
    rfl

theorem grows_of_counts (booked : b.Booked) (checks : c.metrics.checks = b.metrics.checks)
    (queries : c.metrics.queries = b.metrics.queries) : b.Grows c none none :=
  grows_of_queries booked (booked.checked.of_checks checks) queries

/-- A record that was asked is put back with its policy further on. -/
theorem grows_select (booked : b.Booked) (r : Record)
    (answer : Except SelectionError (List Address)) :
    b.Grows { b with zones := b.zones.put r, metrics := countSelected b.metrics r.fqdn answer }
      none (if isSingle answer then some r.fqdn else none) := by
  unfold countSelected
  split
  · rename_i a
    refine ⟨⟨booked.checked.of_checks rfl, Metrics.queried_backendSelected booked.queried _ _⟩,
      fun _ => rfl, ?_⟩
    exact Metrics.countedSelections_backendSelected booked.queried r.fqdn a.render
  · rename_i several
    have plural : isSingle answer = false := by
      unfold isSingle
      split
      · rename_i a
        exact absurd rfl (several a)
      · rfl
    rw [plural]
    exact grows_of_counts booked rfl rfl

theorem grows_pick (booked : b.Booked) (name : String) (family : Family) (client : Address)
    (chance : Chance) : b.Grows (b.pick name family client chance).2 none
      (b.single? name family client chance) := by
  unfold single?
  unfold pick record
  cases b.findRecord name with
  | none => exact grows_of_counts booked rfl rfl
  | some r => exact grows_select booked _ _

/-- One more resolution is counted and timed. -/
theorem Grows.resolved {drawn : Option String} (grows : b.Grows c none drawn) (fqdn : String)
    (ok : Bool) :
    b.Grows (c.countResolved fqdn (Metrics.resultLabel ok)) (some fqdn) drawn where
  booked := ⟨grows.booked.checked.of_checks rfl,
    Metrics.queried_resolved grows.booked.queried fqdn _ .zero⟩
  resolutions := by
    intro those
    have before := grows.resolutions those
    have after := Metrics.countedResolutions_resolved grows.booked.queried fqdn ok .zero those
    rw [before] at after
    exact after
  selections := grows.selections

end

end Balancer

/-! ### Events -/

/-- A move, or a cycle that ends though no loop has begun it: on a backend of a record, or on one
that was taken off. -/
inductive Event where
  | move (m : Move)
  | cycle (zone fqdn : String) (f : Flight)

namespace Balancer

def undergo (b : Balancer) : Event → Balancer
  | .move m => b.move m
  | .cycle zone fqdn f => landFlight zone fqdn b f

def undergoes (b : Balancer) (es : List Event) : Balancer := es.foldl undergo b

/-- The name of the record that a query finds. -/
def heard? (b : Balancer) : Event → Option String
  | .move (.answer name _ _ _) => (b.findRecord name).map (·.fqdn)
  | _ => none

/-- The name of the record whose policy chooses a single address, asked for by itself or in the
course of a query. -/
def drawn? (b : Balancer) : Event → Option String
  | .move (.pick name family client chance) => b.single? name family client chance
  | .move (.answer name family client chance) => (b.findRecord name).bind fun r =>
    (b.noteQuery r.fqdn).single? r.fqdn family client chance
  | _ => none

/-- How often in a run something concerns a record with one of the names. -/
def countRun (concerned? : Balancer → Event → Option String) (those : String → Bool) :
    Balancer → List Event → Nat
  | _, [] => 0
  | b, e :: es => (if (concerned? b e).any those then 1 else 0) +
    countRun concerned? those (b.undergo e) es

section

variable {b : Balancer}

theorem grows_answer (booked : b.Booked) (name : String) (family : Family) (client : Address)
    (chance : Chance) : b.Grows (b.answer name family client chance).2
      (b.heard? (.move (.answer name family client chance)))
      (b.drawn? (.move (.answer name family client chance))) := by
  change b.Grows _ ((b.findRecord name).map (·.fqdn)) ((b.findRecord name).bind fun r =>
    (b.noteQuery r.fqdn).single? r.fqdn family client chance)
  unfold answer record
  cases b.findRecord name with
  | none => exact grows_of_counts booked rfl rfl
  | some r =>
    have noted : (b.noteQuery r.fqdn).Booked := ⟨booked.checked, booked.queried⟩
    have picked := grows_pick noted r.fqdn family client chance
    have counted {c : Balancer} (ok : Bool) (grows : (b.noteQuery r.fqdn).Grows c none
        ((b.noteQuery r.fqdn).single? r.fqdn family client chance)) :
        b.Grows (c.countResolved r.fqdn (Metrics.resultLabel ok)) (some r.fqdn)
          ((b.noteQuery r.fqdn).single? r.fqdn family client chance) :=
      ⟨(grows.resolved r.fqdn ok).booked, (grows.resolved r.fqdn ok).resolutions,
        (grows.resolved r.fqdn ok).selections⟩
    dsimp only
    split
    · rename_i answered
      rw [answered] at picked
      exact counted true picked
    · rename_i failed
      rw [failed] at picked
      exact counted false picked

theorem counts_forgetHealth (m : Metrics) (fqdn : String) (xs : List Backend) :
    (forgetHealth m fqdn xs).checks = m.checks ∧ (forgetHealth m fqdn xs).queries = m.queries := by
  unfold forgetHealth
  induction xs generalizing m with
  | nil => exact ⟨rfl, rfl⟩
  | cons x xs ih => exact ih (m.removeBackend fqdn x.address.render)

/-- A reload leaves all that was counted. -/
theorem counts_reloadZone (b : Balancer) (z : ZoneDefinition) :
    (b.reloadZone z).2.metrics.checks = b.metrics.checks ∧
      (b.reloadZone z).2.metrics.queries = b.metrics.queries := by
  have both := frame_reloadZone (fun b => (b.metrics.checks, b.metrics.queries))
    (fun zone fqdn b => by rw [metrics_spawn])
    (fun b r => Prod.ext_iff.mpr (counts_forgetHealth b.metrics r.fqdn r.backends))
    (fun _ b d => Prod.ext_iff.mpr (counts_forgetHealth b.metrics d.fqdn d.backends))
    (fun _ => rfl) b z
  exact Prod.mk.inj both

theorem counts_start (b : Balancer) : b.start.metrics.checks = b.metrics.checks ∧
    b.start.metrics.queries = b.metrics.queries := by
  rw [start_eq]
  split
  · exact ⟨rfl, rfl⟩
  · have started := metrics_spawnAll { b with running := true } b.roster
    have checks := congrArg Metrics.checks started
    have queries := congrArg Metrics.queries started
    exact ⟨checks, queries⟩

theorem grows_poll (booked : b.Booked) (number : Nat) : b.Grows (b.poll number) none none := by
  obtain ⟨checked, _⟩ := upkeep_checked.poll (fun _ _ checked => checked) number booked.checked
    fun _ _ _ _ => trivial
  obtain ⟨same, _⟩ := (upkeep_queries b).poll (fun _ _ same => same) number rfl
    fun _ _ _ _ => trivial
  exact grows_of_queries booked checked same

theorem grows_undergo (booked : b.Booked) (e : Event) :
    b.Grows (b.undergo e) (b.heard? e) (b.drawn? e) := by
  cases e with
  | move m =>
    cases m with
    | tick now date => exact grows_of_counts booked rfl rfl
    | poll number => exact grows_poll booked number
    | attempts => exact grows_of_counts booked rfl rfl
    | surroundings network order => exact grows_of_counts booked rfl rfl
    | start => exact grows_of_counts booked (counts_start b).1 (counts_start b).2
    | shutdown => exact grows_of_counts booked rfl rfl
    | reload z => exact grows_of_counts booked (counts_reloadZone b z).1 (counts_reloadZone b z).2
    | pick name family client chance => exact grows_pick booked name family client chance
    | answer name family client chance => exact grows_answer booked name family client chance
  | cycle zone fqdn f =>
    exact grows_of_queries booked (checked_landFlight zone fqdn booked.checked f)
      (queries_landFlight zone fqdn b f)

theorem booked_undergoes (booked : b.Booked) (es : List Event) :
    (b.undergoes es).Booked ∧
      (∀ those, (b.undergoes es).metrics.countedResolutions those =
        b.metrics.countedResolutions those + countRun heard? those b es) ∧
      ∀ those, (b.undergoes es).metrics.countedSelections those =
        b.metrics.countedSelections those + countRun drawn? those b es := by
  induction es generalizing b with
  | nil => exact ⟨booked, fun _ => rfl, fun _ => rfl⟩
  | cons e es ih =>
    have step := grows_undergo booked e
    obtain ⟨after, resolutions, selections⟩ := ih step.booked
    refine ⟨after, fun those => ?_, fun those => ?_⟩
    · have run := resolutions those
      rw [step.resolutions those, Nat.add_assoc] at run
      exact run
    · have run := selections those
      rw [step.selections those, Nat.add_assoc] at run
      exact run

end

/-- In every run the books balance, if a family has a row for each row of label values. For every
kind of check and every address, failures are counted as often as they are timed, whatever their
reasons and records; resolutions are counted as often as they are timed, row by row, and as often
as queries find their record; and selections are counted as often as a policy is asked and chooses
a single address. -/
theorem books_balanced {key : RowKey} (faithful : key.Faithful) (zs : List ZoneDefinition)
    (profiles : Profiles) (locations : LocationTable) (geo : GeoSources) (pacing : Pacing)
    (es : List Event) :
    let b := built zs profiles locations geo pacing key
    let m := (b.undergoes es).metrics
    (∀ kind address, m.countedFailures (fun k a => k == kind && a == address) =
      m.timedFailures fun k a => k == kind && a == address) ∧
    m.resolutions.rows = m.resolutionTimes.rows.map (fun e => (e.1, e.2.total)) ∧
    (∀ those, m.countedResolutions those = countRun heard? those b es) ∧
    ∀ those, m.countedSelections those = countRun drawn? those b es := by
  intro b m
  have start : b.Booked := ⟨Metrics.checked_keyed faithful, Metrics.queried_keyed faithful⟩
  obtain ⟨booked, resolutions, selections⟩ := booked_undergoes start es
  refine ⟨fun kind address => booked.checked.balanced _, booked.queried.timed, fun those => ?_,
    fun those => ?_⟩
  · exact (resolutions those).trans (Nat.zero_add _)
  · exact (selections those).trans (Nat.zero_add _)

/-- Two records with one backend in common. -/
def sharedText : String :=
  "records:\n  a.example.org.:\n    backends:\n      - address: 192.168.0.1\n" ++
  "        healthchecks:\n          - type: tcp\n            params: {port: 80}\n" ++
  "  b.example.org.:\n    backends:\n      - address: 192.168.0.1\n" ++
  "        healthchecks:\n          - type: tcp\n            params: {port: 80}\n"

/-- A cycle of the first record's backend that comes too late for its finding to be taken over. -/
def lateCycle : Flight where
  address := .v4 0xc0a80001#32
  cycle := 1
  began := .zero
  deadline := .ofSeconds 5
  slots := [
    { tag := "tcp/80", progress := .done (.failed (.connection "refused")), ended := .zero }]

/-- Both backends are probed, which takes until the timeout; there is the late cycle; and the first
record is asked for. -/
def probedOnce : List Event :=
  [.move .start, .move (.poll 0), .move (.poll 1), .move (.tick (.ofSeconds 6) ⟨0⟩),
    .move (.poll 0), .move (.poll 1), .cycle "example.org." "a.example.org." lateCycle,
    .move (.answer "a.example.org." .ipv4 (.v4 0#32) default)]

/-- What is held after such a run. -/
def bookedFrom (z : ZoneDefinition) : Metrics :=
  ((built [z] [] {} {} {} id).undergoes probedOnce).metrics

/-- The two records' failures are counted together, of different classes, and were timed apart. -/
theorem books_balanced_shared : ∃ z, ZoneDefinition.parse "example.org" sharedText [] = .ok z ∧
    RowKey.Faithful id ∧
    (bookedFrom z).timedFailures (fun k a => k == "tcp/80" && a == "192.168.0.1") = 3 ∧
    (bookedFrom z).resolutions.rows = [(["a.example.org.", "fail"], 1)] := by
  have counted : (ZoneDefinition.parse "example.org" sharedText []).toOption.map (fun z =>
      ((bookedFrom z).countedFailures fun k a => k == "tcp/80" && a == "192.168.0.1",
        (bookedFrom z).resolutions.rows)) = some (3, [(["a.example.org.", "fail"], 1)]) := by
    decide +kernel
  obtain ⟨z, loaded, failures⟩ := exists_of_toOption_map counted
  obtain ⟨failed, resolved⟩ := Prod.mk.inj failures
  have balanced := books_balanced RowKey.faithful_id [z] [] {} {} {} probedOnce
  exact ⟨z, loaded, RowKey.faithful_id, (balanced.1 "tcp/80" "192.168.0.1").symm.trans failed,
    resolved⟩

end Balancer

end DnsBalancer
