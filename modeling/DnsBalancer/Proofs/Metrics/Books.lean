import DnsBalancer.Proofs.Metrics.Labels
import DnsBalancer.Probing.Flight

/-!
# Books of checks and of queries

Counters and histograms are written at different places and under different labels. What they
hold has to agree all the same: a failure that is counted is a check that was timed, and a
resolution that is counted was timed as well. Sums over rows stay in step as long as the rows of a
family are as many as the label values it was given.
-/
namespace DnsBalancer

namespace Series

variable {α β : Type} {value : α → Nat} {picked : List String → Bool} {labels : List String}
  {key : RowKey}

def sumRows (value : α → Nat) (picked : List String → Bool) (rows : List (List String × α)) : Nat :=
  ((rows.filter (picked ·.1)).map (value ·.2)).sum

/-- The sum over the rows whose labels are picked. -/
def sum (value : α → Nat) (picked : List String → Bool) (s : Series α) : Nat :=
  sumRows value picked s.rows

theorem sumRows_cons (e : List String × α) (rows : List (List String × α)) :
    sumRows value picked (e :: rows) =
      (if picked e.1 then value e.2 else 0) + sumRows value picked rows := by
  unfold sumRows
  rw [List.filter_cons]
  split <;> simp

theorem sumRows_place {rows : List (List String × α)} {a : α}
    (alike : ∀ e ∈ rows, key e.1 = key labels → picked e.1 = picked labels)
    (worth : value a = ((lookup key (key labels) rows).map value).getD 0 + 1) :
    sumRows value picked (place key labels a rows) =
      sumRows value picked rows + if picked labels then 1 else 0 := by
  induction rows with
  | nil =>
    rw [place, sumRows_cons, worth]
    simp [sumRows, lookup]
  | cons e rows ih =>
    obtain ⟨l, b⟩ := e
    obtain ⟨own, others⟩ := List.forall_mem_cons.mp alike
    rw [place]
    rw [lookup] at worth
    split
    · rename_i same
      rw [if_pos same, Option.map_some, Option.getD_some] at worth
      rw [sumRows_cons, sumRows_cons, own same, worth]
      dsimp only
      split <;> omega
    · rename_i different
      rw [if_neg different] at worth
      rw [sumRows_cons, sumRows_cons, ih others worth, Nat.add_assoc]

/-- Its rows have `width` values each, and as many rows as those are different. -/
structure Regular (width : Nat) (s : Series α) : Prop where
  faithful : s.key.Faithful
  widths : ∀ e ∈ s.rows, e.1.length = width

theorem regular_empty (faithful : key.Faithful) (width : Nat) :
    (empty key : Series α).Regular width where
  faithful := faithful
  widths _ member := (List.not_mem_nil member).elim

theorem regular_update {s : Series α} {width : Nat} {initial : α} {f : α → α}
    (regular : s.Regular width) (written : labels.length = width) :
    (s.update labels initial f).Regular width where
  faithful := regular.faithful
  widths := by
    rintro ⟨l, v⟩ member
    rcases mem_place s.distinct member with ⟨_, _, rfl | ⟨w, before⟩⟩ | ⟨_, before⟩
    · exact written
    · exact regular.widths (l, w) before
    · exact regular.widths (l, v) before

/-- A row that is updated counts for one more. -/
theorem sum_update {s : Series α} {initial : α} {f : α → α} (start : value initial = 0)
    (step : ∀ a, value (f a) = value a + 1) (regular : s.Regular labels.length) :
    (s.update labels initial f).sum value picked =
      s.sum value picked + if picked labels then 1 else 0 := by
  refine sumRows_place (fun e member same => ?_) ?_
  · rw [regular.faithful e.1 labels (regular.widths e member) same]
  · rw [step, find?]
    cases lookup s.key (s.key labels) s.rows with
    | none => rw [Option.getD_none, start]; rfl
    | some a => rfl

theorem lookup_map (f : α → β) (k : List String) (rows : List (List String × α)) :
    lookup key k (rows.map fun e => (e.1, f e.2)) = (lookup key k rows).map f := by
  induction rows with
  | nil => rfl
  | cons e rows ih =>
    rw [List.map_cons, lookup, lookup, ih]
    split <;> rfl

theorem place_map (f : α → β) (labels : List String) (a : α) (rows : List (List String × α)) :
    place key labels (f a) (rows.map fun e => (e.1, f e.2)) =
      (place key labels a rows).map fun e => (e.1, f e.2) := by
  induction rows with
  | nil => rfl
  | cons e rows ih =>
    rw [List.map_cons, place, place, ih]
    split <;> rfl

/-- Two families that are updated alike stay alike. -/
theorem rows_update_map {s : Series β} {t : Series α} {f : α → β} {first : β} {initial : α}
    {g : β → β} {h : α → α} (start : f initial = first) (step : ∀ a, f (h a) = g (f a))
    (keys : s.key = t.key) (same : s.rows = t.rows.map fun e => (e.1, f e.2)) :
    (s.update labels first g).rows =
      (t.update labels initial h).rows.map fun e => (e.1, f e.2) := by
  have found : (s.find? labels).getD first = f ((t.find? labels).getD initial) := by
    rw [find?, same, keys, lookup_map, find?]
    cases lookup t.key (t.key labels) t.rows with
    | none => exact start.symm
    | some a => rfl
  rw [update, found, ← step]
  change place s.key labels _ s.rows = _
  rw [same, keys]
  exact place_map f labels _ t.rows

end Series

/-! ### Checks -/

namespace Metrics

/-- What is counted of failed checks whose kind and address are among those. -/
def countedFailures (m : Metrics) (those : String → String → Bool) : Nat :=
  m.checkFailures.sum id fun
    | [kind, address, _] => those kind address
    | _ => false

/-- How often such checks were timed that failed. -/
def timedFailures (m : Metrics) (those : String → String → Bool) : Nat :=
  m.checkTimes.sum (·.total) fun
    | [_, kind, address, result] => result == "fail" && those kind address
    | _ => false

/-- What is counted of checks that failed was timed. -/
structure Checked (m : Metrics) : Prop where
  counted : m.checkFailures.Regular 3
  timed : m.checkTimes.Regular 4
  balanced : ∀ those, m.countedFailures those = m.timedFailures those

section

variable {m : Metrics}

theorem countedFailures_checkFailed (checked : m.Checked) (kind address reason : String)
    (those : String → String → Bool) :
    (m.checkFailed kind address reason).countedFailures those =
      m.countedFailures those + if those kind address then 1 else 0 :=
  Series.sum_update rfl (fun _ => rfl) checked.counted

theorem timedFailures_checkObserved (checked : m.Checked) (record kind address : String)
    (ok : Bool) (d : Duration) (those : String → String → Bool) :
    (m.checkObserved record kind address ok d).timedFailures those =
      m.timedFailures those + if resultLabel ok == "fail" && those kind address then 1 else 0 :=
  Series.sum_update rfl (fun _ => rfl) checked.timed

theorem regular_checkObserved (checked : m.Checked) (record kind address : String) (ok : Bool)
    (d : Duration) : (m.checkObserved record kind address ok d).checkTimes.Regular 4 := by
  change Series.Regular 4
    (m.checkTimes.update [record, kind, address, resultLabel ok] .empty (·.observe d))
  exact Series.regular_update checked.timed rfl

/-- What is found of one probe is timed, and counted if it is a failure. -/
theorem checked_one (checked : m.Checked) (record address kind : String) (c : Completion) :
    (m.probed record address [(kind, c)]).Checked := by
  obtain ⟨after, outcome⟩ := c
  cases outcome with
  | passed =>
    change (m.checkObserved record kind address true after).Checked
    refine ⟨checked.counted, regular_checkObserved checked record kind address true after,
      fun those => ?_⟩
    exact (checked.balanced those).trans
      (timedFailures_checkObserved checked record kind address true after those).symm
  | failed fault =>
    change ((m.checkObserved record kind address false after).checkFailed kind address
      fault.label).Checked
    refine ⟨Series.regular_update checked.counted rfl,
      regular_checkObserved checked record kind address false after, fun those => ?_⟩
    have counted := countedFailures_checkFailed checked kind address fault.label those
    rw [checked.balanced those] at counted
    exact counted.trans
      (timedFailures_checkObserved checked record kind address false after those).symm

/-- A cycle leaves the books of checks in balance. -/
theorem checked_probed (checked : m.Checked) (record address : String)
    (results : List (String × Completion)) : (m.probed record address results).Checked := by
  induction results generalizing m with
  | nil => exact checked
  | cons r results ih => exact ih (checked_one checked record address r.1 r.2)

end

/-! ### Queries -/

/-- What is counted of resolutions, in success and failure, of records with one of the names. -/
def countedResolutions (m : Metrics) (those : String → Bool) : Nat :=
  m.resolutions.sum id fun
    | [name, outcome] => (outcome == "success" || outcome == "fail") && those name
    | _ => false

/-- What is counted of selections, by all addresses, of records with one of the names. -/
def countedSelections (m : Metrics) (those : String → Bool) : Nat :=
  m.selected.sum id fun
    | [name, _] => those name
    | _ => false

/-- Resolutions are counted as often as they are timed. -/
structure Queried (m : Metrics) : Prop where
  outcomes : m.resolutions.Regular 2
  selected : m.selected.Regular 2
  keys : m.resolutions.key = m.resolutionTimes.key
  timed : m.resolutions.rows = m.resolutionTimes.rows.map fun e => (e.1, e.2.total)

section

variable {m : Metrics} (queried : m.Queried)

include queried

theorem countedResolutions_resolved (name : String) (ok : Bool) (d : Duration)
    (those : String → Bool) : (m.resolved name (resultLabel ok) d).countedResolutions those =
      m.countedResolutions those + if those name then 1 else 0 := by
  refine (@Series.sum_update Nat id _ [name, resultLabel ok] m.resolutions 0 (· + 1) rfl
    (fun _ => rfl) queried.outcomes).trans ?_
  cases ok <;> rfl

theorem countedSelections_backendSelected (name address : String) (those : String → Bool) :
    (m.backendSelected name address).countedSelections those =
      m.countedSelections those + if those name then 1 else 0 :=
  Series.sum_update rfl (fun _ => rfl) queried.selected

theorem queried_resolved (name outcome : String) (d : Duration) :
    (m.resolved name outcome d).Queried where
  outcomes := Series.regular_update queried.outcomes rfl
  selected := queried.selected
  keys := queried.keys
  timed := Series.rows_update_map rfl (fun _ => rfl) queried.keys queried.timed

theorem queried_backendSelected (name address : String) :
    (m.backendSelected name address).Queried where
  outcomes := queried.outcomes
  selected := Series.regular_update queried.selected rfl
  keys := queried.keys
  timed := queried.timed

end

/-! ### Who writes what -/

/-- The families that cycles write. -/
def checks (m : Metrics) : Series Nat × Series Histogram := (m.checkFailures, m.checkTimes)

/-- The families that queries write. -/
def queries (m : Metrics) : Series Nat × Series Nat × Series Histogram :=
  (m.selected, m.resolutions, m.resolutionTimes)

theorem Checked.of_checks {m n : Metrics} (checked : m.Checked) (same : n.checks = m.checks) :
    n.Checked := by
  obtain ⟨failures, times⟩ := Prod.mk.inj same
  obtain ⟨counted, timed, balanced⟩ := checked
  refine ⟨failures ▸ counted, times ▸ timed, fun those => ?_⟩
  rw [countedFailures, timedFailures, failures, times]
  exact balanced those

theorem Queried.of_queries {m n : Metrics} (queried : m.Queried) (same : n.queries = m.queries) :
    n.Queried := by
  obtain ⟨selected, resolutions, times⟩ : _ ∧ _ ∧ _ := by
    simpa only [queries, Prod.mk.injEq] using same
  obtain ⟨outcomes, chosen, keys, timed⟩ := queried
  exact ⟨resolutions ▸ outcomes, selected ▸ chosen, by rw [resolutions, times, keys],
    by rw [resolutions, times, timed]⟩

/-- No rows are in balance. -/
theorem checked_keyed {key : RowKey} (faithful : key.Faithful) : (keyed key).Checked where
  counted := Series.regular_empty faithful 3
  timed := Series.regular_empty faithful 4
  balanced _ := rfl

theorem queried_keyed {key : RowKey} (faithful : key.Faithful) : (keyed key).Queried where
  outcomes := Series.regular_empty faithful 2
  selected := Series.regular_empty faithful 2
  keys := rfl
  timed := rfl

theorem queries_probed (m : Metrics) (record address : String)
    (results : List (String × Completion)) :
    (m.probed record address results).queries = m.queries := by
  unfold probed
  induction results generalizing m with
  | nil => rfl
  | cons result results ih =>
    rw [List.foldl_cons, ih]
    dsimp only
    split <;> rfl

end Metrics

end DnsBalancer
