import DnsBalancer.Proofs.Registry.Record
import DnsBalancer.Registry.Zones

/-!
# Merging a zone's definition into the registry

A reload walks over the records of the definition and then over the live records that the
walk did not meet. What one step of the walk does is said first, what the whole walk leaves
follows by induction on the definition, and the registry after the reload is read off.
-/
namespace DnsBalancer.Zones

theorem find?_recordsOf (m : Zones) (zone fqdn : String) :
    (recordsOf m zone).find? fqdn = m.record? zone fqdn := rfl

theorem record?_insert (m : Zones) (zone other fqdn : String) (rs : NameMap Record) :
    record? (NameMap.insert m zone rs) other fqdn =
      if zone = other then rs.find? fqdn else m.record? other fqdn := by
  rw [record?, recordsOf, NameMap.find?_insert]
  split <;> rfl

/-! ### Names in order -/

theorem mem_sortNames {name : String} {names : List String} :
    name ∈ sortNames names ↔ name ∈ names := List.mem_mergeSort

theorem pairwise_sortNames {names : List String} (distinct : names.Nodup) :
    (sortNames names).Pairwise (· < ·) := by
  have ordered : (sortNames names).Pairwise fun a b => (decide (a < b) || a == b) = true := by
    apply List.pairwise_mergeSort
    · intro a b c before after
      simp only [Bool.or_eq_true, decide_eq_true_eq, beq_iff_eq] at before after ⊢
      grind
    · intro a b
      simp only [Bool.or_eq_true, decide_eq_true_eq, beq_iff_eq]
      grind
  have different : (sortNames names).Pairwise (· ≠ ·) :=
    (List.mergeSort_perm names _).nodup_iff.mpr distinct
  refine (ordered.and different).imp fun {a b} both => ?_
  simpa [both.2] using both.1

/-! ### The walk over the definition -/

namespace Merge

section

variable (zone : String) (cancelled : Bool) (live : NameMap Record)

/-- What a definition leads to when no other one has its name. -/
def outcome (d : RecordDefinition) : Record :=
  match live.find? d.fqdn with
  | some before => (before.updateFrom d).2
  | none => .ofDefinition zone d cancelled

/-- The record is live and not as its definition says. -/
def changes (d : RecordDefinition) : Bool :=
  match live.find? d.fqdn with
  | some before => !(before.updateFrom d).1.isEmpty
  | none => false

variable (m : Merge) (d : RecordDefinition)

theorem find?_step (fqdn : String) (different : d.fqdn ≠ fqdn) :
    (step zone cancelled live m d).next.find? fqdn = m.next.find? fqdn := by
  unfold step
  split <;> simp [different]

theorem find?_step_self (unseen : m.next.find? d.fqdn = none) :
    (step zone cancelled live m d).next.find? d.fqdn = some (outcome zone cancelled live d) := by
  cases found : live.find? d.fqdn with
  | none => simp [step, outcome, found]
  | some before => simp [step, outcome, found, unseen]

theorem added_step : (step zone cancelled live m d).added =
    m.added ++ if live.contains d.fqdn then [] else [d.fqdn] := by
  cases found : live.find? d.fqdn <;> simp [step, NameMap.contains, found]

theorem updated_step (unseen : m.next.find? d.fqdn = none) :
    (step zone cancelled live m d).updated =
      m.updated ++ if changes live d then [d.fqdn] else [] := by
  cases found : live.find? d.fqdn with
  | none => simp [step, changes, found]
  | some before =>
    cases empty : (before.updateFrom d).1.isEmpty <;>
      simp [step, changes, found, unseen, empty]

variable (ds : List RecordDefinition)

/-- The walk leaves names alone that the definition does not have. -/
theorem find?_run_absent (fqdn : String) (absent : ∀ d ∈ ds, d.fqdn ≠ fqdn) :
    (ds.foldl (step zone cancelled live) m).next.find? fqdn = m.next.find? fqdn := by
  induction ds generalizing m with
  | nil => rfl
  | cons d ds ih =>
    rw [List.foldl_cons, ih _ fun x member => absent x (by simp [member])]
    exact find?_step zone cancelled live m d fqdn (absent d (by simp))

theorem contains_step (fqdn : String) :
    (step zone cancelled live m d).next.contains fqdn = true ↔
      d.fqdn = fqdn ∨ m.next.contains fqdn = true := by
  by_cases equal : d.fqdn = fqdn
  · unfold step
    split <;> simp [NameMap.contains, equal]
  · simp [NameMap.contains, find?_step zone cancelled live m d fqdn equal, equal]

/-- The walk meets the names of the definition and no others. -/
theorem contains_run (fqdn : String) :
    (ds.foldl (step zone cancelled live) m).next.contains fqdn = true ↔
      fqdn ∈ ds.map (·.fqdn) ∨ m.next.contains fqdn = true := by
  induction ds generalizing m with
  | nil => simp
  | cons d ds ih =>
    rw [List.foldl_cons, ih, contains_step, List.map_cons, List.mem_cons, eq_comm (a := fqdn)]
    tauto

theorem added_run : (ds.foldl (step zone cancelled live) m).added =
    m.added ++ (ds.filter (!live.contains ·.fqdn)).map (·.fqdn) := by
  induction ds generalizing m with
  | nil => simp
  | cons d ds ih =>
    rw [List.foldl_cons, ih, added_step, List.filter_cons]
    cases live.contains d.fqdn <;> simp

end

variable {zone : String} {cancelled : Bool} {live : NameMap Record} {m : Merge}
  {ds : List RecordDefinition}

/-- Once a step is taken, the definitions to come still have names not seen. -/
theorem unseen_step {d : RecordDefinition} (distinct : ((d :: ds).map (·.fqdn)).Nodup)
    (unseen : ∀ x ∈ d :: ds, m.next.find? x.fqdn = none) :
    ∀ x ∈ ds, (step zone cancelled live m d).next.find? x.fqdn = none := by
  intro x member
  have different : d.fqdn ≠ x.fqdn := by
    intro equal
    rw [List.map_cons, List.nodup_cons] at distinct
    exact distinct.1 (List.mem_map.mpr ⟨x, member, equal.symm⟩)
  rw [find?_step zone cancelled live m d x.fqdn different]
  exact unseen x (by simp [member])

theorem find?_run (distinct : (ds.map (·.fqdn)).Nodup)
    (unseen : ∀ d ∈ ds, m.next.find? d.fqdn = none) :
    ∀ d ∈ ds, (ds.foldl (step zone cancelled live) m).next.find? d.fqdn =
      some (outcome zone cancelled live d) := by
  induction ds generalizing m with
  | nil => simp
  | cons head tail ih =>
    intro d member
    rw [List.foldl_cons]
    rcases List.mem_cons.mp member with rfl | later
    · have absent : ∀ x ∈ tail, x.fqdn ≠ d.fqdn := by
        intro x later equal
        rw [List.map_cons, List.nodup_cons] at distinct
        exact distinct.1 (List.mem_map.mpr ⟨x, later, equal⟩)
      rw [find?_run_absent _ _ _ _ _ _ absent]
      exact find?_step_self zone cancelled live m d (unseen d (by simp))
    · exact ih (List.nodup_cons.mp distinct).2 (unseen_step distinct unseen) d later

theorem updated_run (distinct : (ds.map (·.fqdn)).Nodup)
    (unseen : ∀ d ∈ ds, m.next.find? d.fqdn = none) :
    (ds.foldl (step zone cancelled live) m).updated =
      m.updated ++ (ds.filter (changes live)).map (·.fqdn) := by
  induction ds generalizing m with
  | nil => simp
  | cons d ds ih =>
    rw [List.foldl_cons, ih (List.nodup_cons.mp distinct).2 (unseen_step distinct unseen),
      updated_step zone cancelled live m d (unseen d (by simp)), List.filter_cons]
    cases changes live d <;> simp

end Merge

/-! ### The registry afterwards -/

/-- A registry and a summary as the reload of `z` has to leave them. A name that stands
in `z` is configured, whether or not `z` has rejected it as well. -/
structure Reloads (before : Zones) (z : ZoneDefinition) (after : Zones) (s : ReloadSummary) :
    Prop where
  live : ∀ fqdn, (∃ r, after.record? z.zone fqdn = some r) ↔
    fqdn ∈ z.records.map (·.fqdn) ∨
      (∃ r, before.record? z.zone fqdn = some r) ∧ z.isRejected fqdn = true
  configured : ∀ d ∈ z.records, ∃ r, after.record? z.zone d.fqdn = some r ∧
    r.Follows (before.record? z.zone d.fqdn) d
  rejected : ∀ fqdn r, before.record? z.zone fqdn = some r → z.isRejected fqdn = true →
    fqdn ∉ z.records.map (·.fqdn) → after.record? z.zone fqdn = some r
  others : ∀ zone, zone ≠ z.zone → NameMap.find? after zone = NameMap.find? before zone
  sorted : s.added.Pairwise (· < ·) ∧ s.updated.Pairwise (· < ·) ∧
    s.removed.Pairwise (· < ·) ∧ s.kept.Pairwise (· < ·)
  added : ∀ fqdn, fqdn ∈ s.added ↔
    fqdn ∈ z.records.map (·.fqdn) ∧ before.record? z.zone fqdn = none
  updated : ∀ fqdn, fqdn ∈ s.updated ↔
    ∃ d ∈ z.records, d.fqdn = fqdn ∧ ∃ r, before.record? z.zone fqdn = some r ∧ ¬ r.Matches d
  removed : ∀ fqdn, fqdn ∈ s.removed ↔ (∃ r, before.record? z.zone fqdn = some r) ∧
    fqdn ∉ z.records.map (·.fqdn) ∧ z.isRejected fqdn = false
  kept : ∀ fqdn, fqdn ∈ s.kept ↔ (∃ r, before.record? z.zone fqdn = some r) ∧
    fqdn ∉ z.records.map (·.fqdn) ∧ z.isRejected fqdn = true

/-- The walk over the records of `z` while the registry holds `m`. -/
def walk (m : Zones) (z : ZoneDefinition) (cancelled : Bool) : Merge :=
  z.records.foldl (Merge.step z.zone cancelled (recordsOf m z.zone)) {}

/-- The live records of the zone that the walk did not meet. -/
def unmet (m : Zones) (z : ZoneDefinition) (cancelled : Bool) : List (String × Record) :=
  (recordsOf m z.zone).entries.filter fun e => !(walk m z cancelled).next.contains e.1

section

variable {m : Zones} {z : ZoneDefinition} {cancelled : Bool}

theorem find?_walk (distinct : (z.records.map (·.fqdn)).Nodup) {d : RecordDefinition}
    (member : d ∈ z.records) : (walk m z cancelled).next.find? d.fqdn =
      some (Merge.outcome z.zone cancelled (recordsOf m z.zone) d) :=
  Merge.find?_run distinct (fun _ _ => NameMap.find?_empty _) d member

theorem contains_walk {fqdn : String} :
    (walk m z cancelled).next.contains fqdn = true ↔ fqdn ∈ z.records.map (·.fqdn) := by
  rw [walk, Merge.contains_run]
  simp [NameMap.contains]

theorem find?_walk_absent {fqdn : String} (absent : fqdn ∉ z.records.map (·.fqdn)) :
    (walk m z cancelled).next.find? fqdn = none := by
  have missing : (walk m z cancelled).next.contains fqdn = false := by
    rw [← Bool.not_eq_true, contains_walk]
    exact absent
  simpa [NameMap.contains] using missing

theorem mem_unmet_iff {fqdn : String} {r : Record} : (fqdn, r) ∈ unmet m z cancelled ↔
    m.record? z.zone fqdn = some r ∧ fqdn ∉ z.records.map (·.fqdn) := by
  rw [unmet, List.mem_filter, NameMap.mem_entries_iff, find?_recordsOf, Bool.not_eq_true',
    ← Bool.not_eq_true, contains_walk]

/-- Names of live records that a filter by name leaves are in order when sorted. -/
theorem pairwise_unmet (p : String → Bool) :
    (sortNames (((unmet m z cancelled).filter fun e => p e.1).map (·.1))).Pairwise (· < ·) := by
  apply pairwise_sortNames
  have sorted : ((unmet m z cancelled).filter fun e => p e.1).Pairwise (·.1 < ·.1) :=
    ((recordsOf m z.zone).sorted.filter _).filter _
  exact List.pairwise_map.mpr (sorted.imp String.ne_of_lt)

theorem zones_reload : (m.reload z cancelled).zones = NameMap.insert m z.zone
    (((unmet m z cancelled).filter fun e => z.isRejected e.1).foldl
      (fun rs e => rs.insert e.1 e.2) (walk m z cancelled).next) := by
  simp [reload, walk, unmet, List.partition_eq_filter_filter]

/-- What the walk has left under a name stands, and a rejected name keeps what it had. -/
theorem record?_reload (fqdn : String) : (m.reload z cancelled).zones.record? z.zone fqdn =
    ((walk m z cancelled).next.find? fqdn).or
      (if z.isRejected fqdn then m.record? z.zone fqdn else none) := by
  have sorted : ((unmet m z cancelled).filter fun e => z.isRejected e.1).Pairwise (·.1 < ·.1) :=
    ((recordsOf m z.zone).sorted.filter _).filter _
  rw [zones_reload, record?_insert, if_pos rfl, NameMap.find?_foldl_insert _ _ sorted,
    NameMap.lookup_filter z.isRejected, unmet,
    NameMap.lookup_filter fun n => !(walk m z cancelled).next.contains n]
  rw [← NameMap.find?, find?_recordsOf]
  -- Kept records hide nothing of the walk: their names are those that it did not meet.
  cases found : (walk m z cancelled).next.find? fqdn with
  | none => simp [NameMap.contains, found]
  | some r => simp [NameMap.contains, found]

theorem find?_reload_other {zone : String} (other : zone ≠ z.zone) :
    NameMap.find? (m.reload z cancelled).zones zone = NameMap.find? m zone := by
  rw [zones_reload, NameMap.find?_insert, if_neg (Ne.symm other)]

theorem follows_outcome (d : RecordDefinition) :
    (Merge.outcome z.zone cancelled (recordsOf m z.zone) d).Follows
      (m.record? z.zone d.fqdn) d := by
  rw [Merge.outcome, find?_recordsOf]
  cases m.record? z.zone d.fqdn with
  | none => exact Record.follows_ofDefinition z.zone d cancelled
  | some before => exact Record.follows_updateFrom before d

theorem record?_reload_configured (distinct : (z.records.map (·.fqdn)).Nodup)
    {d : RecordDefinition} (member : d ∈ z.records) :
    (m.reload z cancelled).zones.record? z.zone d.fqdn =
      some (Merge.outcome z.zone cancelled (recordsOf m z.zone) d) := by
  rw [record?_reload, find?_walk distinct member, Option.some_or]

theorem record?_reload_unconfigured {fqdn : String} (absent : fqdn ∉ z.records.map (·.fqdn)) :
    (m.reload z cancelled).zones.record? z.zone fqdn =
      if z.isRejected fqdn then m.record? z.zone fqdn else none := by
  rw [record?_reload, find?_walk_absent absent, Option.none_or]

theorem changes_eq_true_iff {d : RecordDefinition} :
    Merge.changes (recordsOf m z.zone) d = true ↔
      ∃ r, m.record? z.zone d.fqdn = some r ∧ ¬ r.Matches d := by
  rw [Merge.changes, find?_recordsOf]
  cases m.record? z.zone d.fqdn with
  | none => simp
  | some before => simp [← Record.isEmpty_updateFrom_iff]

theorem added_reload : (m.reload z cancelled).summary.added = sortNames
    ((z.records.filter (!(recordsOf m z.zone).contains ·.fqdn)).map (·.fqdn)) :=
  congrArg sortNames (Merge.added_run z.zone cancelled (recordsOf m z.zone) {} z.records)

theorem updated_reload (distinct : (z.records.map (·.fqdn)).Nodup) :
    (m.reload z cancelled).summary.updated = sortNames
      ((z.records.filter (Merge.changes (recordsOf m z.zone))).map (·.fqdn)) :=
  congrArg sortNames (Merge.updated_run distinct fun _ _ => NameMap.find?_empty _)

theorem removed_reload : (m.reload z cancelled).summary.removed = sortNames
    (((unmet m z cancelled).filter fun e => !z.isRejected e.1).map (·.1)) := by
  simp [reload, walk, unmet, List.partition_eq_filter_filter, Function.comp_def]

theorem kept_reload : (m.reload z cancelled).summary.kept = sortNames
    (((unmet m z cancelled).filter fun e => z.isRejected e.1).map (·.1)) := by
  simp [reload, walk, unmet, List.partition_eq_filter_filter]

/-- A filter of the definition by record has each name once. -/
theorem pairwise_written (distinct : (z.records.map (·.fqdn)).Nodup)
    (p : RecordDefinition → Bool) :
    (sortNames ((z.records.filter p).map (·.fqdn))).Pairwise (· < ·) :=
  pairwise_sortNames (distinct.sublist (List.filter_sublist.map _))

theorem mem_unmet_names_iff (p : String → Bool) {fqdn : String} :
    fqdn ∈ sortNames (((unmet m z cancelled).filter fun e => p e.1).map (·.1)) ↔
      (∃ r, m.record? z.zone fqdn = some r) ∧ fqdn ∉ z.records.map (·.fqdn) ∧ p fqdn = true := by
  rw [mem_sortNames, List.mem_map]
  constructor
  · rintro ⟨⟨fqdn, r⟩, member, rfl⟩
    obtain ⟨present, holds⟩ := List.mem_filter.mp member
    obtain ⟨before, unconfigured⟩ := mem_unmet_iff.mp present
    exact ⟨⟨r, before⟩, unconfigured, holds⟩
  · rintro ⟨⟨r, before⟩, unconfigured, holds⟩
    have present : (fqdn, r) ∈ unmet m z cancelled :=
      mem_unmet_iff.mpr ⟨before, unconfigured⟩
    exact ⟨(fqdn, r), List.mem_filter.mpr ⟨present, holds⟩, rfl⟩

theorem mem_unlive_iff {fqdn : String} :
    fqdn ∈ (z.records.filter (!(recordsOf m z.zone).contains ·.fqdn)).map (·.fqdn) ↔
      fqdn ∈ z.records.map (·.fqdn) ∧ m.record? z.zone fqdn = none := by
  constructor
  · intro member
    obtain ⟨d, written, rfl⟩ := List.mem_map.mp member
    obtain ⟨present, absent⟩ := List.mem_filter.mp written
    refine ⟨List.mem_map_of_mem present, ?_⟩
    simpa [NameMap.contains, find?_recordsOf] using absent
  · rintro ⟨configured, absent⟩
    obtain ⟨d, present, rfl⟩ := List.mem_map.mp configured
    refine List.mem_map.mpr ⟨d, List.mem_filter.mpr ⟨present, ?_⟩, rfl⟩
    simp [NameMap.contains, find?_recordsOf, absent]

theorem reloads_reload (distinct : (z.records.map (·.fqdn)).Nodup) :
    Reloads m z (m.reload z cancelled).zones (m.reload z cancelled).summary where
  live := by
    intro fqdn
    by_cases configured : fqdn ∈ z.records.map (·.fqdn)
    · obtain ⟨d, member, rfl⟩ := List.mem_map.mp configured
      have present : (m.reload z cancelled).zones.record? z.zone d.fqdn = some _ :=
        record?_reload_configured distinct member
      exact ⟨fun _ => Or.inl configured, fun _ => ⟨_, present⟩⟩
    · rw [record?_reload_unconfigured configured]
      cases z.isRejected fqdn <;> simp [configured]
  configured := by
    intro d member
    exact ⟨_, record?_reload_configured distinct member, follows_outcome d⟩
  rejected := by
    intro fqdn r before rejected unconfigured
    rw [record?_reload_unconfigured unconfigured, if_pos rejected, before]
  others := fun zone other => find?_reload_other other
  sorted := by
    rw [added_reload, updated_reload distinct, removed_reload, kept_reload]
    exact ⟨pairwise_written distinct _, pairwise_written distinct _,
      pairwise_unmet (!z.isRejected ·), pairwise_unmet z.isRejected⟩
  added := by
    intro fqdn
    rw [added_reload, mem_sortNames, mem_unlive_iff]
  updated := by
    intro fqdn
    rw [updated_reload distinct, mem_sortNames]
    constructor
    · intro member
      obtain ⟨d, written, rfl⟩ := List.mem_map.mp member
      obtain ⟨present, changed⟩ := List.mem_filter.mp written
      exact ⟨d, present, rfl, changes_eq_true_iff.mp changed⟩
    · rintro ⟨d, present, rfl, changed⟩
      exact List.mem_map.mpr
        ⟨d, List.mem_filter.mpr ⟨present, changes_eq_true_iff.mpr changed⟩, rfl⟩
  removed := by
    intro fqdn
    rw [removed_reload, mem_unmet_names_iff (!z.isRejected ·), Bool.not_eq_true']
  kept := by
    intro fqdn
    rw [kept_reload, mem_unmet_names_iff]

end

end DnsBalancer.Zones
