import DnsBalancer.Proofs.DomainName
import DnsBalancer.Proofs.Registry.Serving

/-!
# What lasts in a registry

A property of records that new ones have and that a merge keeps holds of all of them, from
the start and over every reload, also of a definition that has several records of one name.
A reload takes out what it calls removed and puts in what it calls added, and a backend that
was live keeps what probing has left there, or it is among those that the reload drops.
-/
namespace DnsBalancer

/-- Where a record is, and whether its token was cancelled. -/
def Record.standing (r : Record) : String × String × Bool := (r.zone, r.fqdn, r.cancelled)

namespace Zones

theorem mem_allRecords_iff {m : Zones} {r : Record} :
    r ∈ m.allRecords ↔ ∃ zone fqdn, m.record? zone fqdn = some r := by
  simp only [allRecords, List.mem_flatMap, NameMap.mem_values_iff]
  constructor
  · rintro ⟨rs, ⟨zone, there⟩, fqdn, found⟩
    refine ⟨zone, fqdn, ?_⟩
    rw [record?, recordsOf, there]
    exact found
  · rintro ⟨zone, fqdn, found⟩
    rw [record?, recordsOf] at found
    cases there : NameMap.find? m zone with
    | none =>
      rw [there] at found
      cases found
    | some rs =>
      rw [there] at found
      exact ⟨rs, ⟨zone, there⟩, fqdn, found⟩

theorem exists_of_mem_listed {m : Zones} {r : Record} (member : r ∈ m.listed) :
    ∃ zone fqdn, m.record? zone fqdn = some r := by
  obtain ⟨zone, _, inside⟩ := List.mem_flatMap.mp member
  obtain ⟨fqdn, found⟩ := NameMap.mem_values_iff.mp inside
  exact ⟨DomainName.normalize zone, fqdn, found⟩

/-- Asked for by names in normal form, zones list all there is. -/
theorem listed_eq_allRecords {m : Zones}
    (normal : ∀ zone ∈ NameMap.names m, DomainName.Normal zone) : m.listed = m.allRecords := by
  rw [listed, allRecords, NameMap.names, NameMap.values, List.flatMap_map, List.flatMap_map]
  refine List.flatMap_congr fun e member => ?_
  have own : DomainName.normalize e.1 = e.1 := normal e.1 (List.mem_map_of_mem member)
  have found : NameMap.find? m e.1 = some e.2 := NameMap.mem_entries_iff.mp member
  rw [records, own, recordsOf, found]
  rfl

theorem exists_of_mem_names_ofDefinitions {zs : List ZoneDefinition} {zone : String}
    (member : zone ∈ NameMap.names (ofDefinitions zs)) : ∃ z ∈ zs, z.zone = zone := by
  induction zs using List.reverseRecOn with
  | nil => cases member
  | append_singleton zs z ih =>
    rw [ofDefinitions, List.foldl_concat, ← ofDefinitions, NameMap.mem_names_iff,
      NameMap.find?_insert] at member
    by_cases own : z.zone = zone
    · exact ⟨z, by simp, own⟩
    · rw [if_neg own] at member
      obtain ⟨w, there, same⟩ := ih (NameMap.mem_names_iff.mpr member)
      exact ⟨w, List.mem_append_left _ there, same⟩

/-! ### The walk over a definition -/

namespace Merge

variable {zone : String} {cancelled : Bool} {live : NameMap Record} {m : Merge}
  {ds : List RecordDefinition}

theorem forall_step {P : String → Record → Prop} {d : RecordDefinition}
    (before : ∀ fqdn r, live.find? fqdn = some r → P fqdn r)
    (merged : ∀ fqdn r, P fqdn r → P fqdn (r.updateFrom d).2)
    (added : P d.fqdn (.ofDefinition zone d cancelled))
    (met : ∀ fqdn r, m.next.find? fqdn = some r → P fqdn r) :
    ∀ fqdn r, (step zone cancelled live m d).next.find? fqdn = some r → P fqdn r := by
  intro fqdn r found
  by_cases own : d.fqdn = fqdn
  · subst own
    rw [step] at found
    cases there : live.find? d.fqdn with
    | none =>
      simp only [there, NameMap.find?_insert, if_pos] at found
      exact Option.some.inj found ▸ added
    | some old =>
      simp only [there, NameMap.find?_insert, if_pos] at found
      rw [← Option.some.inj found]
      apply merged
      cases again : m.next.find? d.fqdn with
      | none => exact before _ _ there
      | some current => exact met _ _ again
  · rw [find?_step zone cancelled live m d fqdn own] at found
    exact met fqdn r found

theorem forall_run {P : String → Record → Prop}
    (before : ∀ fqdn r, live.find? fqdn = some r → P fqdn r)
    (merged : ∀ fqdn r, ∀ d ∈ ds, P fqdn r → P fqdn (r.updateFrom d).2)
    (added : ∀ d ∈ ds, P d.fqdn (.ofDefinition zone d cancelled))
    (met : ∀ fqdn r, m.next.find? fqdn = some r → P fqdn r) :
    ∀ fqdn r, (ds.foldl (step zone cancelled live) m).next.find? fqdn = some r → P fqdn r := by
  induction ds generalizing m with
  | nil => exact met
  | cons d ds ih =>
    obtain ⟨first, rest⟩ := List.forall_mem_cons.mp added
    have own : ∀ fqdn r, P fqdn r → P fqdn (r.updateFrom d).2 :=
      fun fqdn r => merged fqdn r d List.mem_cons_self
    exact ih (fun fqdn r e later => merged fqdn r e (List.mem_cons_of_mem d later)) rest
      (forall_step before own first met)

/-- Backends that the walk drops were those of a record on its way. -/
theorem forall_dropped_run {P : String → Record → Prop}
    (before : ∀ fqdn r, live.find? fqdn = some r → P fqdn r)
    (merged : ∀ fqdn r, ∀ d ∈ ds, P fqdn r → P fqdn (r.updateFrom d).2)
    (added : ∀ d ∈ ds, P d.fqdn (.ofDefinition zone d cancelled))
    (met : ∀ fqdn r, m.next.find? fqdn = some r → P fqdn r)
    (gone : ∀ d ∈ m.dropped, ∃ r, P d.fqdn r ∧ d.backends ⊆ r.backends) :
    ∀ d ∈ (ds.foldl (step zone cancelled live) m).dropped,
      ∃ r, P d.fqdn r ∧ d.backends ⊆ r.backends := by
  induction ds generalizing m with
  | nil => exact gone
  | cons d ds ih =>
    obtain ⟨first, rest⟩ := List.forall_mem_cons.mp added
    have own : ∀ fqdn r, P fqdn r → P fqdn (r.updateFrom d).2 :=
      fun fqdn r => merged fqdn r d List.mem_cons_self
    apply ih (fun fqdn r e later => merged fqdn r e (List.mem_cons_of_mem d later)) rest
      (forall_step before own first met)
    rw [step]
    cases there : live.find? d.fqdn with
    | none => exact gone
    | some old =>
      refine List.forall_mem_append.mpr ⟨gone, List.forall_mem_singleton.mpr ?_⟩
      refine ⟨(m.next.find? d.fqdn).getD old, ?_, List.filter_subset_self _⟩
      cases again : m.next.find? d.fqdn with
      | none => exact before _ _ there
      | some current => exact met _ _ again

/-- The backend that was at `a` when the walk began is there with all that probing has left, or
the walk has dropped it on its way. -/
def Traces (fqdn : String) (a : Address) (before : Record) (b : Backend) (m : Merge) : Prop :=
  (∃ x, ((m.next.find? fqdn).getD before).backend? a = some x ∧ x.SameHistory b) ∨
    ∃ d ∈ m.dropped, d.fqdn = fqdn ∧ ∃ x ∈ d.backends, x.address = a

variable {fqdn : String} {a : Address} {before : Record} {b : Backend}

theorem traces_step (there : live.find? fqdn = some before) (traces : m.Traces fqdn a before b)
    (d : RecordDefinition) : (step zone cancelled live m d).Traces fqdn a before b := by
  by_cases own : d.fqdn = fqdn
  · subst own
    simp only [step, there, Traces, NameMap.find?_insert, if_pos, Option.getD_some,
      List.mem_append, List.mem_singleton]
    rcases traces with ⟨x, held, same⟩ | ⟨gone, member, dropped⟩
    · by_cases written : a ∈ d.backends.map (·.address)
      · obtain ⟨y, found, kept⟩ := Record.exists_backend?_updateFrom held written
        exact Or.inl ⟨y, found, kept.trans same⟩
      · obtain ⟨member, address⟩ := Record.mem_of_backend? held
        refine Or.inr ⟨_, Or.inr rfl, rfl, x, List.mem_filter.mpr ⟨member, ?_⟩, address⟩
        -- No definition has the address, so the merge has listed it as removed.
        have unwritten : ∀ y ∈ d.backends, ¬ y.address = x.address := by
          intro y present equal
          exact written (equal.trans address ▸ List.mem_map_of_mem present)
        simpa [Record.updateFrom] using ⟨x, ⟨member, unwritten⟩, rfl⟩
    · exact Or.inr ⟨gone, Or.inl member, dropped⟩
  · have found := find?_step zone cancelled live m d fqdn own
    rcases traces with held | ⟨gone, member, dropped⟩
    · exact Or.inl (found ▸ held)
    · refine Or.inr ⟨gone, ?_, dropped⟩
      cases other : live.find? d.fqdn with
      | none => simpa only [step, other] using member
      | some r =>
        simp only [step, other]
        exact List.mem_append_left _ member

theorem traces_run (there : live.find? fqdn = some before) (traces : m.Traces fqdn a before b)
    (ds : List RecordDefinition) :
    (ds.foldl (step zone cancelled live) m).Traces fqdn a before b := by
  induction ds generalizing m with
  | nil => exact traces
  | cons d ds ih => exact ih (traces_step there traces d)

end Merge

/-! ### A whole reload -/

section

variable {m : Zones} {z : ZoneDefinition} {cancelled : Bool} {fqdn : String}

theorem record?_reload_other {zone : String} (other : zone ≠ z.zone) :
    (m.reload z cancelled).zones.record? zone fqdn = m.record? zone fqdn := by
  rw [record?, recordsOf, find?_reload_other other]
  rfl

theorem forall_reload {P : String → Record → Prop}
    (before : ∀ fqdn r, m.record? z.zone fqdn = some r → P fqdn r)
    (merged : ∀ fqdn r, ∀ d ∈ z.records, P fqdn r → P fqdn (r.updateFrom d).2)
    (added : ∀ d ∈ z.records, P d.fqdn (.ofDefinition z.zone d cancelled)) :
    ∀ fqdn r, (m.reload z cancelled).zones.record? z.zone fqdn = some r → P fqdn r := by
  intro fqdn r found
  rw [record?_reload] at found
  rcases Option.or_eq_some_iff.mp found with met | ⟨_, kept⟩
  · refine Merge.forall_run before merged added ?_ fqdn r met
    intro fqdn r found
    cases found
  · split at kept
    · exact before fqdn r kept
    · cases kept

theorem forall_dropped_reload {P : String → Record → Prop}
    (before : ∀ fqdn r, m.record? z.zone fqdn = some r → P fqdn r)
    (merged : ∀ fqdn r, ∀ d ∈ z.records, P fqdn r → P fqdn (r.updateFrom d).2)
    (added : ∀ d ∈ z.records, P d.fqdn (.ofDefinition z.zone d cancelled)) :
    ∀ d ∈ (m.reload z cancelled).dropped, ∃ r, P d.fqdn r ∧ d.backends ⊆ r.backends :=
  Merge.forall_dropped_run before merged added (fun _ _ found => nomatch found)
    fun _ member => nomatch member

theorem record?_walk_isSome : ((walk m z cancelled).next.find? fqdn).isSome = true ↔
    fqdn ∈ z.records.map (·.fqdn) := contains_walk

/-- A record is removed when its name was live and is not any more. -/
theorem mem_removed_iff {r : Record} : r ∈ (m.reload z cancelled).removed ↔
    ∃ fqdn, m.record? z.zone fqdn = some r ∧
      (m.reload z cancelled).zones.record? z.zone fqdn = none := by
  have removed : (m.reload z cancelled).removed =
      ((unmet m z cancelled).filter fun e => !z.isRejected e.1).map (·.2) := by
    simp [reload, walk, unmet, List.partition_eq_filter_filter, Function.comp_def]
  rw [removed]
  constructor
  · intro member
    obtain ⟨⟨fqdn, r⟩, gone, rfl⟩ := List.mem_map.mp member
    obtain ⟨present, unrejected⟩ := List.mem_filter.mp gone
    obtain ⟨before, unwritten⟩ := mem_unmet_iff.mp present
    refine ⟨fqdn, before, ?_⟩
    rw [record?_reload_unconfigured unwritten, if_neg]
    simpa using unrejected
  · rintro ⟨fqdn, before, after⟩
    rw [record?_reload, Option.or_eq_none_iff, ← Option.not_isSome_iff_eq_none,
      record?_walk_isSome] at after
    have unrejected : z.isRejected fqdn = false := by
      by_contra rejected
      simp [rejected, before] at after
    exact List.mem_map.mpr ⟨(fqdn, r), List.mem_filter.mpr
      ⟨mem_unmet_iff.mpr ⟨before, after.1⟩, by simp [unrejected]⟩, rfl⟩

/-- A name is added when it was not live and now is. -/
theorem mem_added_iff : fqdn ∈ (m.reload z cancelled).added ↔ m.record? z.zone fqdn = none ∧
    ∃ r, (m.reload z cancelled).zones.record? z.zone fqdn = some r := by
  have added : (m.reload z cancelled).added =
      (z.records.filter (!(recordsOf m z.zone).contains ·.fqdn)).map (·.fqdn) :=
    Merge.added_run z.zone cancelled (recordsOf m z.zone) {} z.records
  rw [added, mem_unlive_iff, record?_reload, ← Option.isSome_iff_exists,
    ← @record?_walk_isSome m z cancelled]
  cases m.record? z.zone fqdn <;> simp

theorem traces_reload {a : Address} {before : Record} {b : Backend}
    (there : m.record? z.zone fqdn = some before) (held : before.backend? a = some b) :
    (∃ r x, (m.reload z cancelled).zones.record? z.zone fqdn = some r ∧
        r.backend? a = some x ∧ x.SameHistory b) ∨
      (∃ d ∈ (m.reload z cancelled).dropped, d.fqdn = fqdn ∧ ∃ x ∈ d.backends, x.address = a) ∨
      before ∈ (m.reload z cancelled).removed := by
  have start : Merge.Traces fqdn a before b {} := Or.inl ⟨b, held, .refl b⟩
  rcases Merge.traces_run there start z.records with ⟨x, found, kept⟩ | dropped
  · cases after : (m.reload z cancelled).zones.record? z.zone fqdn with
    | none => exact Or.inr (Or.inr (mem_removed_iff.mpr ⟨fqdn, there, after⟩))
    | some r =>
      refine Or.inl ⟨r, x, rfl, ?_, kept⟩
      -- The record was met, or it is kept as it was; either is what the walk speaks of.
      rw [record?_reload] at after
      rcases Option.or_eq_some_iff.mp after with met | ⟨unmet, rest⟩
      · rw [walk] at met
        rw [met] at found
        exact found
      · rw [walk] at unmet
        rw [unmet] at found
        split at rest
        · exact Option.some.inj (there.symm.trans rest) ▸ found
        · cases rest
  · exact Or.inr (Or.inl dropped)

end

/-! ### From the start on -/

theorem forall_ofDefinitions {P : String → String → Record → Prop} {zs : List ZoneDefinition}
    (defined : ∀ z ∈ zs, ∀ d ∈ z.records, P z.zone d.fqdn (.ofDefinition z.zone d false)) :
    ∀ zone fqdn r, (ofDefinitions zs).record? zone fqdn = some r → P zone fqdn r := by
  have records {z : ZoneDefinition} (own : ∀ d ∈ z.records,
      P z.zone d.fqdn (.ofDefinition z.zone d false)) {rs : NameMap Record}
      (before : ∀ fqdn r, rs.find? fqdn = some r → P z.zone fqdn r) :
      ∀ fqdn r, (addRecords rs z).find? fqdn = some r → P z.zone fqdn r := by
    apply List.foldlRecOn (motive := fun rs : NameMap Record =>
      ∀ fqdn r, rs.find? fqdn = some r → P z.zone fqdn r) z.records _ before
    intro rs before d member fqdn r found
    rw [NameMap.find?_insert] at found
    split at found
    · rename_i equal
      exact equal ▸ Option.some.inj found ▸ own d member
    · exact before fqdn r found
  apply List.foldlRecOn (motive := fun m : Zones =>
    ∀ zone fqdn r, m.record? zone fqdn = some r → P zone fqdn r) zs
  · intro zone fqdn r found
    cases found
  · intro m before z member zone fqdn r found
    rw [record?_insert] at found
    split at found
    · rename_i equal
      subst equal
      exact records (defined z member) (before z.zone) fqdn r found
    · exact before zone fqdn r found

/-- Each record knows where it is. -/
def Placed (m : Zones) : Prop :=
  ∀ zone fqdn r, m.record? zone fqdn = some r → r.zone = zone ∧ r.fqdn = fqdn

/-- What is found after a record was put back that still stands as it did. -/
theorem record?_put_standing {m : Zones} {zone fqdn : String} {r new : Record}
    (placed : m.Placed) (found : m.record? zone fqdn = some r)
    (standing : new.standing = r.standing) (otherZone other : String) :
    (m.put new).record? otherZone other =
      if zone = otherZone ∧ fqdn = other then some new else m.record? otherZone other := by
  obtain ⟨inZone, named⟩ := placed zone fqdn r found
  simp only [Record.standing, Prod.mk.injEq] at standing
  rw [record?_put, standing.1, standing.2.1, inZone, named]

/-! ### What probing has left -/

/-- Whatever probing has left on a backend of the second registry, it has left in the first. -/
def Inherits (m after : Zones) : Prop :=
  ∀ zone fqdn r a x, after.record? zone fqdn = some r → r.backend? a = some x →
    x.Unprobed ∨ ∃ old y, m.record? zone fqdn = some old ∧ old.backend? a = some y ∧
      x.SameHistory y

variable {m after last : Zones}

theorem Inherits.refl (m : Zones) : m.Inherits m := by
  intro zone fqdn r a x found held
  exact Or.inr ⟨r, x, found, held, .refl x⟩

theorem Inherits.trans (first : m.Inherits after) (second : after.Inherits last) :
    m.Inherits last := by
  intro zone fqdn r a x found held
  rcases second zone fqdn r a x found held with unprobed | ⟨old, y, before, there, same⟩
  · exact Or.inl unprobed
  rcases first zone fqdn old a y before there with unprobed | ⟨older, w, present, kept, alike⟩
  · exact Or.inl (unprobed.of_sameHistory same)
  · exact Or.inr ⟨older, w, present, kept, same.trans alike⟩

theorem inherits_reload (m : Zones) (z : ZoneDefinition) (cancelled : Bool) :
    m.Inherits (m.reload z cancelled).zones := by
  intro zone fqdn r a x found held
  by_cases own : zone = z.zone
  · subst own
    refine forall_reload (P := fun fqdn r => ∀ a x, r.backend? a = some x → x.Unprobed ∨
      ∃ old y, m.record? z.zone fqdn = some old ∧ old.backend? a = some y ∧ x.SameHistory y)
      ?_ ?_ ?_ fqdn r found a x held
    · exact fun fqdn r before a x held => Or.inr ⟨r, x, before, held, .refl x⟩
    · intro fqdn r d _ before a x held
      rw [Record.backend?_updateFrom] at held
      obtain ⟨written, first, rfl⟩ := Option.map_eq_some_iff.mp held
      have address : written.address = a := by simpa using List.find?_some first
      cases there : r.backend? a with
      | none =>
        rw [Record.mergeBackend_new (address ▸ there)]
        exact Or.inl ⟨rfl, rfl, rfl⟩
      | some b =>
        rw [Record.mergeBackend_live (address ▸ there)]
        exact before a b there
    · intro d _ a x held
      obtain ⟨written, _, rfl⟩ := List.mem_map.mp (Record.mem_of_backend? held).1
      exact Or.inl ⟨rfl, rfl, rfl⟩
  · rw [record?_reload_other own] at found
    exact Or.inr ⟨r, x, found, held, .refl x⟩

theorem inherits_put {zone fqdn : String} {r new : Record}
    (found : m.record? zone fqdn = some r) (placed : m.Placed)
    (standing : new.standing = r.standing) (backends : new.backends = r.backends) :
    m.Inherits (m.put new) := by
  intro otherZone other x a b present held
  rw [record?_put_standing placed found standing] at present
  split at present
  · rename_i own
    obtain ⟨rfl, rfl⟩ := own
    obtain rfl := Option.some.inj present
    refine Or.inr ⟨r, b, found, ?_, .refl b⟩
    rw [Record.backend?, ← backends]
    exact held
  · exact Or.inr ⟨x, b, present, held, .refl b⟩

theorem record?_mapRecords (f : Record → Record) (m : Zones) (zone fqdn : String) :
    (m.mapRecords f).record? zone fqdn = (m.record? zone fqdn).map f := by
  rw [record?, recordsOf, mapRecords, NameMap.find?_mapValues, record?, recordsOf]
  cases NameMap.find? m zone with
  | none => rfl
  | some rs => simp

theorem inherits_cancel (m : Zones) : m.Inherits (m.mapRecords Record.cancel) := by
  intro zone fqdn r a x found held
  rw [record?_mapRecords] at found
  obtain ⟨old, before, rfl⟩ := Option.map_eq_some_iff.mp found
  exact Or.inr ⟨old, x, before, held, .refl x⟩

end Zones

end DnsBalancer
