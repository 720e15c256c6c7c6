import DnsBalancer.Proofs.Balancer.Answer
import DnsBalancer.Proofs.DomainName
import DnsBalancer.Proofs.Registry.Persistence
import DnsBalancer.Proofs.Selection.Congruence

/-!
# What a reload leaves that reports nothing

Nothing is added, nothing is removed and every configured record matches its definition; but a
record takes over the order in which its backends are written, and a zone that was not there is
there afterwards. A record whose enabled backends are written in the order they are in answers
as before.
-/
namespace DnsBalancer

/-- The addresses that are given for the family when none is healthy, as they are written. -/
def RecordDefinition.listed (d : RecordDefinition) (family : Family) : List Address :=
  (d.backends.filter fun x => x.enabled && x.address.family == family).map (·.address)

namespace Record

/-- The enabled backends of the family. -/
def given (r : Record) (family : Family) : List Backend :=
  r.backends.filter fun b => b.enabled && b.address.family == family

/-- The addresses that are given for the family when none is healthy. -/
def listed (r : Record) (family : Family) : List Address := (r.given family).map (·.address)

variable {r s : Record} {d : RecordDefinition} {family : Family}

theorem eligible_eq_given : r.eligible family = (r.given family).filter (·.health.alive) := by
  rw [eligible, given, List.filter_filter]
  refine List.filter_congr fun b _ => ?_
  rw [Backend.healthy, Bool.and_assoc, Bool.and_left_comm]

theorem allAddresses_eq_listed : r.allAddresses family =
    if (r.listed family).isEmpty then .error (.noBackends r.fqdn family)
    else .ok (r.listed family) := r.allAddresses_eq family

theorem listed_of_allAddresses (same : s.allAddresses family = r.allAddresses family) :
    s.listed family = r.listed family := by
  rw [allAddresses_eq_listed, allAddresses_eq_listed] at same
  split at same <;> split at same
  · rename_i none other
    rw [List.isEmpty_iff.mp none, List.isEmpty_iff.mp other]
  · cases same
  · cases same
  · exact Except.ok.inj same

/-- After a merge the order is that of the definition. -/
theorem listed_updateFrom : (r.updateFrom d).2.listed family = d.listed family := by
  have enabled (x : BackendDefinition) : (r.mergeBackend x).2.enabled = x.enabled :=
    (agrees_mergeBackend r x).enabled
  simp only [listed, given, RecordDefinition.listed, backends_updateFrom, List.filter_map,
    List.map_map, Function.comp_def, address_mergeBackend, enabled]

theorem nodup_listed (distinct : (d.backends.map (·.address)).Nodup) :
    (d.listed family).Nodup := distinct.sublist (List.filter_sublist.map _)

/-- Backends of one record that have the same addresses in the same order are the same. -/
theorem eq_of_map_address {bs cs : List Backend} (within : ∀ b ∈ bs, b ∈ cs)
    (distinct : (cs.map (·.address)).Nodup) (same : bs.map (·.address) = cs.map (·.address)) :
    bs = cs := by
  have length : bs.length = cs.length := by simpa using congrArg List.length same
  refine List.ext_getElem length fun i before after => ?_
  have member := within bs[i] (List.getElem_mem before)
  have address : bs[i].address = cs[i].address := by
    have entries := List.getElem_of_eq same (by simpa using before)
    simpa using entries
  exact List.inj_on_of_nodup_map distinct member (List.getElem_mem after) address

/-- The two have the same settings and cursor, and for each family the same backends that count,
in the same order. -/
structure AnswersAs (r s : Record) : Prop where
  fqdn : s.fqdn = r.fqdn
  settings : s.settings = r.settings
  selector : s.selector = r.selector
  eligible : ∀ family, s.eligible family = r.eligible family
  listed : ∀ family, s.listed family = r.listed family

theorem AnswersAs.refl (r : Record) : r.AnswersAs r :=
  ⟨rfl, rfl, rfl, fun _ => rfl, fun _ => rfl⟩

theorem AnswersAs.select (same : r.AnswersAs s) (family : Family) (client : Address)
    (geo : GeoSources) (locations : LocationTable) (chance : Chance) :
    (s.select family client geo locations chance).1 =
      (r.select family client geo locations chance).1 := by
  have eligible : (s.request family client geo locations).eligible =
      (r.request family client geo locations).eligible := by
    rw [eligible_request, eligible_request, same.eligible]
  have alike : (r.request family client geo locations).Alike
      (s.request family client geo locations) := ⟨rfl, rfl, rfl, rfl, rfl, eligible⟩
  have chosen (r : Record) : (r.select family client geo locations chance).1 =
    (r.selector.select chance (r.request family client geo locations)).1 := rfl
  rw [chosen, chosen, same.selector, alike.select]

theorem AnswersAs.allAddresses (same : r.AnswersAs s) (family : Family) :
    s.allAddresses family = r.allAddresses family := by
  rw [allAddresses_eq_listed, allAddresses_eq_listed, same.listed, same.fqdn]

/-- A record that a merge finds as written answers as before when its backends stand in order. -/
theorem answersAs_updateFrom (matched : r.Matches d)
    (distinct : (d.backends.map (·.address)).Nodup)
    (order : ∀ family, r.listed family = d.listed family) : r.AnswersAs (r.updateFrom d).2 where
  fqdn := rfl
  settings := matched.settings.symm
  selector := by rw [updateFrom_of_matches matched, reorder]
  eligible := by
    intro family
    have within : ∀ b ∈ (r.updateFrom d).2.given family, b ∈ r.given family := by
      intro b member
      obtain ⟨inside, able⟩ := List.mem_filter.mp member
      rw [updateFrom_of_matches matched] at inside
      exact List.mem_filter.mpr ⟨mem_reorder inside, able⟩
    have once : ((r.given family).map (·.address)).Nodup := by
      have listed := @nodup_listed d family distinct
      rwa [← order] at listed
    have same := eq_of_map_address within once (listed_updateFrom.trans (order family).symm)
    rw [eligible_eq_given, eligible_eq_given, same]
  listed := fun family => listed_updateFrom.trans (order family).symm

end Record

theorem ReloadSummary.nil_of_isNoop {s : ReloadSummary} (noop : s.isNoop = true) :
    s.added = [] ∧ s.updated = [] ∧ s.removed = [] := by
  simp only [isNoop, Bool.and_eq_true, List.isEmpty_iff] at noop
  exact ⟨noop.1.1, noop.1.2, noop.2⟩

namespace Zones

/-! ### Which record a name finds -/

/-- The first zone, in the order in which they are looked through, that has a record of the
name. -/
def holder? (m : Zones) (order : ZoneOrder) (fqdn : String) : Option String :=
  (order.arrange (NameMap.names m)).find? fun zone => (m.record? zone fqdn).isSome

theorem findRecord_eq (m : Zones) (order : ZoneOrder) (name : String) : m.findRecord order name =
    (m.holder? order (DomainName.normalize name)).bind
      (m.record? · (DomainName.normalize name)) := by
  unfold findRecord holder?
  induction order.arrange (NameMap.names m) with
  | nil => rfl
  | cons zone zones ih =>
    rw [List.findSome?_cons, List.find?_cons]
    cases held : m.record? zone (DomainName.normalize name) with
    | none => exact ih
    | some r => exact held.symm

theorem holder?_congr {m n : Zones} (order : ZoneOrder)
    (names : NameMap.names n = NameMap.names m) {fqdn : String}
    (live : ∀ zone, (n.record? zone fqdn).isSome = (m.record? zone fqdn).isSome) :
    n.holder? order fqdn = m.holder? order fqdn := by
  simp only [holder?, names, live]

/-- The registries have the same zones, and what a name finds in the one answers as what it finds
in the other. -/
structure AnswersAs (order : ZoneOrder) (m n : Zones) : Prop where
  names : NameMap.names n = NameMap.names m
  records : ∀ name, Option.Rel Record.AnswersAs (m.findRecord order name) (n.findRecord order name)

theorem AnswersAs.findRecord_cases {order : ZoneOrder} {m n : Zones} (same : AnswersAs order m n)
    (name : String) : m.findRecord order name = none ∧ n.findRecord order name = none ∨
      ∃ r s, m.findRecord order name = some r ∧ n.findRecord order name = some s ∧
        r.AnswersAs s := by
  have records := same.records name
  generalize m.findRecord order name = before at *
  generalize n.findRecord order name = after at *
  cases records with
  | none => exact Or.inl ⟨rfl, rfl⟩
  | some answers => exact Or.inr ⟨_, _, rfl, rfl, answers⟩

/-! ### A reload that reports nothing -/

/-- The records that names find are in the order of their definitions, as far as they are given
at all. -/
def InOrder (m : Zones) (order : ZoneOrder) (z : ZoneDefinition) : Prop :=
  ∀ d ∈ z.records, DomainName.Normal d.fqdn → m.holder? order d.fqdn = some z.zone →
    ∀ r, m.record? z.zone d.fqdn = some r → ∀ family, r.listed family = d.listed family

section

variable {m : Zones} {order : ZoneOrder} {z : ZoneDefinition} {cancelled : Bool}
  {zone fqdn : String}
  (distinct : (z.records.map (·.fqdn)).Nodup)
  (noop : (m.reload z cancelled).summary.isNoop = true)

include distinct noop

/-- Every configured record is live and as it is written. -/
theorem matches_of_noop {d : RecordDefinition} (member : d ∈ z.records) :
    ∃ r, m.record? z.zone d.fqdn = some r ∧ r.Matches d ∧
      (m.reload z cancelled).zones.record? z.zone d.fqdn = some (r.updateFrom d).2 := by
  have reloads : m.Reloads z (m.reload z cancelled).zones (m.reload z cancelled).summary :=
    reloads_reload distinct
  obtain ⟨noneAdded, noneUpdated, _⟩ := ReloadSummary.nil_of_isNoop noop
  have after : (m.reload z cancelled).zones.record? z.zone d.fqdn =
      some (Merge.outcome z.zone cancelled (recordsOf m z.zone) d) :=
    record?_reload_configured distinct member
  cases live : m.record? z.zone d.fqdn with
  | none =>
    have added := (reloads.added d.fqdn).mpr ⟨List.mem_map_of_mem member, live⟩
    rw [noneAdded] at added
    cases added
  | some r =>
    refine ⟨r, rfl, ?_, ?_⟩
    · by_contra differs
      have updated := (reloads.updated d.fqdn).mpr ⟨d, member, rfl, r, live, differs⟩
      rw [noneUpdated] at updated
      cases updated
    · rw [after, Merge.outcome, find?_recordsOf, live]

/-- What is not configured is as it was. -/
theorem record?_reload_of_noop (absent : zone = z.zone → fqdn ∉ z.records.map (·.fqdn)) :
    (m.reload z cancelled).zones.record? zone fqdn = m.record? zone fqdn := by
  by_cases own : zone = z.zone
  · subst own
    have unconfigured := absent rfl
    rw [record?_reload_unconfigured unconfigured]
    cases rejected : z.isRejected fqdn with
    | true => rfl
    | false =>
      cases live : m.record? z.zone fqdn with
      | none => rfl
      | some r =>
        have reloads : m.Reloads z (m.reload z cancelled).zones (m.reload z cancelled).summary :=
          reloads_reload distinct
        have removed := (reloads.removed fqdn).mpr ⟨⟨r, live⟩, unconfigured, rejected⟩
        rw [(ReloadSummary.nil_of_isNoop noop).2.2] at removed
        cases removed
  · exact record?_reload_other own

theorem isSome_record?_reload_of_noop (zone fqdn : String) :
    ((m.reload z cancelled).zones.record? zone fqdn).isSome = (m.record? zone fqdn).isSome := by
  by_cases configured : zone = z.zone ∧ fqdn ∈ z.records.map (·.fqdn)
  · obtain ⟨rfl, named⟩ := configured
    obtain ⟨d, member, rfl⟩ := List.mem_map.mp named
    obtain ⟨r, live, _, after⟩ := matches_of_noop distinct noop member
    rw [live, after]
    rfl
  · rw [record?_reload_of_noop distinct noop fun own named => configured ⟨own, named⟩]

/-- A configured record that a name finds is found again, merged with its definition. -/
theorem findRecord_reload_of_noop
    (names : NameMap.names (m.reload z cancelled).zones = NameMap.names m) {d : RecordDefinition}
    (member : d ∈ z.records) (normal : DomainName.Normal d.fqdn)
    (found : m.holder? order d.fqdn = some z.zone) :
    ∃ r, m.record? z.zone d.fqdn = some r ∧ m.findRecord order d.fqdn = some r ∧
      (m.reload z cancelled).zones.findRecord order d.fqdn = some (r.updateFrom d).2 := by
  obtain ⟨r, live, _, after⟩ := matches_of_noop distinct noop member
  have again := holder?_congr order names fun zone =>
    isSome_record?_reload_of_noop distinct noop zone d.fqdn
  refine ⟨r, live, ?_, ?_⟩
  · rw [findRecord_eq, normal, found, Option.bind_some, live]
  · rw [findRecord_eq, normal, again, found, Option.bind_some, after]

theorem answersAs_reload_of_noop
    (names : NameMap.names (m.reload z cancelled).zones = NameMap.names m)
    (addresses : ∀ d ∈ z.records, (d.backends.map (·.address)).Nodup)
    (inOrder : m.InOrder order z) : AnswersAs order m (m.reload z cancelled).zones := by
  refine ⟨names, fun name => ?_⟩
  have again := holder?_congr order names fun zone =>
    isSome_record?_reload_of_noop distinct noop zone (DomainName.normalize name)
  rw [findRecord_eq, findRecord_eq, again]
  cases holder : m.holder? order (DomainName.normalize name) with
  | none => exact .none
  | some zone =>
    rw [Option.bind_some, Option.bind_some]
    by_cases configured : zone = z.zone ∧ DomainName.normalize name ∈ z.records.map (·.fqdn)
    · obtain ⟨rfl, named⟩ := configured
      obtain ⟨d, member, own⟩ := List.mem_map.mp named
      rw [← own] at holder ⊢
      obtain ⟨r, live, matched, after⟩ := matches_of_noop distinct noop member
      have normal : DomainName.Normal d.fqdn := own ▸ DomainName.normal_normalize name
      rw [live, after]
      exact .some (Record.answersAs_updateFrom matched (addresses d member)
        (inOrder d member normal holder r live))
    · rw [record?_reload_of_noop distinct noop fun own named => configured ⟨own, named⟩]
      cases m.record? zone (DomainName.normalize name) with
      | none => exact .none
      | some r => exact .some (.refl r)

end

theorem mem_names_reload {m : Zones} {z : ZoneDefinition} {cancelled : Bool} :
    z.zone ∈ NameMap.names (m.reload z cancelled).zones := by
  rw [NameMap.mem_names_iff, zones_reload, NameMap.find?_insert, if_pos rfl]
  exact ⟨_, rfl⟩

theorem names_reload {m : Zones} {z : ZoneDefinition} {cancelled : Bool}
    (present : z.zone ∈ NameMap.names m) :
    NameMap.names (m.reload z cancelled).zones = NameMap.names m := by
  refine NameMap.names_eq_of_isSome fun zone => ?_
  by_cases own : zone = z.zone
  · subst own
    rw [Option.isSome_iff_exists.mpr (NameMap.mem_names_iff.mp mem_names_reload),
      Option.isSome_iff_exists.mpr (NameMap.mem_names_iff.mp present)]
  · rw [find?_reload_other own]

end Zones

end DnsBalancer
