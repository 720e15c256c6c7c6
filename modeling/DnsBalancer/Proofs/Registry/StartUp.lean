import DnsBalancer.Proofs.Registry.Persistence

/-!
# Starting with definitions and reloading them

At the start the records of all definitions of a zone stand beside one another; a reload leaves
those of the latest, and with them what it refuses and the zone had. What both of them have is
alike, and they have the same records just when no definition takes away what an earlier one of
its zone has brought.
-/
namespace DnsBalancer

open RecordDefinition (lastNamed? lastNamed?_concat mem_of_lastNamed? exists_lastNamed?)

namespace RecordDefinition

theorem lastNamed?_append (fqdn : String) (ds es : List RecordDefinition) :
    lastNamed? fqdn (ds ++ es) = (lastNamed? fqdn es).or (lastNamed? fqdn ds) := by
  rw [lastNamed?, List.reverse_append, List.find?_append]
  rfl

theorem isSome_lastNamed?_iff {fqdn : String} {ds : List RecordDefinition} :
    (lastNamed? fqdn ds).isSome = true ↔ fqdn ∈ ds.map (·.fqdn) := by
  constructor
  · intro found
    obtain ⟨d, last⟩ := Option.isSome_iff_exists.mp found
    obtain ⟨member, rfl⟩ := mem_of_lastNamed? last
    exact List.mem_map_of_mem member
  · intro written
    obtain ⟨d, member, rfl⟩ := List.mem_map.mp written
    exact Option.isSome_iff_exists.mpr (exists_lastNamed? member)

end RecordDefinition

/-! ### Records that nothing has happened to -/

namespace Record

/-- The record is what a new one of its definition is, up to checks that are equivalent and
coordinates that are equal. -/
structure New (zone : String) (d : RecordDefinition) (r : Record) : Prop where
  fqdn : r.fqdn = d.fqdn
  zone : r.zone = zone
  settings : r.settings = d.settings
  selector : r.selector = .ofMode d.mode
  going : r.cancelled = false
  backends : List.Forall₂ BackendDefinition.Agrees (r.backends.map (·.definition)) d.backends
  unprobed : ∀ x ∈ r.backends, x.Unprobed

theorem new_ofDefinition (zone : String) (d : RecordDefinition) :
    (ofDefinition zone d false).New zone d where
  fqdn := rfl
  zone := rfl
  settings := rfl
  selector := rfl
  going := rfl
  backends := (follows_ofDefinition zone d false).backends
  unprobed := fun x member => (follows_ofDefinition zone d false).fresh x member rfl

/-- A merge into a new record leaves one that is new for the later definition. -/
theorem new_updateFrom {zone : String} {d e : RecordDefinition} {r : Record} (new : r.New zone d)
    (same : d.fqdn = e.fqdn) : (r.updateFrom e).2.New zone e where
  fqdn := new.fqdn.trans same
  zone := new.zone
  settings := rfl
  selector := by
    have mode : r.settings.mode = d.mode := congrArg RecordSettings.mode new.settings
    simp only [updateFrom]
    split
    · rename_i kept
      rw [new.selector, ← mode, beq_iff_eq.mp kept]
    · rfl
  going := new.going
  backends := (follows_updateFrom r e).backends
  unprobed := by
    intro x member
    have follows := follows_updateFrom r e
    cases found : r.backend? x.address with
    | none => exact follows.fresh x member found
    | some old =>
      exact (new.unprobed old (mem_of_backend? found).1).of_sameHistory
        (follows.kept x member old found)

/-- The two answer for the same name in the same way: the same settings and cursor, and the same
backends in the same order, with equal definitions and the same health. -/
structure Alike (r s : Record) : Prop where
  fqdn : s.fqdn = r.fqdn
  zone : s.zone = r.zone
  settings : s.settings = r.settings
  selector : s.selector = r.selector
  cancelled : s.cancelled = r.cancelled
  order : s.backends.map (·.address) = r.backends.map (·.address)
  backends : ∀ x ∈ r.backends, ∃ y, s.backend? x.address = some y ∧
    y.definition.Agrees x.definition ∧ y.SameHistory x

theorem alike_of_new {zone : String} {d : RecordDefinition} {s : Record} (new : s.New zone d)
    (distinct : (d.backends.map (·.address)).Nodup) : (ofDefinition zone d false).Alike s := by
  have same : List.Forall₂ Eq (s.backends.map (·.address)) (d.backends.map (·.address)) := by
    have agrees := List.forall₂_map_left_iff.mp new.backends
    rw [List.forall₂_map_left_iff, List.forall₂_map_right_iff]
    exact agrees.imp fun _ _ agrees => agrees.address
  rw [List.forall₂_eq_eq_eq] at same
  refine ⟨new.fqdn, new.zone, new.settings, new.selector, new.going, ?_, fun x member => ?_⟩
  · rw [same, ofDefinition, List.map_map]
    rfl
  · obtain ⟨e, written, rfl⟩ := List.mem_map.mp member
    obtain ⟨i, bound, rfl⟩ := List.getElem_of_mem written
    have length : s.backends.length = d.backends.length := by
      simpa using congrArg List.length same
    have held : s.backends[i] ∈ s.backends := List.getElem_mem (length ▸ bound)
    have agrees : s.backends[i].definition.Agrees d.backends[i] := by
      have agrees := (List.forall₂_map_left_iff.mp new.backends).get (length ▸ bound) bound
      simpa using agrees
    have found := backend?_of_mem (same ▸ distinct) held
    rw [Backend.address, agrees.address] at found
    exact ⟨s.backends[i], found, agrees, new.unprobed _ held⟩

end Record

/-! ### Definitions of one zone -/

namespace Zones

/-- All records that the definitions of a zone have written, in order. -/
def written (zone : String) (zs : List ZoneDefinition) : List RecordDefinition :=
  (zs.filter (·.zone == zone)).flatMap (·.records)

/-- The name is written, and what comes later for the zone at most refuses it. -/
def Stands (zone fqdn : String) (zs : List ZoneDefinition) : Prop :=
  ∃ before z after, zs = before ++ z :: after ∧ z.zone = zone ∧ fqdn ∈ z.records.map (·.fqdn) ∧
    ∀ w ∈ after, w.zone = zone → w.isRejected fqdn = true

variable {zone fqdn : String} {zs : List ZoneDefinition} {z : ZoneDefinition}

theorem written_concat : written zone (zs ++ [z]) =
    if z.zone = zone then written zone zs ++ z.records else written zone zs := by
  by_cases own : z.zone = zone
  · simp [written, own]
  · simp [written, own]

theorem mem_written_iff {d : RecordDefinition} :
    d ∈ written zone zs ↔ ∃ z ∈ zs, z.zone = zone ∧ d ∈ z.records := by
  simp [written, and_assoc]

theorem not_stands_nil : ¬ Stands zone fqdn [] := by
  rintro ⟨before, z, after, split, _⟩
  simp at split

theorem stands_of_nodup (distinct : (zs.map (·.zone)).Nodup) (member : z ∈ zs)
    (named : fqdn ∈ z.records.map (·.fqdn)) : Stands z.zone fqdn zs := by
  obtain ⟨before, after, rfl⟩ := List.append_of_mem member
  refine ⟨before, z, after, rfl, rfl, named, fun w later own => ?_⟩
  rw [List.map_append, List.map_cons, List.nodup_append] at distinct
  exact absurd (own ▸ List.mem_map_of_mem later) (List.nodup_cons.mp distinct.2.1).1

theorem stands_concat : Stands zone fqdn (zs ++ [z]) ↔
    z.zone = zone ∧ fqdn ∈ z.records.map (·.fqdn) ∨
      Stands zone fqdn zs ∧ (z.zone = zone → z.isRejected fqdn = true) := by
  constructor
  · rintro ⟨before, w, after, split, own, named, later⟩
    rcases List.eq_nil_or_concat after with rfl | ⟨front, last, rfl⟩
    · obtain ⟨_, last⟩ := List.append_inj' split rfl
      obtain rfl := List.singleton_inj.mp last
      exact Or.inl ⟨own, named⟩
    · rw [List.concat_eq_append, ← List.cons_append, ← List.append_assoc] at split
      obtain ⟨rfl, last⟩ := List.append_inj' split rfl
      obtain rfl := List.singleton_inj.mp last
      refine Or.inr ⟨⟨before, w, front, rfl, own, named, fun x member => ?_⟩, ?_⟩
      · exact later x (by simp [member])
      · exact later _ (by simp)
  · rintro (⟨own, named⟩ | ⟨⟨before, w, after, rfl, own, named, later⟩, last⟩)
    · exact ⟨zs, z, [], rfl, own, named, fun _ member => nomatch member⟩
    · refine ⟨before, w, after ++ [z], by simp, own, named, ?_⟩
      exact List.forall_mem_append.mpr ⟨later, List.forall_mem_singleton.mpr last⟩

/-- Where each step puts the zone of its definition, there are the zones of all definitions. -/
theorem isSome_foldl_iff {step : Zones → ZoneDefinition → Zones}
    (puts : ∀ m z, ∃ rs, step m z = NameMap.insert m z.zone rs) :
    (NameMap.find? (zs.foldl step {}) zone).isSome = true ↔ zone ∈ zs.map (·.zone) := by
  induction zs using List.reverseRecOn with
  | nil => simp
  | append_singleton zs z ih =>
    obtain ⟨rs, put⟩ := puts (zs.foldl step {}) z
    rw [List.foldl_concat, put, NameMap.find?_insert]
    by_cases own : z.zone = zone
    · simp [own]
    · simpa [own, Ne.symm own] using ih

/-! ### At the start -/

theorem ofDefinitions_concat : ofDefinitions (zs ++ [z]) = NameMap.insert (ofDefinitions zs) z.zone
    (addRecords (recordsOf (ofDefinitions zs) z.zone) z) := List.foldl_concat ..

theorem record?_ofDefinitions : (ofDefinitions zs).record? zone fqdn =
    (lastNamed? fqdn (written zone zs)).map (.ofDefinition zone · false) := by
  induction zs using List.reverseRecOn with
  | nil => rfl
  | append_singleton zs z ih =>
    rw [ofDefinitions_concat, record?_insert, written_concat]
    split
    · rename_i own
      subst own
      rw [addRecords, find?_addRecords, find?_recordsOf, ih, RecordDefinition.lastNamed?_append,
        Option.map_or]
    · exact ih

theorem isSome_ofDefinitions_iff : (NameMap.find? (ofDefinitions zs) zone).isSome = true ↔
    zone ∈ zs.map (·.zone) := isSome_foldl_iff fun _ _ => ⟨_, rfl⟩

/-! ### After reloads -/

/-- The registry that reloading definitions one after another leads to. -/
def reloadAll (zs : List ZoneDefinition) : Zones :=
  zs.foldl (fun m z => (m.reload z false).zones) {}

theorem reloadAll_concat : reloadAll (zs ++ [z]) = ((reloadAll zs).reload z false).zones :=
  List.foldl_concat ..

theorem isSome_reloadAll_iff : (NameMap.find? (reloadAll zs) zone).isSome = true ↔
    zone ∈ zs.map (·.zone) := isSome_foldl_iff fun _ _ => ⟨_, zones_reload⟩

theorem isSome_record?_reloadAll_iff :
    ((reloadAll zs).record? zone fqdn).isSome = true ↔ Stands zone fqdn zs := by
  induction zs using List.reverseRecOn with
  | nil => exact iff_of_false (by simp [reloadAll, record?, recordsOf]) not_stands_nil
  | append_singleton zs z ih =>
    rw [reloadAll_concat, stands_concat, ← ih]
    by_cases own : z.zone = zone
    · subst own
      rw [record?_reload, Option.isSome_or, Bool.or_eq_true, record?_walk_isSome]
      cases z.isRejected fqdn <;> simp
    · rw [record?_reload_other (Ne.symm own)]
      simp [own]

/-- What the walk over new records has come to is new for the last record of its name. -/
theorem Merge.exists_new_run {live : NameMap Record} {ds : List RecordDefinition}
    (before : ∀ fqdn r, live.find? fqdn = some r → ∃ d, d.fqdn = fqdn ∧ r.New zone d) :
    ∀ fqdn r, (ds.foldl (step zone false live) {}).next.find? fqdn = some r →
      ∃ d, lastNamed? fqdn ds = some d ∧ r.New zone d := by
  induction ds using List.reverseRecOn with
  | nil => exact fun _ _ found => nomatch found
  | append_singleton ds d ih =>
    intro fqdn r found
    rw [List.foldl_concat] at found
    rw [lastNamed?_concat]
    by_cases own : d.fqdn = fqdn
    · subst own
      refine ⟨d, if_pos rfl, ?_⟩
      rw [step] at found
      cases there : live.find? d.fqdn with
      | none =>
        simp only [there, NameMap.find?_insert, if_pos] at found
        exact Option.some.inj found ▸ Record.new_ofDefinition zone d
      | some old =>
        simp only [there, NameMap.find?_insert, if_pos] at found
        rw [← Option.some.inj found]
        -- What the step merges into is the live record, or what the walk has made of it.
        cases met : (ds.foldl (step zone false live) {}).next.find? d.fqdn with
        | none =>
          obtain ⟨e, named, new⟩ := before _ old there
          exact Record.new_updateFrom new named
        | some current =>
          obtain ⟨e, last, new⟩ := ih _ current met
          exact Record.new_updateFrom new (mem_of_lastNamed? last).2
    · rw [find?_step zone false live _ d fqdn own] at found
      rw [if_neg own]
      exact ih fqdn r found

theorem exists_new_reloadAll {r : Record}
    (found : (reloadAll zs).record? zone fqdn = some r) :
    ∃ d, lastNamed? fqdn (written zone zs) = some d ∧ r.New zone d := by
  induction zs using List.reverseRecOn generalizing zone fqdn r with
  | nil => cases found
  | append_singleton zs z ih =>
    rw [reloadAll_concat] at found
    rw [written_concat]
    by_cases own : z.zone = zone
    · subst own
      rw [if_pos rfl, RecordDefinition.lastNamed?_append]
      rw [record?_reload] at found
      rcases Option.or_eq_some_iff.mp found with met | ⟨unmet, kept⟩
      · have before : ∀ fqdn old, (recordsOf (reloadAll zs) z.zone).find? fqdn = some old →
            ∃ d, d.fqdn = fqdn ∧ old.New z.zone d := by
          intro fqdn old live
          obtain ⟨d, last, new⟩ := ih live
          exact ⟨d, (mem_of_lastNamed? last).2, new⟩
        obtain ⟨d, last, new⟩ := Merge.exists_new_run before fqdn r met
        rw [last]
        exact ⟨d, rfl, new⟩
      · split at kept
        · -- The definition does not have the name, so the last record of it is an earlier one.
          have unwritten : lastNamed? fqdn z.records = none := by
            rw [← Option.not_isSome_iff_eq_none, RecordDefinition.isSome_lastNamed?_iff,
              ← @record?_walk_isSome (reloadAll zs) z false, unmet]
            simp
          rw [unwritten, Option.none_or]
          exact ih kept
        · cases kept
    · rw [record?_reload_other (Ne.symm own)] at found
      rw [if_neg own]
      exact ih found

/-! ### The two compared -/

/-- The registries have the same zones, and alike records under the same names. -/
structure Alike (m n : Zones) : Prop where
  names : NameMap.names n = NameMap.names m
  records : ∀ zone fqdn, Option.Rel Record.Alike (m.record? zone fqdn) (n.record? zone fqdn)

theorem Alike.isSome_record? {m n : Zones} (alike : m.Alike n) (zone fqdn : String) :
    (n.record? zone fqdn).isSome = (m.record? zone fqdn).isSome := by
  have records := alike.records zone fqdn
  cases before : m.record? zone fqdn <;> cases after : n.record? zone fqdn <;>
    rw [before, after] at records <;> first | rfl | cases records

theorem names_reloadAll (zs : List ZoneDefinition) :
    NameMap.names (reloadAll zs) = NameMap.names (ofDefinitions zs) := by
  refine NameMap.names_eq_of_isSome fun zone => ?_
  rw [Bool.eq_iff_iff, isSome_reloadAll_iff, isSome_ofDefinitions_iff]

section

variable (distinct : ∀ z ∈ zs, ∀ d ∈ z.records, (d.backends.map (·.address)).Nodup)

include distinct

/-- What is live after the reloads is live at the start. -/
theorem exists_alike_of_reloadAll {s : Record}
    (found : (reloadAll zs).record? zone fqdn = some s) :
    ∃ r, (ofDefinitions zs).record? zone fqdn = some r ∧ r.Alike s := by
  obtain ⟨d, last, new⟩ := exists_new_reloadAll found
  obtain ⟨z, there, _, member⟩ := mem_written_iff.mp (mem_of_lastNamed? last).1
  refine ⟨.ofDefinition zone d false, ?_, Record.alike_of_new new (distinct z there d member)⟩
  rw [record?_ofDefinitions, last, Option.map_some]

theorem alike_reloadAll_iff : (ofDefinitions zs).Alike (reloadAll zs) ↔
    ∀ z ∈ zs, ∀ d ∈ z.records, Stands z.zone d.fqdn zs := by
  constructor
  · intro alike z there d member
    obtain ⟨e, last⟩ := exists_lastNamed? (mem_written_iff.mpr ⟨z, there, rfl, member⟩)
    rw [← isSome_record?_reloadAll_iff, alike.isSome_record?, record?_ofDefinitions, last]
    rfl
  · intro stand
    refine ⟨names_reloadAll zs, fun zone fqdn => ?_⟩
    cases found : (reloadAll zs).record? zone fqdn with
    | some s =>
      obtain ⟨r, built, alike⟩ := exists_alike_of_reloadAll distinct found
      exact built ▸ .some alike
    | none =>
      -- Whatever is written for the zone stands, so nothing of the name is written.
      rw [record?_ofDefinitions]
      cases last : lastNamed? fqdn (written zone zs) with
      | none => exact .none
      | some d =>
        obtain ⟨member, rfl⟩ := mem_of_lastNamed? last
        obtain ⟨z, there, rfl, inside⟩ := mem_written_iff.mp member
        have live := isSome_record?_reloadAll_iff.mpr (stand z there d inside)
        rw [found] at live
        cases live

end

end Zones

end DnsBalancer
