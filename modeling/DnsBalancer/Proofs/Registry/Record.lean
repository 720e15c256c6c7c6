import DnsBalancer.Proofs.Registry.Definitions
import DnsBalancer.Registry.Record
import Mathlib.Data.List.Nodup

/-!
# Merging a definition into a record

The record takes over settings and backends as they are written. A backend that was there
under its address keeps what probing found; any other begins unprobed. No change is
reported only if the record is already as its definition says, up to the order of backends.
-/
namespace DnsBalancer

/-- All that probing has left on a backend. -/
def Backend.SameHistory (b old : Backend) : Prop :=
  b.health = old.health ∧ b.applied = old.applied ∧ b.begun = old.begun

/-- Dead, not measured, and no cycle begun. -/
def Backend.Unprobed (b : Backend) : Prop :=
  b.health = {} ∧ b.applied = 0 ∧ b.begun = 0

namespace Backend

theorem SameHistory.refl (b : Backend) : b.SameHistory b := ⟨rfl, rfl, rfl⟩

theorem SameHistory.trans {b old older : Backend} (first : b.SameHistory old)
    (second : old.SameHistory older) : b.SameHistory older :=
  ⟨first.1.trans second.1, first.2.1.trans second.2.1, first.2.2.trans second.2.2⟩

theorem Unprobed.of_sameHistory {b old : Backend} (unprobed : old.Unprobed)
    (same : b.SameHistory old) : b.Unprobed :=
  ⟨same.1.trans unprobed.1, same.2.1.trans unprobed.2.1, same.2.2.trans unprobed.2.2⟩

end Backend

namespace Record

theorem mem_of_backend? {r : Record} {a : Address} {b : Backend}
    (found : r.backend? a = some b) : b ∈ r.backends ∧ b.address = a := by
  refine ⟨List.mem_of_find?_eq_some found, ?_⟩
  simpa using List.find?_some found

/-- With one backend for an address, looking it up finds it. -/
theorem backend?_of_mem {r : Record} {b : Backend}
    (distinct : (r.backends.map (·.address)).Nodup) (member : b ∈ r.backends) :
    r.backend? b.address = some b := by
  cases found : r.backend? b.address with
  | none =>
    have absent := List.find?_eq_none.mp found b member
    simp at absent
  | some other =>
    obtain ⟨present, address⟩ := mem_of_backend? found
    rw [List.inj_on_of_nodup_map distinct present member address]

/-- A backend that is put back is found in its place, and the others as before. -/
theorem backend?_setBackend {r : Record} {b old : Backend}
    (found : r.backend? b.address = some old) (a : Address) :
    (r.setBackend b).backend? a = if b.address = a then some b else r.backend? a := by
  have walk (bs : List Backend) (held : bs.find? (·.address == b.address) = some old) :
      (setBackend.place b bs).find? (·.address == a) =
        if b.address = a then some b else bs.find? (·.address == a) := by
    induction bs with
    | nil => cases held
    | cons c cs ih =>
      rw [List.find?_cons] at held
      rw [setBackend.place]
      cases met : c.address == b.address with
      | true =>
        have same : c.address = b.address := beq_iff_eq.mp met
        rw [if_pos rfl, List.find?_cons, List.find?_cons, same]
        by_cases own : b.address = a
        · simp [own]
        · simp [own, beq_false_of_ne own]
      | false =>
        rw [met] at held
        rw [if_neg Bool.false_ne_true, List.find?_cons, List.find?_cons, ih held]
        by_cases own : b.address = a
        · have other : (c.address == a) = false := own ▸ met
          rw [other, if_pos own]
        · rw [if_neg own, if_neg own]
  exact walk r.backends found

theorem mem_setBackend {r : Record} {b x : Backend}
    (member : x ∈ (r.setBackend b).backends) : x = b ∨ x ∈ r.backends := by
  have walk (bs : List Backend) (inside : x ∈ setBackend.place b bs) : x = b ∨ x ∈ bs := by
    induction bs with
    | nil => cases inside
    | cons c cs ih =>
      rw [setBackend.place] at inside
      split at inside
      · exact (List.mem_cons.mp inside).imp_right (List.mem_cons_of_mem c)
      · rcases List.mem_cons.mp inside with rfl | later
        · exact Or.inr List.mem_cons_self
        · exact (ih later).imp_right (List.mem_cons_of_mem c)
  exact walk r.backends member

theorem mergeBackend_live {r : Record} {d : BackendDefinition} {b : Backend}
    (found : r.backend? d.address = some b) :
    r.mergeBackend d = (some (b.updateFrom d).1, (b.updateFrom d).2) := by
  simp [mergeBackend, found]

theorem mergeBackend_new {r : Record} {d : BackendDefinition}
    (absent : r.backend? d.address = none) :
    r.mergeBackend d = (none, { record := r.fqdn, definition := d }) := by
  simp [mergeBackend, absent]

theorem agrees_mergeBackend (r : Record) (d : BackendDefinition) :
    (r.mergeBackend d).2.definition.Agrees d := by
  cases found : r.backend? d.address with
  | none =>
    rw [mergeBackend_new found]
    exact .refl d
  | some b =>
    rw [mergeBackend_live found]
    exact Backend.agrees_mergeDefinition (mem_of_backend? found).2

@[simp] theorem address_mergeBackend (r : Record) (d : BackendDefinition) :
    (r.mergeBackend d).2.address = d.address :=
  (agrees_mergeBackend r d).address

@[simp] theorem backends_updateFrom (r : Record) (d : RecordDefinition) :
    (r.updateFrom d).2.backends = d.backends.map fun x => (r.mergeBackend x).2 := by
  simp [updateFrom]

/-- What is found after a merge was merged from the first definition of its address. -/
theorem backend?_updateFrom (r : Record) (d : RecordDefinition) (a : Address) :
    (r.updateFrom d).2.backend? a =
      (d.backends.find? (·.address == a)).map fun x => (r.mergeBackend x).2 := by
  rw [backend?, backends_updateFrom, List.find?_map]
  simp only [Function.comp_def, address_mergeBackend]

/-- A backend whose address is still written keeps what probing has left there. -/
theorem exists_backend?_updateFrom {r : Record} {d : RecordDefinition} {a : Address}
    {b : Backend} (live : r.backend? a = some b) (written : a ∈ d.backends.map (·.address)) :
    ∃ x, (r.updateFrom d).2.backend? a = some x ∧ x.SameHistory b := by
  rw [backend?_updateFrom]
  cases first : d.backends.find? (·.address == a) with
  | none =>
    obtain ⟨x, member, rfl⟩ := List.mem_map.mp written
    have absent := List.find?_eq_none.mp first x member
    simp at absent
  | some x =>
    have address : x.address = a := by simpa using List.find?_some first
    refine ⟨(b.updateFrom x).2, ?_, rfl, rfl, rfl⟩
    rw [Option.map_some, mergeBackend_live (address ▸ live)]

/-- A record as the merge of its definition has to leave it, when `before` is what was live
under its name. -/
structure Follows (before : Option Record) (d : RecordDefinition) (r : Record) : Prop where
  settings : r.settings = d.settings
  backends : List.Forall₂ BackendDefinition.Agrees (r.backends.map (·.definition)) d.backends
  kept : ∀ b ∈ r.backends, ∀ old, before.bind (·.backend? b.address) = some old →
    b.SameHistory old
  fresh : ∀ b ∈ r.backends, before.bind (·.backend? b.address) = none → b.Unprobed

theorem Follows.addresses {before : Option Record} {d : RecordDefinition} {r : Record}
    (follows : r.Follows before d) : r.backends.map (·.address) = d.backends.map (·.address) := by
  have pairwise : List.Forall₂ (fun held written => held.address = written.address)
      (r.backends.map (·.definition)) d.backends :=
    follows.backends.imp fun _ _ agrees => agrees.address
  rw [← List.forall₂_map_right_iff, ← List.forall₂_map_left_iff, List.forall₂_eq_eq_eq,
    List.map_map] at pairwise
  exact pairwise

theorem follows_updateFrom (r : Record) (d : RecordDefinition) :
    (r.updateFrom d).2.Follows (some r) d where
  settings := rfl
  backends := by
    rw [backends_updateFrom, List.map_map, List.forall₂_map_left_iff]
    exact List.forall₂_same.mpr fun x _ => agrees_mergeBackend r x
  kept := by
    intro b member old found
    obtain ⟨x, _, rfl⟩ := List.mem_map.mp (backends_updateFrom r d ▸ member)
    rw [address_mergeBackend, Option.bind_some] at found
    rw [mergeBackend_live found]
    exact ⟨rfl, rfl, rfl⟩
  fresh := by
    intro b member absent
    obtain ⟨x, _, rfl⟩ := List.mem_map.mp (backends_updateFrom r d ▸ member)
    rw [address_mergeBackend, Option.bind_some] at absent
    rw [mergeBackend_new absent]
    exact ⟨rfl, rfl, rfl⟩

theorem follows_ofDefinition (zone : String) (d : RecordDefinition) (cancelled : Bool) :
    (ofDefinition zone d cancelled).Follows none d where
  settings := rfl
  backends := by
    rw [ofDefinition, List.map_map, List.forall₂_map_left_iff]
    exact List.forall₂_same.mpr fun x _ => .refl x
  kept := by
    intro b _ old found
    cases found
  fresh := by
    intro b member _
    obtain ⟨x, _, rfl⟩ := List.mem_map.mp member
    exact ⟨rfl, rfl, rfl⟩

/-- The record is as its definition says. The order of its backends is not looked at. -/
structure Matches (r : Record) (d : RecordDefinition) : Prop where
  settings : r.settings = d.settings
  written : ∀ x ∈ d.backends, ∃ b, r.backend? x.address = some b ∧ b.definition.InPlace x
  held : ∀ b ∈ r.backends, ∃ x ∈ d.backends, x.address = b.address

theorem inPlace_iff {r : Record} {b : Backend} {x : BackendDefinition}
    (found : r.backend? x.address = some b) :
    (b.updateFrom x).1 = false ↔ b.definition.InPlace x :=
  Backend.definitionChanged_eq_false_iff (mem_of_backend? found).2

/-- An unchanged backend shows in the merge as found and not touched. -/
theorem mergeBackend_unchanged_iff {r : Record} {x : BackendDefinition} :
    (r.mergeBackend x).1 = some false ↔
      ∃ b, r.backend? x.address = some b ∧ b.definition.InPlace x := by
  cases found : r.backend? x.address with
  | none => simp [mergeBackend_new found]
  | some b => simp [mergeBackend_live found, inPlace_iff found]

theorem isEmpty_updateFrom_iff (r : Record) (d : RecordDefinition) :
    (r.updateFrom d).1.isEmpty = true ↔ r.Matches d := by
  have outcome (o : Option Bool) : o = some false ↔ o ≠ none ∧ o ≠ some true := by
    rcases o with _ | _ | _ <;> simp
  simp only [RecordChanges.isEmpty, updateFrom, Bool.and_eq_true, Bool.not_eq_true',
    bne_eq_false_iff_eq, List.isEmpty_iff, List.map_eq_nil_iff, List.filter_eq_nil_iff,
    List.forall_mem_map, beq_iff_eq]
  constructor
  · rintro ⟨⟨⟨settings, noneAdded⟩, noneUpdated⟩, noneRemoved⟩
    refine ⟨settings, fun x member => ?_, fun b member => ?_⟩
    · exact mergeBackend_unchanged_iff.mp
        ((outcome _).mpr ⟨noneAdded x member, noneUpdated x member⟩)
    · simpa using noneRemoved b member
  · rintro ⟨settings, written, held⟩
    have unchanged (x) (member : x ∈ d.backends) :=
      (outcome _).mp (mergeBackend_unchanged_iff.mpr (written x member))
    refine ⟨⟨⟨settings, fun x member => (unchanged x member).1⟩,
      fun x member => (unchanged x member).2⟩, fun b member => ?_⟩
    simpa using held b member

/-- The backends that a definition names, in its order. -/
def reorder (r : Record) (d : RecordDefinition) : Record :=
  { r with backends := (d.backends.map (·.address)).filterMap r.backend? }

/-- A merge that reports no change leaves the same backends, in the order written. -/
theorem updateFrom_of_matches {r : Record} {d : RecordDefinition} (same : r.Matches d) :
    (r.updateFrom d).2 = r.reorder d := by
  have mode : r.settings.mode = d.mode := congrArg RecordSettings.mode same.settings
  have untouched : ∀ x ∈ d.backends, some (r.mergeBackend x).2 = r.backend? x.address := by
    intro x member
    obtain ⟨b, found, inPlace⟩ := same.written x member
    have address : b.definition.address = x.address := inPlace.1.address
    have unchanged := (Backend.definitionChanged_eq_false_iff address).mpr inPlace
    rw [mergeBackend_live found, found]
    simp only [Backend.updateFrom, Backend.mergeDefinition_of_unchanged address unchanged]
  have backends : (d.backends.map fun x => (r.mergeBackend x).2) =
      (d.backends.map (·.address)).filterMap r.backend? := by
    rw [List.filterMap_map, ← List.filterMap_eq_map]
    exact List.filterMap_congr untouched
  simp [updateFrom, reorder, mode, ← same.settings, Function.comp_def, backends]

/-! ### Backends in another order -/

section

variable {r : Record} {d : RecordDefinition}

theorem mem_reorder {b : Backend} (member : b ∈ (r.reorder d).backends) : b ∈ r.backends := by
  obtain ⟨a, _, found⟩ := List.mem_filterMap.mp member
  exact (mem_of_backend? found).1

/-- Looking backends up one after another leaves those that were asked for. -/
theorem find?_filterMap_backend? (a : Address) {order : List Address}
    (named : ∀ n ∈ order, ∃ b, r.backend? n = some b) :
    (order.filterMap r.backend?).find? (·.address == a) =
      if a ∈ order then r.backend? a else none := by
  induction order with
  | nil => simp
  | cons n order ih =>
    obtain ⟨⟨b, found⟩, rest⟩ := List.forall_mem_cons.mp named
    rw [List.filterMap_cons_some found, List.find?_cons, (mem_of_backend? found).2, ih rest]
    by_cases equal : n = a
    · simp [← equal, found]
    · have other : (n == a) = false := beq_false_of_ne equal
      simp [other, Ne.symm equal]

/-- What the definition names is found as before. -/
theorem backend?_reorder (same : r.Matches d) (a : Address) :
    (r.reorder d).backend? a = r.backend? a := by
  have named : ∀ n ∈ d.backends.map (·.address), ∃ b, r.backend? n = some b := by
    intro n member
    obtain ⟨x, written, rfl⟩ := List.mem_map.mp member
    obtain ⟨b, found, _⟩ := same.written x written
    exact ⟨b, found⟩
  rw [backend?, reorder, find?_filterMap_backend? a named]
  split
  · rfl
  · rename_i unnamed
    -- What is not named is not held either, so the record has no such backend.
    cases found : r.backend? a with
    | none => rfl
    | some b =>
      obtain ⟨present, address⟩ := mem_of_backend? found
      obtain ⟨x, member, equal⟩ := same.held b present
      exact absurd (List.mem_map.mpr ⟨x, member, equal.trans address⟩) unnamed

theorem reorder_reorder (same : r.Matches d) (e : RecordDefinition) :
    (r.reorder d).reorder e = r.reorder e := by
  have found : (r.reorder d).backend? = r.backend? := funext (backend?_reorder same)
  rw [reorder, found]
  rfl

theorem matches_reorder_iff (same : r.Matches d) (e : RecordDefinition) :
    (r.reorder d).Matches e ↔ r.Matches e := by
  constructor
  · rintro ⟨settings, written, held⟩
    refine ⟨settings, ?_, ?_⟩
    · simpa only [backend?_reorder same] using written
    · intro b present
      obtain ⟨x, named, address⟩ := same.held b present
      obtain ⟨c, found, _⟩ := same.written x named
      have kept : c ∈ (r.reorder d).backends :=
        List.mem_filterMap.mpr ⟨x.address, List.mem_map_of_mem named, found⟩
      obtain ⟨y, member, equal⟩ := held c kept
      exact ⟨y, member, equal.trans ((mem_of_backend? found).2.trans address)⟩
  · rintro ⟨settings, written, held⟩
    refine ⟨settings, ?_, fun b member => held b (mem_reorder member)⟩
    simpa only [backend?_reorder same] using written

/-- A record in the order of its own definition stays as it is. -/
theorem reorder_self (distinct : (r.backends.map (·.address)).Nodup)
    (order : r.backends.map (·.address) = d.backends.map (·.address)) : r.reorder d = r := by
  have kept : (r.backends.map (·.address)).filterMap r.backend? = r.backends := by
    rw [List.filterMap_map, List.filterMap_congr (g := some)]
    · exact List.filterMap_some
    · exact fun b member => backend?_of_mem distinct member
  rw [reorder, ← order, kept]

end

end Record

end DnsBalancer
