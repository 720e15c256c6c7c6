import DnsBalancer.Proofs.Registry.Reload
import Mathlib.Data.List.Induction

/-!
# Merging what is live already

A definition may have several records of one name; the registry is built from the last of
them. The walk over such a definition reports nothing only if the live record matches every
one, and then it only puts backends in order.
-/
namespace DnsBalancer

/-- The last record of a name. -/
def RecordDefinition.lastNamed? (fqdn : String) (ds : List RecordDefinition) :
    Option RecordDefinition :=
  ds.reverse.find? (·.fqdn == fqdn)

namespace RecordDefinition

variable {fqdn : String} {ds : List RecordDefinition} {d : RecordDefinition}

@[simp] theorem lastNamed?_nil : lastNamed? fqdn [] = none := rfl

@[simp] theorem lastNamed?_concat :
    lastNamed? fqdn (ds ++ [d]) = if d.fqdn = fqdn then some d else lastNamed? fqdn ds := by
  by_cases equal : d.fqdn = fqdn
  · simp [lastNamed?, equal]
  · simp [lastNamed?, equal]

theorem mem_of_lastNamed? (found : lastNamed? fqdn ds = some d) : d ∈ ds ∧ d.fqdn = fqdn := by
  refine ⟨?_, ?_⟩
  · simpa using List.mem_of_find?_eq_some found
  · simpa using List.find?_some found

theorem exists_lastNamed? (member : d ∈ ds) : ∃ e, lastNamed? d.fqdn ds = some e := by
  cases found : lastNamed? d.fqdn ds with
  | some e => exact ⟨e, rfl⟩
  | none =>
    have absent := List.find?_eq_none.mp found d (List.mem_reverse.mpr member)
    simp at absent

/-- A name that stands once stands last. -/
theorem lastNamed?_of_nodup (distinct : (ds.map (·.fqdn)).Nodup) (member : d ∈ ds) :
    lastNamed? d.fqdn ds = some d := by
  obtain ⟨e, found⟩ := exists_lastNamed? member
  obtain ⟨present, equal⟩ := mem_of_lastNamed? found
  rw [found, List.inj_on_of_nodup_map distinct present member equal]

end RecordDefinition

namespace Zones.Merge

open RecordDefinition (lastNamed? lastNamed?_concat mem_of_lastNamed?)

/-- A walk that has reported nothing, after the records `ds`. -/
structure Settled (live : NameMap Record) (ds : List RecordDefinition) (m : Merge) : Prop where
  next : ∀ fqdn, m.next.find? fqdn =
    (lastNamed? fqdn ds).bind fun d => (live.find? fqdn).map (·.reorder d)
  updated : m.updated = []

/-- Each record of the definition is live, and as it is written there. -/
def InPlace (live : NameMap Record) (ds : List RecordDefinition) : Prop :=
  ∀ d ∈ ds, ∃ r, live.find? d.fqdn = some r ∧ r.Matches d

section

variable (zone : String) (cancelled : Bool) {live : NameMap Record} {m : Merge}
  {ds : List RecordDefinition} {d : RecordDefinition} {r : Record}

/-- The record that the walk has come to under a name is the live one, up to the order of
its backends. -/
theorem current_eq (settled : Settled live ds m) (inPlace : InPlace live ds)
    (found : live.find? d.fqdn = some r) :
    (m.next.find? d.fqdn).getD r = r ∨
      ∃ e, r.Matches e ∧ (m.next.find? d.fqdn).getD r = r.reorder e := by
  rw [settled.next, found]
  cases last : lastNamed? d.fqdn ds with
  | none => exact Or.inl rfl
  | some e =>
    obtain ⟨member, name⟩ := mem_of_lastNamed? last
    obtain ⟨before, live, written⟩ := inPlace e member
    obtain rfl : before = r := by simpa [name, found] using live.symm
    exact Or.inr ⟨e, written, rfl⟩

theorem matches_current_iff (settled : Settled live ds m) (inPlace : InPlace live ds)
    (found : live.find? d.fqdn = some r) :
    ((m.next.find? d.fqdn).getD r).Matches d ↔ r.Matches d := by
  rcases current_eq settled inPlace found with same | ⟨e, written, same⟩
  · rw [same]
  · rw [same, Record.matches_reorder_iff written]

theorem reorder_current (settled : Settled live ds m) (inPlace : InPlace live ds)
    (found : live.find? d.fqdn = some r) :
    ((m.next.find? d.fqdn).getD r).reorder d = r.reorder d := by
  rcases current_eq settled inPlace found with same | ⟨e, written, same⟩
  · rw [same]
  · rw [same, Record.reorder_reorder written]

theorem updated_step_eq_nil_iff (settled : Settled live ds m) (inPlace : InPlace live ds)
    (found : live.find? d.fqdn = some r) :
    (step zone cancelled live m d).updated = [] ↔ r.Matches d := by
  rw [← matches_current_iff settled inPlace found, ← Record.isEmpty_updateFrom_iff]
  simp only [step, found, settled.updated]
  split <;> simp_all

theorem settled_step (settled : Settled live ds m) (inPlace : InPlace live ds)
    (found : live.find? d.fqdn = some r) (same : r.Matches d) :
    Settled live (ds ++ [d]) (step zone cancelled live m d) where
  next := by
    intro fqdn
    have current := (matches_current_iff settled inPlace found).mpr same
    simp only [step, found, NameMap.find?_insert, lastNamed?_concat]
    split
    · rename_i equal
      subst fqdn
      rw [Record.updateFrom_of_matches current, reorder_current settled inPlace found,
        Option.bind_some, found, Option.map_some]
    · exact settled.next fqdn
  updated := (updated_step_eq_nil_iff zone cancelled settled inPlace found).mpr same

/-- No step takes back a report. -/
theorem updated_of_step (nothing : (step zone cancelled live m d).updated = []) :
    m.updated = [] := by
  unfold step at nothing
  split at nothing
  · dsimp only at nothing
    split at nothing
    · exact nothing
    · simp at nothing
  · exact nothing

/-- As long as every name is live, the walk reports nothing just when all is in place. -/
theorem updated_run_eq_nil_iff (present : ∀ d ∈ ds, ∃ r, live.find? d.fqdn = some r) :
    ((ds.foldl (step zone cancelled live) {}).updated = [] ↔ InPlace live ds) ∧
      (InPlace live ds → Settled live ds (ds.foldl (step zone cancelled live) {})) := by
  -- From the right: whether the last step reports depends on what all the others have left.
  induction ds using List.reverseRecOn with
  | nil => exact ⟨by simp [InPlace], fun _ => ⟨fun fqdn => rfl, rfl⟩⟩
  | append_singleton ds d ih =>
    obtain ⟨nothing, settled⟩ := ih fun x member => present x (by simp [member])
    obtain ⟨r, found⟩ := present d (by simp)
    rw [List.foldl_concat]
    have later (inPlace : InPlace live (ds ++ [d])) : InPlace live ds ∧ r.Matches d := by
      refine ⟨fun x member => inPlace x (by simp [member]), ?_⟩
      obtain ⟨before, live, same⟩ := inPlace d (by simp)
      obtain rfl : before = r := by simpa [found] using live.symm
      exact same
    refine ⟨⟨fun unreported => ?_, fun inPlace => ?_⟩, fun inPlace => ?_⟩
    · have earlier := nothing.mp (updated_of_step zone cancelled unreported)
      have same := (updated_step_eq_nil_iff zone cancelled (settled earlier) earlier found).mp
        unreported
      intro x member
      rcases List.mem_append.mp member with before | last
      · exact earlier x before
      · rw [List.mem_singleton.mp last]
        exact ⟨r, found, same⟩
    · obtain ⟨earlier, same⟩ := later inPlace
      exact (updated_step_eq_nil_iff zone cancelled (settled earlier) earlier found).mpr same
    · obtain ⟨earlier, same⟩ := later inPlace
      exact settled_step zone cancelled (settled earlier) earlier found same

end

end Zones.Merge

end DnsBalancer
