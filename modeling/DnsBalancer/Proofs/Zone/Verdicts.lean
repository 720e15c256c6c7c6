import DnsBalancer.Proofs.Traversal
import DnsBalancer.Zone.Load

/-!
# The verdicts of a zone file

Every entry of a file has a verdict of its own, which depends on the defaults and the profiles
but on no other entry: it is a definition or a refusal, or a fault that ends the load. A file
that loads gives the definitions and the refusals in the order of its entries; one that does
not, gives the fault of the first entry that has one.
-/
namespace DnsBalancer

/-- A definition, or a record that is refused for its own content. -/
abbrev Verdict := Sum RecordDefinition RejectedRecord

def Verdict.fqdn : Verdict → String
  | .inl d => d.fqdn
  | .inr r => r.fqdn

/-- The zone that comes of verdicts. -/
def ZoneDefinition.ofVerdicts (zone : String) (vs : List Verdict) : ZoneDefinition where
  zone
  records := vs.filterMap Sum.getLeft?
  rejected := vs.filterMap Sum.getRight?

/-- The records and refusals of all parts, in order. -/
def ZoneDefinition.join (zone : String) (parts : List ZoneDefinition) : ZoneDefinition where
  zone
  records := parts.flatMap (·.records)
  rejected := parts.flatMap (·.rejected)

theorem ZoneDefinition.join_ofVerdicts (zone : String) (vs : List Verdict) :
    join zone (vs.map fun v => ofVerdicts zone [v]) = ofVerdicts zone vs := by
  have records (v : Verdict) : [v].filterMap Sum.getLeft? = v.getLeft?.toList := by
    cases v <;> rfl
  have rejected (v : Verdict) : [v].filterMap Sum.getRight? = v.getRight?.toList := by
    cases v <;> rfl
  simp only [join, ofVerdicts, List.flatMap_map, records, rejected,
    List.filterMap_eq_flatMap_toList]

namespace ZoneFile

open Yaml (Value)

/-- One verdict for each entry, in order. -/
def Judges (f : ZoneFile) (zone : String) (shared : Profiles) (es : List (Value × Value))
    (vs : List Verdict) : Prop :=
  List.Forall₂ (fun e v => f.loadEntry zone shared e.1 e.2 = .ok v) es vs

/-- The file with other entries, under the same defaults and profiles. -/
def only (f : ZoneFile) (es : List (Value × Value)) : ZoneFile := { f with records := es }

section

variable {f : ZoneFile} {zone : String} {shared : Profiles} {es : List (Value × Value)}

theorem exists_verdict {vs : List Verdict} {e : Value × Value} (judged : f.Judges zone shared es vs)
    (member : e ∈ es) : ∃ v ∈ vs, f.loadEntry zone shared e.1 e.2 = .ok v :=
  exists_of_forall₂ judged.flip member

theorem exists_entry {vs : List Verdict} {v : Verdict} (judged : f.Judges zone shared es vs)
    (member : v ∈ vs) : ∃ e ∈ es, f.loadEntry zone shared e.1 e.2 = .ok v :=
  exists_of_forall₂ judged member

theorem exists_judges_iff_forall : (∃ vs, f.Judges zone shared es vs) ↔
    ∀ e ∈ es, ∃ v, f.loadEntry zone shared e.1 e.2 = .ok v := by
  constructor
  · rintro ⟨vs, judged⟩ e member
    obtain ⟨v, _, first⟩ := exists_verdict judged member
    exact ⟨v, first⟩
  · intro each
    induction es with
    | nil => exact ⟨[], .nil⟩
    | cons e es ih =>
      obtain ⟨⟨v, first⟩, rest⟩ := List.forall_mem_cons.mp each
      obtain ⟨vs, judged⟩ := ih rest
      exact ⟨v :: vs, .cons first judged⟩

theorem loadEntries_eq_ok_iff {result : List RecordDefinition × List RejectedRecord} :
    f.loadEntries zone shared es = .ok result ↔ ∃ vs, f.Judges zone shared es vs ∧
      result = (vs.filterMap Sum.getLeft?, vs.filterMap Sum.getRight?) := by
  induction es generalizing result with
  | nil =>
    constructor
    · intro success
      cases success
      exact ⟨[], .nil, rfl⟩
    · rintro ⟨vs, judged, rfl⟩
      cases judged
      rfl
  | cons e es ih =>
    rw [loadEntries]
    constructor
    · intro success
      obtain ⟨v, first, success⟩ := bind_success success
      obtain ⟨rest, later, success⟩ := bind_success success
      obtain ⟨vs, judged, rfl⟩ := ih.mp later
      refine ⟨v :: vs, .cons first judged, ?_⟩
      cases v <;> cases success <;> rfl
    · rintro ⟨_, judged, rfl⟩
      cases judged with
      | @cons _ v _ vs first judged =>
        rw [first, ih.mpr ⟨vs, judged, rfl⟩]
        cases v <;> rfl

theorem loadEntries_of_fault {before after : List (Value × Value)} {vs : List Verdict}
    {e : Value × Value} {err : ConfigError} (judged : f.Judges zone shared before vs)
    (fault : f.loadEntry zone shared e.1 e.2 = .error err) :
    f.loadEntries zone shared (before ++ e :: after) = .error err := by
  induction judged with
  | nil =>
    rw [List.nil_append, loadEntries, fault]
    rfl
  | cons first _ ih =>
    rw [List.cons_append, loadEntries, first, ih]
    rfl

/-- An entry that has a verdict hides no fault behind it. -/
theorem loadEntries_cons_eq_error_iff {e : Value × Value} {v : Verdict} {err : ConfigError}
    (first : f.loadEntry zone shared e.1 e.2 = .ok v) :
    f.loadEntries zone shared (e :: es) = .error err ↔
      f.loadEntries zone shared es = .error err := by
  rw [loadEntries, first]
  cases f.loadEntries zone shared es with
  | error fault =>
    constructor <;> intro failure <;> cases failure <;> rfl
  | ok rest =>
    constructor <;> intro failure
    · cases v <;> cases failure
    · cases failure

theorem exists_fault_of_loadEntries {err : ConfigError}
    (failure : f.loadEntries zone shared es = .error err) :
    ∃ before e after vs, es = before ++ e :: after ∧ f.Judges zone shared before vs ∧
      f.loadEntry zone shared e.1 e.2 = .error err := by
  induction es with
  | nil => cases failure
  | cons e es ih =>
    cases first : f.loadEntry zone shared e.1 e.2 with
    | error fault =>
      rw [loadEntries, first] at failure
      cases failure
      exact ⟨[], e, es, [], rfl, .nil, first⟩
    | ok v =>
      obtain ⟨before, x, after, vs, rfl, judged, fault⟩ :=
        ih ((loadEntries_cons_eq_error_iff first).mp failure)
      exact ⟨e :: before, x, after, v :: vs, rfl, .cons first judged, fault⟩

/-- A verdict does not depend on the other entries. -/
theorem loadEntries_only (es' : List (Value × Value)) :
    (f.only es').loadEntries zone shared es = f.loadEntries zone shared es := by
  induction es with
  | nil => rfl
  | cons e es ih =>
    rw [loadEntries, loadEntries, ih]
    rfl

theorem load_eq_ok_iff {z : ZoneDefinition} : f.load zone shared = .ok z ↔
    ∃ vs, f.Judges (DomainName.normalize zone) shared f.records vs ∧
      z = .ofVerdicts (DomainName.normalize zone) vs := by
  constructor
  · intro success
    obtain ⟨result, loaded, success⟩ := bind_success success
    obtain ⟨vs, judged, rfl⟩ := loadEntries_eq_ok_iff.mp loaded
    exact ⟨vs, judged, (Except.ok.inj success).symm⟩
  · rintro ⟨vs, judged, rfl⟩
    rw [load, loadEntries_eq_ok_iff.mpr ⟨vs, judged, rfl⟩]
    rfl

theorem load_eq_error {err : ConfigError} : f.load zone shared = .error err ↔
    f.loadEntries (DomainName.normalize zone) shared f.records = .error err := by
  rw [load]
  cases f.loadEntries (DomainName.normalize zone) shared f.records with
  | error fault =>
    constructor <;> intro failure <;> cases failure <;> rfl
  | ok result =>
    constructor <;> intro failure <;> cases failure

theorem load_eq_error_iff {err : ConfigError} : f.load zone shared = .error err ↔
    ∃ before e after vs, f.records = before ++ e :: after ∧
      f.Judges (DomainName.normalize zone) shared before vs ∧
      f.loadEntry (DomainName.normalize zone) shared e.1 e.2 = .error err := by
  rw [load_eq_error]
  constructor
  · exact exists_fault_of_loadEntries
  · rintro ⟨before, e, after, vs, split, judged, fault⟩
    rw [split, loadEntries_of_fault judged fault]

/-! ### An entry alone -/

theorem load_only_singleton_eq_ok_iff {e : Value × Value} {z : ZoneDefinition} :
    (f.only [e]).load zone shared = .ok z ↔
      ∃ v, f.loadEntry (DomainName.normalize zone) shared e.1 e.2 = .ok v ∧
        z = .ofVerdicts (DomainName.normalize zone) [v] := by
  rw [load_eq_ok_iff]
  constructor
  · rintro ⟨vs, judged, rfl⟩
    obtain ⟨v, _, first, rest, rfl⟩ := List.forall₂_cons_left_iff.mp judged
    rw [List.forall₂_nil_left_iff.mp rest]
    exact ⟨v, first, rfl⟩
  · rintro ⟨v, first, rfl⟩
    exact ⟨[v], .cons first .nil, rfl⟩

theorem load_only_singleton_eq_error_iff {e : Value × Value} {err : ConfigError} :
    (f.only [e]).load zone shared = .error err ↔
      f.loadEntry (DomainName.normalize zone) shared e.1 e.2 = .error err := by
  rw [load_eq_error_iff]
  constructor
  · rintro ⟨before, x, after, vs, split, _, fault⟩
    -- A list of one has nothing before its only member.
    obtain ⟨_, only⟩ | ⟨_, _, rest⟩ := List.cons_eq_append_iff.mp split
    · obtain ⟨rfl, _⟩ := List.cons.inj only
      exact fault
    · simp at rest
  · intro fault
    exact ⟨[], e, [], [], rfl, .nil, fault⟩

theorem forall₂_singleton_iff {parts : List ZoneDefinition} :
    List.Forall₂ (fun e part => (f.only [e]).load zone shared = .ok part) es parts ↔
      ∃ vs, f.Judges (DomainName.normalize zone) shared es vs ∧
        parts = vs.map fun v => .ofVerdicts (DomainName.normalize zone) [v] := by
  simp only [load_only_singleton_eq_ok_iff, Judges]
  constructor
  · intro loaded
    induction loaded with
    | nil => exact ⟨[], .nil, rfl⟩
    | cons first _ ih =>
      obtain ⟨v, judged, rfl⟩ := first
      obtain ⟨vs, rest, rfl⟩ := ih
      exact ⟨v :: vs, .cons judged rest, rfl⟩
  · rintro ⟨vs, judged, rfl⟩
    exact List.forall₂_map_right_iff.mpr (judged.imp fun e v first => ⟨v, first, rfl⟩)

theorem exists_judges_iff : (∃ vs, f.Judges (DomainName.normalize zone) shared es vs) ↔
    ∀ e ∈ es, ∃ z, (f.only [e]).load zone shared = .ok z := by
  rw [exists_judges_iff_forall]
  refine forall₂_congr fun e _ => ?_
  simp only [load_only_singleton_eq_ok_iff]
  exact ⟨fun ⟨v, judged⟩ => ⟨_, v, judged, rfl⟩, fun ⟨_, v, judged, _⟩ => ⟨v, judged⟩⟩

/-! ### An entry left out -/

section

variable {before after : List (Value × Value)} {e : Value × Value} {v : Verdict}

theorem loadEntries_without_eq_error_iff {err : ConfigError}
    (judged : f.loadEntry zone shared e.1 e.2 = .ok v) :
    f.loadEntries zone shared (before ++ e :: after) = .error err ↔
      f.loadEntries zone shared (before ++ after) = .error err := by
  induction before with
  | nil => exact loadEntries_cons_eq_error_iff judged
  | cons x before ih =>
    cases first : f.loadEntry zone shared x.1 x.2 with
    | error fault => simp only [List.cons_append, loadEntries, first]; rfl
    | ok w =>
      rw [List.cons_append, List.cons_append, loadEntries_cons_eq_error_iff first,
        loadEntries_cons_eq_error_iff first, ih]

theorem exists_judges_without {vs : List Verdict} (own : f.loadEntry zone shared e.1 e.2 = .ok v)
    (judged : f.Judges zone shared (before ++ e :: after) vs) :
    ∃ front back, f.Judges zone shared (before ++ after) (front ++ back) ∧
      vs = front ++ v :: back := by
  induction before generalizing vs with
  | nil =>
    obtain ⟨w, back, first, rest, rfl⟩ := List.forall₂_cons_left_iff.mp judged
    obtain rfl := Except.ok.inj (own.symm.trans first)
    exact ⟨[], back, rest, rfl⟩
  | cons x before ih =>
    obtain ⟨w, ws, first, rest, rfl⟩ := List.forall₂_cons_left_iff.mp judged
    obtain ⟨front, back, others, rfl⟩ := ih rest
    exact ⟨w :: front, back, .cons first others, rfl⟩

end

end

/-- A file loads when each of its entries does by itself, and has what they have, in order; the
fault of one that does not load is that of the first entry with one. Leaving out an entry that
is refused takes its refusal off the result and changes nothing else, nor any fault. -/
theorem load_entrywise (f : ZoneFile) (zone : String) (shared : Profiles) :
    ((∃ z, f.load zone shared = .ok z) ↔
      ∀ e ∈ f.records, ∃ z, (f.only [e]).load zone shared = .ok z) ∧
    (∀ z, f.load zone shared = .ok z ↔ ∃ parts,
      List.Forall₂ (fun e part => (f.only [e]).load zone shared = .ok part) f.records parts ∧
        z = .join (DomainName.normalize zone) parts) ∧
    (∀ err, f.load zone shared = .error err ↔ ∃ before e after,
      f.records = before ++ e :: after ∧
        (∀ x ∈ before, ∃ z, (f.only [x]).load zone shared = .ok z) ∧
        (f.only [e]).load zone shared = .error err) ∧
    ∀ before e after r, f.records = before ++ e :: after →
      (f.only [e]).load zone shared =
        .ok { zone := DomainName.normalize zone, records := [], rejected := [r] } →
      (∀ err, f.load zone shared = .error err ↔
        (f.only (before ++ after)).load zone shared = .error err) ∧
      ∀ z, f.load zone shared = .ok z → ∃ front back, z.rejected = front ++ r :: back ∧
        (f.only (before ++ after)).load zone shared =
          .ok { z with rejected := front ++ back } := by
  have parts (z : ZoneDefinition) : f.load zone shared = .ok z ↔ ∃ parts,
      List.Forall₂ (fun e part => (f.only [e]).load zone shared = .ok part) f.records parts ∧
        z = .join (DomainName.normalize zone) parts := by
    rw [load_eq_ok_iff]
    simp only [forall₂_singleton_iff]
    constructor
    · rintro ⟨vs, judged, rfl⟩
      exact ⟨_, ⟨vs, judged, rfl⟩, (ZoneDefinition.join_ofVerdicts _ vs).symm⟩
    · rintro ⟨_, ⟨vs, judged, rfl⟩, rfl⟩
      exact ⟨vs, judged, ZoneDefinition.join_ofVerdicts _ vs⟩
  refine ⟨?_, parts, fun err => ?_, fun before e after r split refused => ?_⟩
  · rw [← exists_judges_iff]
    simp only [load_eq_ok_iff]
    exact ⟨fun ⟨_, vs, judged, _⟩ => ⟨vs, judged⟩, fun ⟨vs, judged⟩ => ⟨_, vs, judged, rfl⟩⟩
  · simp only [load_only_singleton_eq_error_iff, load_eq_error_iff (f := f), ← exists_judges_iff]
    constructor
    · rintro ⟨before, e, after, vs, split, judged, fault⟩
      exact ⟨before, e, after, split, ⟨vs, judged⟩, fault⟩
    · rintro ⟨before, e, after, split, ⟨vs, judged⟩, fault⟩
      exact ⟨before, e, after, vs, split, judged, fault⟩
  · have own : f.loadEntry (DomainName.normalize zone) shared e.1 e.2 = .ok (.inr r) := by
      obtain ⟨v, judged, same⟩ := load_only_singleton_eq_ok_iff.mp refused
      cases v with
      | inl d => cases congrArg (·.records) same
      | inr s =>
        cases congrArg (·.rejected) same
        exact judged
    refine ⟨fun err => ?_, fun z loaded => ?_⟩
    · rw [load_eq_error, load_eq_error, loadEntries_only, split]
      exact loadEntries_without_eq_error_iff own
    · obtain ⟨vs, judged, rfl⟩ := load_eq_ok_iff.mp loaded
      rw [split] at judged
      obtain ⟨front, back, others, rfl⟩ := exists_judges_without own judged
      refine ⟨front.filterMap Sum.getRight?, back.filterMap Sum.getRight?, ?_, ?_⟩
      · simp [ZoneDefinition.ofVerdicts]
      · refine load_eq_ok_iff.mpr ⟨front ++ back, others, ?_⟩
        simp [ZoneDefinition.ofVerdicts, List.filterMap_cons]

/-- The second of the two records has no backend. -/
def refusing : ZoneFile where
  records := [
    (.string "a.example.org.", .mapping [
      (.string "backends", .sequence [.mapping [(.string "address", .string "10.0.0.1")]])]),
    (.string "B.example.org", .mapping [])]

theorem load_entrywise_refusing : ∃ z front back, refusing.load "Example.org" [] = .ok z ∧
    z.rejected = front ++ ⟨"b.example.org.", .emptyRecord "b.example.org."⟩ :: back ∧
    (refusing.only (refusing.records.take 1)).load "Example.org" [] =
      .ok { z with rejected := front ++ back } := by
  obtain ⟨loads, _, _, without⟩ := load_entrywise refusing "Example.org" []
  have each : ∀ e ∈ refusing.records, ∃ z, (refusing.only [e]).load "Example.org" [] = .ok z := by
    simp only [refusing, List.forall_mem_cons]
    exact ⟨⟨_, rfl⟩, ⟨_, rfl⟩, by simp⟩
  obtain ⟨z, loaded⟩ := loads.mpr each
  obtain ⟨_, kept⟩ := without (refusing.records.take 1) (.string "B.example.org", .mapping []) []
    ⟨"b.example.org.", .emptyRecord "b.example.org."⟩ rfl rfl
  obtain ⟨front, back, split, rest⟩ := kept z loaded
  exact ⟨z, front, back, loaded, split, rest⟩

end ZoneFile

end DnsBalancer
