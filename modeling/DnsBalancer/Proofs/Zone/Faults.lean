import DnsBalancer.Proofs.Zone.Profiles

/-!
# What ends the load of a zone file

The kinds of faults, one by one: a load fails with a fault of the file or of the first entry
that has one, whatever stands in front of that entry and behind it.
-/
namespace DnsBalancer

open Yaml (Value)

/-- What is wrong with an entry under a name in the zone of which this much was understood. -/
inductive ZoneFile.EntryFault (f : ZoneFile) (zone : String) (shared : Profiles) :
    Value × Value → ConfigError → Prop where
  | unnamed {key value : Value} (noText : key.text? = none) :
      EntryFault f zone shared (key, value) (.malformedRecord key.describe)
  | outside {key value : Value} {name : String} (text : key.text? = some name)
      (foreign : ¬DomainName.inZone (DomainName.normalize name) zone) :
      EntryFault f zone shared (key, value) (.zoneMismatch (DomainName.normalize name) zone)
  | shapeless {key value : Value} {fqdn : String} (named : recordName zone key = .ok fqdn)
      (noMapping : ∀ record, value ≠ .mapping record) :
      EntryFault f zone shared (key, value) (.malformedRecord fqdn)
  /-- Of the checks of one backend there is no list, or a name stands for none. -/
  | checks {key : Value} {record : List (Value × Value)} {fqdn : String} {err : ConfigError}
      (named : recordName zone key = .ok fqdn)
      (first : recordFault? f.profiles shared fqdn (merge f.defaults record) = some err) :
      EntryFault f zone shared (key, .mapping record) err

/-- What is wrong with a file, or with what was read in its place. -/
inductive ZoneDefinition.FileFault (zone path : String) (shared : Profiles) :
    Except ReadFault String → ConfigError → Prop where
  | unreadable (fault : ReadFault) :
      FileFault zone path shared (.error fault) (.unreadable path fault)
  | blank {text : String} (nothing : Text.trimBlank text.toList = []) :
      FileFault zone path shared (.ok text) (.emptyFile path)
  | notYaml {text : String} (something : Text.trimBlank text.toList ≠ [])
      (unread : Yaml.readText? ZoneFile.read text = none) :
      FileFault zone path shared (.ok text) .notYaml
  | entry {text : String} {f : ZoneFile} {before after : List (Value × Value)} {e : Value × Value}
      {err : ConfigError} (something : Text.trimBlank text.toList ≠ [])
      (read : Yaml.readText? ZoneFile.read text = some f) (split : f.records = before ++ e :: after)
      (sound : ∀ x ∈ before, ∀ fault, ¬f.EntryFault (DomainName.normalize zone) shared x fault)
      (fault : f.EntryFault (DomainName.normalize zone) shared e err) :
      FileFault zone path shared (.ok text) err

namespace ZoneFile

variable {f : ZoneFile} {zone : String} {shared : Profiles}

theorem recordName_eq_error_iff {key : Value} {err : ConfigError} :
    recordName zone key = .error err ↔
      (key.text? = none ∧ err = .malformedRecord key.describe) ∨
      ∃ name, key.text? = some name ∧ ¬DomainName.inZone (DomainName.normalize name) zone ∧
        err = .zoneMismatch (DomainName.normalize name) zone := by
  rw [recordName]
  cases key.text? with
  | none =>
    constructor
    · intro failure
      exact .inl ⟨rfl, (Except.error.inj failure).symm⟩
    · rintro (⟨_, rfl⟩ | ⟨_, text, _⟩)
      · rfl
      · cases text
  | some name =>
    dsimp only
    split
    · rename_i own
      constructor
      · nofun
      · rintro (⟨noText, _⟩ | ⟨_, text, foreign, _⟩)
        · cases noText
        · exact absurd (Option.some.inj text ▸ own) foreign
    · rename_i foreign
      constructor
      · intro failure
        exact .inr ⟨name, rfl, foreign, (Except.error.inj failure).symm⟩
      · rintro (⟨noText, _⟩ | ⟨_, text, _, rfl⟩)
        · cases noText
        · rw [Option.some.inj text]

theorem loadEntry_eq_error_iff {e : Value × Value} {err : ConfigError} :
    f.loadEntry zone shared e.1 e.2 = .error err ↔ f.EntryFault zone shared e err := by
  obtain ⟨key, value⟩ := e
  constructor
  · intro failure
    cases named : recordName zone key with
    | error fault =>
      have same : err = fault := by
        simp only [loadEntry, named, bind, Except.bind] at failure
        exact (Except.error.inj failure).symm
      obtain ⟨noText, rfl⟩ | ⟨name, text, foreign, rfl⟩ := recordName_eq_error_iff.mp named
      · exact same ▸ .unnamed noText
      · exact same ▸ .outside text foreign
    | ok fqdn =>
      cases value with
      | mapping record =>
        dsimp only at failure
        rw [loadEntry_mapping named] at failure
        cases first : recordFault? f.profiles shared fqdn (merge f.defaults record) with
        | none =>
          rw [first] at failure
          cases failure
        | some fault =>
          rw [first] at failure
          obtain rfl := Except.error.inj failure
          exact .checks named first
      | _ =>
        simp only [loadEntry, named, bind, Except.bind] at failure
        obtain rfl := Except.error.inj failure
        exact .shapeless named (by simp)
  · intro fault
    cases fault with
    | unnamed noText =>
      have unnamed := (@recordName_eq_error_iff zone key _).mpr (.inl ⟨noText, rfl⟩)
      simp only [loadEntry, unnamed, bind, Except.bind]
    | outside text foreign =>
      have mismatch := recordName_eq_error_iff.mpr (.inr ⟨_, text, foreign, rfl⟩)
      simp only [loadEntry, mismatch, bind, Except.bind]
    | shapeless named noMapping =>
      cases value with
      | mapping record => exact absurd rfl (noMapping record)
      | _ => simp only [loadEntry, named, bind, Except.bind]
    | checks named first => rw [loadEntry_mapping named, first, Option.elim]

theorem exists_verdict_iff {e : Value × Value} :
    (∃ v, f.loadEntry zone shared e.1 e.2 = .ok v) ↔ ∀ err, ¬f.EntryFault zone shared e err := by
  simp only [← loadEntry_eq_error_iff]
  cases f.loadEntry zone shared e.1 e.2 <;> simp

end ZoneFile

theorem ZoneDefinition.load_eq_error_iff {zone path : String} {shared : Profiles}
    {content : Except ReadFault String} {err : ConfigError} :
    load zone path content shared = .error err ↔ FileFault zone path shared content err := by
  constructor
  · intro failure
    cases content with
    | error fault =>
      obtain rfl := Except.error.inj failure
      exact .unreadable fault
    | ok text =>
      rw [load] at failure
      split at failure
      · rename_i nothing
        obtain rfl := Except.error.inj failure
        exact .blank (List.isEmpty_iff.mp nothing)
      · rename_i something
        have something : Text.trimBlank text.toList ≠ [] := mt List.isEmpty_iff.mpr something
        rw [parse, ZoneFile.parse] at failure
        cases read : Yaml.readText? ZoneFile.read text with
        | none =>
          rw [read] at failure
          obtain rfl := Except.error.inj failure
          exact .notYaml something read
        | some f =>
          rw [read] at failure
          obtain ⟨before, e, after, vs, split, judged, fault⟩ :=
            ZoneFile.load_eq_error_iff.mp failure
          refine .entry something read split (fun x there => ?_)
            (ZoneFile.loadEntry_eq_error_iff.mp fault)
          exact ZoneFile.exists_verdict_iff.mp
            (ZoneFile.exists_judges_iff_forall.mp ⟨vs, judged⟩ x there)
  · intro fault
    cases fault with
    | unreadable => rfl
    | blank nothing => rw [load, if_pos (List.isEmpty_iff.mpr nothing)]
    | notYaml something unread =>
      rw [load, if_neg (mt List.isEmpty_iff.mp something), parse, ZoneFile.parse, unread]
      rfl
    | entry something read split sound fault =>
      rw [load, if_neg (mt List.isEmpty_iff.mp something), parse, ZoneFile.parse, read]
      obtain ⟨vs, judged⟩ := ZoneFile.exists_judges_iff_forall.mpr fun x there =>
        ZoneFile.exists_verdict_iff.mpr (sound x there)
      exact ZoneFile.load_eq_error_iff.mpr
        ⟨_, _, _, vs, split, judged, ZoneFile.loadEntry_eq_error_iff.mpr fault⟩

/-- One faulty entry is enough, wherever it stands. -/
theorem ZoneDefinition.load_fails_of_entryFault {zone path text : String} {shared : Profiles}
    {f : ZoneFile} {e : Value × Value} {err : ConfigError}
    (read : Yaml.readText? ZoneFile.read text = some f) (there : e ∈ f.records)
    (fault : f.EntryFault (DomainName.normalize zone) shared e err) :
    ∃ first, load zone path (.ok text) shared = .error first := by
  rw [load]
  split
  · exact ⟨_, rfl⟩
  · rw [parse, ZoneFile.parse, read]
    cases loaded : f.load zone shared with
    | error first => exact ⟨first, loaded⟩
    | ok z =>
      obtain ⟨vs, judged, _⟩ := ZoneFile.load_eq_ok_iff.mp loaded
      obtain ⟨v, _, verdict⟩ := ZoneFile.exists_verdict judged there
      exact absurd fault (ZoneFile.exists_verdict_iff.mp ⟨v, verdict⟩ err)

end DnsBalancer
