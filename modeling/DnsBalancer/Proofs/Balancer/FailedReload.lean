import DnsBalancer.Balancer.Control
import DnsBalancer.Proofs.Location.Table
import DnsBalancer.Proofs.Zone.Faults

/-!
# Reloads that fail

A reload judges the whole of a file before it touches anything. Whatever is wrong with the file,
and wherever, the state that it leaves is the one it found, with one more failure counted.
-/
namespace DnsBalancer.Balancer

/-- All but the counts of reloads. -/
def uncounted (b : Balancer) : Balancer :=
  { b with metrics := { b.metrics with reloads := .empty b.metrics.reloads.key } }

/-- One more reload that ended so, and no other difference. -/
structure CountsOne (ok : Bool) (before after : Balancer) : Prop where
  rest : after.uncounted = before.uncounted
  counted : after.metrics.reloads.find? [Metrics.resultLabel ok] =
    some ((before.metrics.reloads.find? [Metrics.resultLabel ok]).getD 0 + 1)
  others : ∀ labels, before.metrics.reloads.key labels ≠
      before.metrics.reloads.key [Metrics.resultLabel ok] →
    after.metrics.reloads.find? labels = before.metrics.reloads.find? labels

theorem countsOne_countReload (ok : Bool) (b : Balancer) : CountsOne ok b (b.countReload ok) where
  rest := rfl
  counted := by simp [countReload, Metrics.reloaded, Series.count, Series.update]
  others labels different := by
    simp [countReload, Metrics.reloaded, Series.count, Series.update, Ne.symm different]

variable (b : Balancer) (zone path : String) (content : Except ReadFault String)

theorem reloadZoneFile_failed {err : ConfigError}
    (failure : ZoneDefinition.load zone path content b.profiles = .error err) :
    b.reloadZoneFile zone path content = (.error err, b.countReload false) := by
  rw [reloadZoneFile, failure]

theorem reloadZoneFile_eq_error_iff {err : ConfigError} :
    (b.reloadZoneFile zone path content).1 = .error err ↔
      ZoneDefinition.load zone path content b.profiles = .error err := by
  rw [reloadZoneFile]
  cases ZoneDefinition.load zone path content b.profiles <;> simp

theorem reloadLocations_failed {err : ConfigError}
    (failure : LocationTable.load path content = .error err) :
    b.reloadLocations path content = (.error err, b.countReload false) := by
  rw [reloadLocations, failure]

theorem reloadLocations_loaded {t : LocationTable}
    (success : LocationTable.load path content = .ok t) :
    b.reloadLocations path content =
      (.ok t.entries.length, { b with locations := t }.countReload true) := by
  rw [reloadLocations, success]

theorem reloadLocations_eq_error_iff {err : ConfigError} :
    (b.reloadLocations path content).1 = .error err ↔
      LocationTable.load path content = .error err := by
  rw [reloadLocations]
  cases LocationTable.load path content <;> simp

/-- A reload of a zone fails with the fault of its file and leaves all as it was, but that the
failure is counted; so does one of the locations. One of the locations that succeeds puts the
rows of the file, in order, in the place of the table. -/
theorem reload_atomic :
    (∀ err, (b.reloadZoneFile zone path content).1 = .error err ↔
      ZoneDefinition.FileFault zone path b.profiles content err) ∧
    (∀ err, (b.reloadZoneFile zone path content).1 = .error err →
      CountsOne false b (b.reloadZoneFile zone path content).2) ∧
    (∀ err, (b.reloadLocations path content).1 = .error err ↔
      LocationTable.FileFault path content err) ∧
    (∀ err, (b.reloadLocations path content).1 = .error err →
      CountsOne false b (b.reloadLocations path content).2) ∧
    ∀ n, (b.reloadLocations path content).1 = .ok n →
      ∃ t : LocationTable, t.Lists content ∧ n = t.entries.length ∧
        (b.reloadLocations path content).2.locations = t ∧
        CountsOne true { b with locations := t } (b.reloadLocations path content).2 := by
  refine ⟨fun err => ?_, fun err failure => ?_, fun err => ?_, fun err failure => ?_,
    fun n success => ?_⟩
  · rw [reloadZoneFile_eq_error_iff, ZoneDefinition.load_eq_error_iff]
  · have failure := (reloadZoneFile_eq_error_iff b zone path content).mp failure
    rw [reloadZoneFile_failed b zone path content failure]
    exact countsOne_countReload false b
  · rw [reloadLocations_eq_error_iff, LocationTable.load_eq_error_iff]
  · have failure := (reloadLocations_eq_error_iff b path content).mp failure
    rw [reloadLocations_failed b path content failure]
    exact countsOne_countReload false b
  · cases loaded : LocationTable.load path content with
    | error err =>
      rw [reloadLocations_failed b path content loaded] at success
      cases success
    | ok t =>
      rw [reloadLocations_loaded b path content loaded] at success ⊢
      obtain rfl := Except.ok.inj success
      exact ⟨t, LocationTable.load_eq_ok_iff.mp loaded, rfl, rfl, countsOne_countReload true _⟩

/-- The second of two records is in another zone. -/
def halfForeign : String :=
  "records:\n  a.example.org.:\n    backends:\n      - address: 10.0.0.2\n" ++
  "  b.example.net.:\n"

/-- The second of two rows has no subnet. -/
def halfPlaced : String :=
  "subnets:\n  - subnet: 10.0.0.0/8\n    location: here\n" ++
  "  - subnet: elsewhere\n    location: there\n"

theorem reload_atomic_halfway : ∃ b : Balancer, b.zones.names = ["example.org."] ∧
    CountsOne false b (b.reloadZoneFile "example.org." "zone.yml" (.ok halfForeign)).2 ∧
    CountsOne false b (b.reloadLocations "locations.yml" (.ok halfPlaced)).2 := by
  let b := ofDefinitions [⟨"example.org.", [], []⟩]
  obtain ⟨_, zoneKept, _⟩ := reload_atomic b "example.org." "zone.yml" (.ok halfForeign)
  obtain ⟨_, _, _, tableKept, _⟩ := reload_atomic b "example.org." "locations.yml" (.ok halfPlaced)
  have foreign : (ZoneDefinition.load "example.org." "zone.yml" (.ok halfForeign) []).map
      (fun _ => ()) = .error (.zoneMismatch "b.example.net." "example.org.") := by decide +kernel
  have unplaced : LocationTable.load "locations.yml" (.ok halfPlaced) =
      .error (.invalidSubnet "elsewhere") := by decide +kernel
  refine ⟨b, rfl, ?_, tableKept _ ((reloadLocations_eq_error_iff b _ _).mpr unplaced)⟩
  cases failure : ZoneDefinition.load "example.org." "zone.yml" (.ok halfForeign) [] with
  | error err => exact zoneKept err ((reloadZoneFile_eq_error_iff b _ _ _).mpr failure)
  | ok z =>
    rw [failure] at foreign
    cases foreign

end DnsBalancer.Balancer
