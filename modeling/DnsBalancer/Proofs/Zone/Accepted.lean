import DnsBalancer.Proofs.DomainName
import DnsBalancer.Proofs.Zone.Verdicts
import DnsBalancer.Registry.Backend
import Mathlib.Algebra.Group.Nat.Defs
import Mathlib.Data.List.Nodup

/-!
# What a definition from a zone file is known to satisfy

A file that loads yields records within their bounds: there is something to answer with and to
wait for, and backends have an address each to themselves, a weight, a place on the globe if any,
and checks that can be made. Names are in normal form and in the zone, those of refused records
too. The records that a caller puts together by hand are not covered.
-/
namespace DnsBalancer

/-! ### Bounds -/

structure Coordinates.Valid (c : Coordinates) : Prop where
  latitude : -90.0 ≤ c.latitude ∧ c.latitude ≤ 90.0
  longitude : -180.0 ≤ c.longitude ∧ c.longitude ≤ 180.0

/-- The check is one that a file can ask for, and a TCP check has somewhere to connect to. -/
def Check.Valid : Check → Prop
  | .http .. => True
  | .tcp params _ => params.port ≠ 0
  | .scripted _ => False

structure BackendDefinition.Valid (x : BackendDefinition) : Prop where
  weight : 1 ≤ x.weight ∧ x.weight < 2 ^ 32
  coordinates : ∀ place, x.coordinates = some place → place.Valid
  country : x.country ≠ some ""
  city : x.city ≠ some ""
  asn : x.asn ≠ some ""
  location : x.location ≠ some ""
  probes : ∀ p ∈ x.probes, p.check.Valid

structure RecordDefinition.Valid (d : RecordDefinition) : Prop where
  served : d.backends ≠ []
  distinct : (d.backends.map (·.address)).Nodup
  interval : .zero < d.scrapeInterval
  timeout : .zero < d.scrapeTimeout
  backends : ∀ x ∈ d.backends, x.Valid

/-- Only what is no number differs from itself. -/
theorem beq_self_of_ne {a : Float.Model.UnpackedFloat} (number : a ≠ .notANumber) :
    a.beq a = true := by
  cases a with
  | notANumber => contradiction
  | infinity sign => cases sign <;> rfl
  | zero sign => rfl
  | finite sign mantissa exponent positive =>
    have same : (compare exponent exponent).then (compare mantissa mantissa) = .eq := by simp
    cases sign with
    | negative =>
      change (some ((compare exponent exponent).then (compare mantissa mantissa)).swap ==
        some Ordering.eq) = true
      rw [same]
      rfl
    | positive =>
      change (some ((compare exponent exponent).then (compare mantissa mantissa)) ==
        some Ordering.eq) = true
      rw [same]
      rfl

/-- What has something below it is a number. -/
theorem beq_self_of_le {x y : Float} (bounded : x ≤ y) : (y == y) = true := by
  have ordered : x.toModel.unpack.le y.toModel.unpack = true := of_decide_eq_true bounded
  apply beq_self_of_ne
  intro noNumber
  rw [noNumber] at ordered
  cases unpacked : x.toModel.unpack <;> rw [unpacked] at ordered <;> cases ordered

/-- A place on the globe is the same as itself. -/
theorem Coordinates.Valid.same {c : Coordinates} (valid : c.Valid) : c.same c = true := by
  simp [Coordinates.same, beq_self_of_le valid.latitude.1, beq_self_of_le valid.longitude.1]

/-- A backend that the file has once, at a place that is known if it is given. -/
structure RecordDefinition.Accepted (d : RecordDefinition) : Prop where
  distinct : (d.backends.map (·.address)).Nodup
  numbers : ∀ x ∈ d.backends, Backend.sameCoordinates x.coordinates x.coordinates = true

theorem RecordDefinition.Valid.accepted {d : RecordDefinition} (valid : d.Valid) :
    d.Accepted where
  distinct := valid.distinct
  numbers := by
    intro x member
    cases placed : x.coordinates with
    | none => rfl
    | some place => exact ((valid.backends x member).coordinates place placed).same

/-! ### Backends -/

theorem Check.valid_ofSpec {spec : CheckSpec} {timeout : Duration} {check : Check}
    (success : ofSpec spec timeout = .ok check) : check.Valid := by
  unfold ofSpec at success
  dsimp only at success
  split at success
  · split at success
    · cases success
    · split at success
      · cases success
      · cases success
        trivial
  · split at success
    · split at success
      · cases success
      · rename_i params _
        cases fault : params.fault? with
        | some f =>
          rw [fault] at success
          cases success
        | none =>
          rw [fault] at success
          cases success
          intro unset
          rw [TcpParams.fault?, if_pos unset] at fault
          cases fault
    · cases success

namespace BackendFields

theorem clampWeight_bounds (n : Int) : 1 ≤ clampWeight n ∧ clampWeight n < 2 ^ 32 := by
  have largest : Nat.pow 2 32 = 4294967296 := rfl
  unfold clampWeight
  split
  · omega
  · split <;> omega

theorem nonEmpty_ne (s : Option String) : nonEmpty s ≠ some "" := by
  intro equal
  have kept := (Option.filter_eq_some_iff.mp equal).2
  simp at kept

theorem valid_coordinates {b : BackendFields} {place : Option Coordinates}
    (success : b.coordinates = .ok place) : ∀ c, place = some c → c.Valid := by
  intro c given
  unfold coordinates at success
  split at success
  · cases success
    cases given
  · split at success
    · rename_i bounds
      cases success
      cases given
      exact ⟨⟨bounds.1, bounds.2.1⟩, bounds.2.2.1, bounds.2.2.2⟩
    · cases success
  · cases success

theorem valid_judge {b : BackendFields} {x : BackendDefinition} (success : b.judge = .ok x) :
    x.Valid := by
  unfold judge at success
  obtain ⟨address, _, success⟩ := bind_success success
  obtain ⟨place, placed, success⟩ := bind_success success
  obtain ⟨checks, ready, success⟩ := bind_success success
  cases success
  refine ⟨clampWeight_bounds _, valid_coordinates placed, nonEmpty_ne _, nonEmpty_ne _,
    nonEmpty_ne _, nonEmpty_ne _, ?_⟩
  intro p member
  obtain ⟨check, present, rfl⟩ := List.mem_map.mp member
  obtain ⟨spec, _, made⟩ := exists_of_forall₂ (mapM_eq_ok_iff.mp ready) present
  exact Check.valid_ofSpec made

end BackendFields

namespace RecordFields

/-- Backends that are judged have addresses not seen before, each once. -/
theorem valid_judgeBackends {fqdn : String} {seen : List Address} {bs : List BackendFields}
    {xs : List BackendDefinition} (success : judgeBackends fqdn seen bs = .ok xs) :
    xs.length = bs.length ∧ (xs.map (·.address)).Nodup ∧ (∀ x ∈ xs, x.address ∉ seen) ∧
      ∀ x ∈ xs, x.Valid := by
  induction bs generalizing seen xs with
  | nil =>
    cases success
    simp
  | cons b bs ih =>
    rw [judgeBackends] at success
    obtain ⟨x, judged, success⟩ := bind_success success
    split at success
    · cases success
    · rename_i unseen
      obtain ⟨rest, later, success⟩ := bind_success success
      cases success
      obtain ⟨length, distinct, fresh, valid⟩ := ih later
      refine ⟨by simp [length], ?_, ?_, ?_⟩
      · refine List.nodup_cons.mpr ⟨fun again => ?_, distinct⟩
        obtain ⟨y, member, equal⟩ := List.mem_map.mp again
        exact fresh y member (by simp [equal])
      · intro y member
        rcases List.mem_cons.mp member with rfl | member
        · exact unseen
        · exact fun present => fresh y member (List.mem_cons_of_mem _ present)
      · exact List.forall_mem_cons.mpr ⟨BackendFields.valid_judge judged, valid⟩

theorem valid_judgeExtent {fqdn : String} {r : RecordFields}
    (success : r.judgeExtent fqdn = .ok ()) :
    .zero < r.scrapeInterval ∧ .zero < r.scrapeTimeout ∧ r.backends ≠ [] := by
  unfold judgeExtent at success
  split at success
  · cases success
  split at success
  · cases success
  split at success
  · cases success
  rename_i interval timeout served
  have positive {t : Duration} (nonzero : ¬ t.isZero = true) : .zero < t :=
    Nat.pos_of_ne_zero fun zero => nonzero (beq_iff_eq.mpr zero)
  exact ⟨positive interval, positive timeout, fun none => served (List.isEmpty_iff.mpr none)⟩

theorem valid_judge {fqdn : String} {r : RecordFields} {d : RecordDefinition}
    (success : r.judge fqdn = .ok d) : d.fqdn = fqdn ∧ d.Valid := by
  unfold judge at success
  obtain ⟨mode, _, success⟩ := bind_success success
  obtain ⟨_, extent, success⟩ := bind_success success
  obtain ⟨xs, judged, success⟩ := bind_success success
  cases success
  obtain ⟨interval, timeout, some⟩ := valid_judgeExtent extent
  obtain ⟨length, distinct, _, valid⟩ := valid_judgeBackends judged
  have served : xs ≠ [] := by
    rintro rfl
    exact some (List.eq_nil_of_length_eq_zero length.symm)
  exact ⟨rfl, served, distinct, interval, timeout, valid⟩

end RecordFields

theorem RecordDefinition.valid_ofValue {fqdn : String} {v : Yaml.Value}
    {d : RecordDefinition} (success : ofValue fqdn v = .ok d) : d.fqdn = fqdn ∧ d.Valid := by
  unfold ofValue at success
  split at success
  · exact RecordFields.valid_judge success
  · cases success

/-! ### Entries -/

/-- The verdict goes by the name of the entry, in normal form, and a definition is within its
bounds. -/
structure Verdict.Sound (zone : String) (key : Yaml.Value) (v : Verdict) : Prop where
  named : ∃ name, key.text? = some name ∧ v.fqdn = DomainName.normalize name
  inZone : DomainName.inZone v.fqdn zone = true
  valid : ∀ d, v = .inl d → d.Valid

namespace ZoneFile

theorem recordName_sound {zone fqdn : String} {key : Yaml.Value}
    (success : recordName zone key = .ok fqdn) :
    (∃ name, key.text? = some name ∧ fqdn = DomainName.normalize name) ∧
      DomainName.inZone fqdn zone = true := by
  unfold recordName at success
  split at success
  · cases success
  · rename_i name written
    dsimp only at success
    split at success
    · rename_i inside
      -- Not by cases, which would compute the normal form.
      obtain rfl := Except.ok.inj success
      exact ⟨⟨name, written, rfl⟩, inside⟩
    · cases success

theorem sound_loadEntry {f : ZoneFile} {zone : String} {shared : Profiles}
    {key value : Yaml.Value} {v : Verdict}
    (success : f.loadEntry zone shared key value = .ok v) : v.Sound zone key := by
  unfold loadEntry at success
  obtain ⟨fqdn, named, success⟩ := bind_success success
  obtain ⟨written, inside⟩ := recordName_sound named
  split at success
  · obtain ⟨merged, _, success⟩ := bind_success success
    split at success
    · rename_i d accepted
      cases success
      obtain ⟨rfl, valid⟩ := RecordDefinition.valid_ofValue accepted
      exact ⟨written, inside, fun e same => Sum.inl.inj same ▸ valid⟩
    · cases success
      exact ⟨written, inside, fun e same => nomatch same⟩
  · cases success

end ZoneFile

/-! ### Files -/

/-- The zone is what its file says: one verdict for each entry, in order, each a record or a
refusal of it. -/
structure ZoneDefinition.Sound (z : ZoneDefinition) (f : ZoneFile) (shared : Profiles) : Prop where
  verdicts : ∃ vs : List Verdict,
    List.Forall₂ (fun e (v : Verdict) =>
        f.loadEntry z.zone shared e.1 e.2 = .ok v ∧ v.Sound z.zone e.1) f.records vs ∧
    z.records = vs.filterMap Sum.getLeft? ∧ z.rejected = vs.filterMap Sum.getRight?
  records : ∀ d ∈ z.records,
    DomainName.Normal d.fqdn ∧ DomainName.inZone d.fqdn z.zone = true ∧ d.Valid
  rejected : ∀ r ∈ z.rejected,
    DomainName.Normal r.fqdn ∧ DomainName.inZone r.fqdn z.zone = true

theorem Verdict.Sound.normal {zone : String} {key : Yaml.Value} {v : Verdict}
    (sound : v.Sound zone key) : DomainName.Normal v.fqdn := by
  obtain ⟨name, _, own⟩ := sound.named
  exact own ▸ DomainName.normal_normalize name

theorem ZoneFile.sound_load {f : ZoneFile} {zone : String} {shared : Profiles}
    {z : ZoneDefinition} (success : f.load zone shared = .ok z) :
    z.zone = DomainName.normalize zone ∧ z.Sound f shared := by
  obtain ⟨vs, judged, rfl⟩ := load_eq_ok_iff.mp success
  have each (v : Verdict) (present : v ∈ vs) :
      ∃ key, v.Sound (DomainName.normalize zone) key := by
    obtain ⟨e, _, loaded⟩ := exists_entry judged present
    exact ⟨e.1, sound_loadEntry loaded⟩
  refine ⟨rfl, ⟨vs, judged.imp fun e v loaded => ⟨loaded, sound_loadEntry loaded⟩, rfl, rfl⟩,
    fun d member => ?_, fun r member => ?_⟩
  · obtain ⟨v, present, own⟩ := List.mem_filterMap.mp member
    obtain rfl := Sum.getLeft?_eq_some_iff.mp own
    obtain ⟨_, sound⟩ := each _ present
    exact ⟨sound.normal, sound.inZone, sound.valid d rfl⟩
  · obtain ⟨v, present, own⟩ := List.mem_filterMap.mp member
    obtain rfl := Sum.getRight?_eq_some_iff.mp own
    obtain ⟨_, sound⟩ := each _ present
    exact ⟨sound.normal, sound.inZone⟩

theorem ZoneDefinition.sound_parse {zone text : String} {shared : Profiles}
    {z : ZoneDefinition} (success : parse zone text shared = .ok z) :
    ∃ f, ZoneFile.parse text = .ok f ∧ z.zone = DomainName.normalize zone ∧
      z.Sound f shared := by
  obtain ⟨f, read, loaded⟩ := bind_success success
  exact ⟨f, read, ZoneFile.sound_load loaded⟩

/-- Every record of a file that loads is accepted. -/
theorem ZoneDefinition.accepted_parse {zone text : String} {shared : Profiles}
    {z : ZoneDefinition} (success : parse zone text shared = .ok z) :
    ∀ d ∈ z.records, d.Accepted := by
  obtain ⟨f, _, _, sound⟩ := sound_parse success
  exact fun d member => (sound.records d member).2.2.accepted

end DnsBalancer
