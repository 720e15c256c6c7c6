import DnsBalancer.Balancer.Queries
import DnsBalancer.Proofs.DomainName
import DnsBalancer.Proofs.Selection.Eligible

/-!
# What a query is answered with

Whether an answer is healthy depends on the backends alone and not on the mode: it is as
soon as one backend of the family is enabled and alive. Otherwise all enabled backends of
the family are given, in the order of configuration.
-/
namespace DnsBalancer

/-- A backend that is given for the family when none is eligible. -/
def Backend.Listed (b : Backend) (family : Family) : Prop :=
  b.enabled = true ∧ b.address.family = family

/-- An answer as the backends of the record demand it. -/
structure Record.Answered (r : Record) (family : Family) (answer : Except SelectionError Answer) :
    Prop where
  healthy : (∃ b ∈ r.backends, b.Eligible family) → ∃ addresses,
    answer = .ok ⟨addresses, r.settings.ttl, true⟩ ∧ addresses ≠ [] ∧ addresses.Nodup ∧
      ∀ a ∈ addresses, ∃ b ∈ r.backends, b.address = a ∧ b.Eligible family
  fallback : (∀ b ∈ r.backends, ¬ b.Eligible family) → (∃ b ∈ r.backends, b.Listed family) →
    answer = .ok ⟨(r.backends.filter fun b => b.enabled && b.address.family == family).map
      (·.address), r.settings.ttl, false⟩
  nothing : (∀ b ∈ r.backends, ¬ b.Listed family) → answer = .error (.noBackends r.fqdn family)

/-- The record stands under its own name, which is in normal form, with one backend for an
address, and no response time was ever measured to be the longest there is. -/
structure Record.Regular (fqdn : String) (r : Record) : Prop where
  name : r.fqdn = fqdn
  normal : DomainName.normalize fqdn = fqdn
  distinct : (r.backends.map (·.address)).Nodup
  measured : ∀ b ∈ r.backends, b.health.responseTime < .longest

instance (fqdn : String) (r : Record) : Decidable (r.Regular fqdn) :=
  decidable_of_iff (r.fqdn = fqdn ∧ DomainName.normalize fqdn = fqdn ∧
      (r.backends.map (·.address)).Nodup ∧ ∀ b ∈ r.backends, b.health.responseTime < .longest)
    ⟨fun ⟨name, normal, distinct, measured⟩ => ⟨name, normal, distinct, measured⟩,
      fun ⟨name, normal, distinct, measured⟩ => ⟨name, normal, distinct, measured⟩⟩

/-- Every record of every zone is regular. -/
def Zones.Regular (m : Zones) : Prop := ∀ z ∈ m.entries, ∀ e ∈ z.2.entries, e.2.Regular e.1

instance (m : Zones) : Decidable m.Regular :=
  inferInstanceAs (Decidable (∀ z ∈ m.entries, ∀ e ∈ z.2.entries, e.2.Regular e.1))

theorem Zones.regular_of_record? {m : Zones} (regular : m.Regular) {zone fqdn : String}
    {r : Record} (present : m.record? zone fqdn = some r) : r.Regular fqdn := by
  rw [record?, recordsOf] at present
  cases held : NameMap.find? m zone with
  | none =>
    rw [held] at present
    cases present
  | some rs =>
    rw [held] at present
    exact regular _ (NameMap.mem_entries_iff.mpr held) _ (NameMap.mem_entries_iff.mpr present)

namespace Record

variable (r : Record) (family : Family)

theorem allAddresses_eq : r.allAddresses family =
    let found := (r.backends.filter fun b => b.enabled && b.address.family == family).map
      (·.address)
    if found.isEmpty then .error (.noBackends r.fqdn family) else .ok found := by
  simp only [allAddresses, candidates, List.filter_map, List.map_map]
  rfl

/-- What the policy chooses, or else all addresses. -/
def answer (chosen : Except SelectionError (List Address)) : Except SelectionError Answer :=
  match chosen with
  | .ok addresses => .ok ⟨addresses, r.settings.ttl, true⟩
  | .error _ =>
    (r.allAddresses family).map fun addresses => ⟨addresses, r.settings.ttl, false⟩

theorem answered_answer {client : Address} {geo : GeoSources} {locations : LocationTable}
    {chosen : Except SelectionError (List Address)}
    (answered : (r.request family client geo locations).Answered chosen) :
    r.Answered family (r.answer family chosen) := by
  have eligible := r.eligible_request family client geo locations
  have refused (unfit : ∀ b ∈ r.backends, ¬ b.Eligible family) : ∃ e, chosen = .error e := by
    apply answered.refused
    rw [eligible, (r.eligible_eq_nil_iff family).mpr unfit, List.map_nil]
  have listed : ∀ b, (b ∈ r.backends.filter fun b => b.enabled && b.address.family == family) ↔
      b ∈ r.backends ∧ b.Listed family := by
    intro b
    rw [List.mem_filter, Bool.and_eq_true, beq_iff_eq, Backend.Listed]
  refine ⟨?_, ?_, ?_⟩
  · rintro ⟨b, held, able⟩
    have kept := (r.mem_eligible_iff family).mpr ⟨held, able⟩
    have nonempty : (r.request family client geo locations).eligible ≠ [] := by
      rw [eligible]
      exact List.ne_nil_of_mem (List.mem_map_of_mem kept)
    obtain ⟨addresses, rfl, some, once, members⟩ := answered.chosen nonempty
    refine ⟨addresses, rfl, some, once, fun a member => ?_⟩
    obtain ⟨c, candidate, rfl⟩ := members a member
    rw [eligible] at candidate
    obtain ⟨x, found, rfl⟩ := List.mem_map.mp candidate
    obtain ⟨present, fit⟩ := (r.mem_eligible_iff family).mp found
    exact ⟨x, present, rfl, fit⟩
  · rintro unfit ⟨b, held, enabled⟩
    obtain ⟨e, rfl⟩ := refused unfit
    have found := (listed b).mpr ⟨held, enabled⟩
    have nonempty : ((r.backends.filter fun b => b.enabled && b.address.family == family).map
        (·.address)).isEmpty = false := by
      rw [List.isEmpty_eq_false_iff]
      exact List.ne_nil_of_mem (List.mem_map_of_mem found)
    simp only [answer, allAddresses_eq, nonempty]
    rfl
  · intro unlisted
    obtain ⟨e, rfl⟩ := refused fun b held able =>
      unlisted b held ⟨(Bool.and_eq_true_iff.mp able.1).1, able.2⟩
    have empty : (r.backends.filter fun b => b.enabled && b.address.family == family) = [] := by
      apply List.eq_nil_iff_forall_not_mem.mpr
      intro b member
      obtain ⟨held, enabled⟩ := (listed b).mp member
      exact unlisted b held enabled
    simp only [answer, allAddresses_eq, empty]
    rfl

/-- An answer of this form is healthy just when a backend is eligible. -/
theorem healthy_iff {answer : Except SelectionError Answer} (answered : r.Answered family answer) :
    (∃ a, answer = .ok a ∧ a.healthy = true) ↔ ∃ b ∈ r.backends, b.Eligible family := by
  constructor
  · rintro ⟨a, given, healthy⟩
    by_contra unfit
    have none : ∀ b ∈ r.backends, ¬ b.Eligible family := fun b held able => unfit ⟨b, held, able⟩
    by_cases listed : ∃ b ∈ r.backends, b.Listed family
    · rw [answered.fallback none listed] at given
      obtain rfl := Except.ok.inj given
      cases healthy
    · have unlisted : ∀ b ∈ r.backends, ¬ b.Listed family := fun b held able =>
        listed ⟨b, held, able⟩
      rw [answered.nothing unlisted] at given
      cases given
  · intro eligible
    obtain ⟨addresses, given, _⟩ := answered.healthy eligible
    exact ⟨_, given, rfl⟩

end Record

namespace Zones

/-- A record that is found stands in a zone under the normal form of the name. -/
theorem exists_of_findRecord {m : Zones} {order : ZoneOrder} {name : String} {r : Record}
    (found : m.findRecord order name = some r) :
    ∃ zone, m.record? zone (DomainName.normalize name) = some r := by
  obtain ⟨zone, _, present⟩ := List.exists_of_findSome?_eq_some found
  exact ⟨zone, present⟩

theorem findRecord_eq_none {m : Zones} {order : ZoneOrder} {name : String}
    (absent : ∀ zone, m.record? zone (DomainName.normalize name) = none) :
    m.findRecord order name = none := by
  cases found : m.findRecord order name with
  | none => rfl
  | some r =>
    obtain ⟨zone, present⟩ := exists_of_findRecord found
    rw [absent zone] at present
    cases present

/-- A zone that has a record is one of the zones. -/
theorem mem_names_of_record? {m : Zones} {zone fqdn : String} {r : Record}
    (present : m.record? zone fqdn = some r) : zone ∈ NameMap.names m := by
  apply NameMap.mem_names_iff.mpr
  cases there : NameMap.find? m zone with
  | none =>
    rw [record?, recordsOf, there] at present
    cases present
  | some rs => exact ⟨rs, rfl⟩

theorem exists_findRecord {m : Zones} (order : ZoneOrder) {zone name : String} {r : Record}
    (present : m.record? zone (DomainName.normalize name) = some r) :
    ∃ x, m.findRecord order name = some x := by
  cases found : m.findRecord order name with
  | some x => exact ⟨x, rfl⟩
  | none =>
    have listed := order.mem_arrange.mpr (mem_names_of_record? present)
    rw [List.findSome?_eq_none_iff.mp found zone listed] at present
    cases present

end Zones

namespace Balancer

/-- A record that stands under its own name is found again under that name. -/
theorem record_again {b : Balancer} {name : String} {r : Record}
    (found : b.findRecord name = some r) (own : r.fqdn = DomainName.normalize name) :
    DomainName.normalize r.fqdn = r.fqdn ∧ b.findRecord r.fqdn = some r := by
  have normal : DomainName.normalize r.fqdn = r.fqdn := by
    rw [own]
    exact DomainName.normal_normalize name
  refine ⟨normal, ?_⟩
  rw [findRecord, Zones.findRecord, normal, own]
  exact found

/-- The answer is the record's, and beside the count of it a query is noted and the selector
goes on. -/
theorem answer_found {b : Balancer} {name : String} {r : Record}
    (found : b.findRecord name = some r) (own : r.fqdn = DomainName.normalize name)
    (family : Family) (client : Address) (chance : Chance) :
    (b.answer name family client chance).1 =
        r.answer family (r.select family client b.geo b.locations chance).1 ∧
      (b.answer name family client chance).2.tracker = b.tracker.touch r.fqdn b.now ∧
      (b.answer name family client chance).2.zones =
        b.zones.put (r.select family client b.geo b.locations chance).2 := by
  obtain ⟨normal, again⟩ := record_again found own
  have noted : (b.noteQuery r.fqdn).record r.fqdn = .ok r := by
    rw [record, show (b.noteQuery r.fqdn).findRecord r.fqdn = some r from again]
  simp only [answer, record, found]
  rw [pick, noted]
  simp only [selectFrom, Record.answer, noteQuery, normal]
  cases (r.select family client b.geo b.locations chance).1 <;> exact ⟨rfl, rfl, rfl⟩

/-- A name without a live record is refused and nothing is touched. For any other the query
is noted and the record answers as its backends demand, whatever its mode, its cursor and
the chance. -/
theorem answer_answered (b : Balancer) (regular : b.zones.Regular) (name : String)
    (family : Family) (client : Address) (chance : Chance) :
    ((∀ zone, b.zones.record? zone (DomainName.normalize name) = none) →
      b.answer name family client chance = (.error (.recordNotFound name), b)) ∧
    ((∃ zone r, b.zones.record? zone (DomainName.normalize name) = some r) →
      ∃ zone r, b.zones.record? zone (DomainName.normalize name) = some r ∧
        r.Answered family (b.answer name family client chance).1 ∧
        ((∃ a, (b.answer name family client chance).1 = .ok a ∧ a.healthy = true) ↔
          ∃ x ∈ r.backends, x.Eligible family) ∧
        (b.answer name family client chance).2.tracker = b.tracker.touch r.fqdn b.now ∧
        ∃ selector, (b.answer name family client chance).2.zones =
          b.zones.put { r with selector }) := by
  constructor
  · intro absent
    simp only [answer, record, findRecord, Zones.findRecord_eq_none absent]
  · rintro ⟨_, _, present⟩
    obtain ⟨r, found⟩ := Zones.exists_findRecord b.order present
    obtain ⟨zone, held⟩ := Zones.exists_of_findRecord found
    have own := Zones.regular_of_record? regular held
    obtain ⟨answer, noted, zones⟩ := answer_found found own.name family client chance
    have answered := r.answered_answer family
      (r.answered_select family client b.geo b.locations chance own.distinct own.measured)
    rw [answer, noted, zones]
    exact ⟨zone, r, held, answered, r.healthy_iff family answered, rfl, _, rfl⟩

/-- A record in rotation, with a live backend and a dead one. -/
def rotating : Balancer :=
  { zones := .put {} {
      fqdn := "a.example.org."
      zone := "example.org."
      settings := { (default : RecordSettings) with mode := .roundRobin, ttl := 30 }
      selector := .ofMode .roundRobin
      backends := [
        { record := "a.example.org.", definition := { address := .v4 0x0a000001#32 } },
        { record := "a.example.org.", definition := { address := .v4 0x0a000002#32 }
          health := { alive := true } }] } }

theorem answer_answered_rotating : rotating.zones.Regular ∧
    ∃ zone r, rotating.zones.record? zone "a.example.org." = some r ∧
      r.Answered .ipv4 (rotating.answer "A.example.org" .ipv4 (.v4 0#32) default).1 := by
  have regular : rotating.zones.Regular := by decide +kernel
  have normal : DomainName.normalize "A.example.org" = "a.example.org." := by decide +kernel
  have live : (rotating.zones.record? "example.org." "a.example.org.").isSome = true := by
    decide +kernel
  obtain ⟨_, found⟩ := answer_answered rotating regular "A.example.org" .ipv4 (.v4 0#32) default
  rw [normal] at found
  obtain ⟨r, present⟩ := Option.isSome_iff_exists.mp live
  obtain ⟨zone, r, held, answered, _⟩ := found ⟨"example.org.", r, present⟩
  exact ⟨regular, zone, r, held, answered⟩

end Balancer

end DnsBalancer
