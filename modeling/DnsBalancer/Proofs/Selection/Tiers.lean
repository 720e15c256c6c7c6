import DnsBalancer.Selection.Geographic
import Mathlib.Data.List.Forall2

/-!
# The tiers of the labelled policy

What is known of the client is looked at in four tiers, one after the other. The first tier whose
key some eligible candidate bears answers with the first such candidate; what later tiers know, or
their labels, has no say in it. Without any such tier failover answers.
-/
namespace DnsBalancer

inductive Tier where
  | country
  | city
  | asn
  | location
  deriving DecidableEq, Repr

namespace Tier

/-- In the order in which they are looked at. -/
def all : List Tier := [.country, .city, .asn, .location]

/-- The tiers that are looked at before. -/
def earlier : Tier → List Tier
  | .country => []
  | .city => [.country]
  | .asn => [.country, .city]
  | .location => [.country, .city, .asn]

/-- What a candidate bears in the tier. -/
def label : Tier → Candidate → Option String
  | .country => Candidate.country
  | .city => Candidate.city
  | .asn => Candidate.asn
  | .location => Candidate.location

/-- What the tier knows of the client: the country and the city by a name that is not empty, the
autonomous system by a number other than zero, and the label of the location table. A source that
is not configured knows nothing. -/
def Known (r : Request) : Tier → String → Prop
  | .country, key => r.geo.countryOf r.client = some key ∧ key ≠ ""
  | .city, key => (∃ city, r.geo.cityOf r.client = some city ∧ city.name = some key) ∧ key ≠ ""
  | .asn, key => ∃ n, (r.geo.asnOf r.client = some n ∧ n ≠ 0) ∧ toString n = key
  | .location, key => r.locations.lookup r.client = some key

/-- The first eligible candidate that bears what the tier knows. -/
def Hits (r : Request) (t : Tier) (c : Candidate) : Prop :=
  ∃ key, t.Known r key ∧ ∃ before after, r.eligible = before ++ c :: after ∧
    t.label c = some key ∧ ∀ x ∈ before, t.label x ≠ some key

/-- No eligible candidate bears what the tier knows, if it knows anything. -/
def Misses (r : Request) (t : Tier) : Prop :=
  ∀ key, t.Known r key → ∀ c ∈ r.eligible, t.label c ≠ some key

/-- The tier is the first that has a match. -/
def Leads (r : Request) (t : Tier) (c : Candidate) : Prop :=
  t.Hits r c ∧ ∀ u ∈ t.earlier, u.Misses r

/-- Up to the tier the same is known of the clients, and the eligible candidates have the same
addresses and labels. -/
structure Agree (t : Tier) (q r : Request) : Prop where
  known : ∀ u ∈ t.earlier ++ [t], ∀ key, u.Known q key ↔ u.Known r key
  eligible : List.Forall₂
    (fun c d => c.address = d.address ∧ ∀ u ∈ t.earlier ++ [t], u.label c = u.label d)
    q.eligible r.eligible

/-- The key of the tier, as the policy looks it up. -/
def key? (r : Request) : Tier → Option String
  | .country => (r.geo.countryOf r.client).filter (!·.isEmpty)
  | .city => ((r.geo.cityOf r.client).bind (·.name)).filter (!·.isEmpty)
  | .asn => ((r.geo.asnOf r.client).filter (· != 0)).map Text.Decimal.render
  | .location => r.locations.lookup r.client

/-- What the tier answers. -/
def match? (r : Request) (t : Tier) : Option Address :=
  (t.key? r).bind fun wanted => GeoIp.firstMatch? r wanted t.label

variable {q r : Request} {t u : Tier} {c : Candidate} {key : String}

theorem Leads.mem (leads : Leads r t c) : c ∈ r.eligible := by
  obtain ⟨⟨key, _, before, after, split, _⟩, _⟩ := leads
  simp [split]

theorem key?_eq_some_iff : t.key? r = some key ↔ t.Known r key := by
  cases t with
  | country => simp [key?, Known, Option.filter_eq_some_iff]
  | city => simp [key?, Known, Option.filter_eq_some_iff, Option.bind_eq_some_iff]
  | asn =>
    simp only [key?, Known, Option.map_eq_some_iff, Option.filter_eq_some_iff, bne_iff_ne,
      Text.Decimal.render_eq_toString]
  | location => rfl

/-- The policy goes through the tiers in their order. -/
theorem match?_eq_findSome? : GeoIp.match? r = all.findSome? (match? r) := rfl

theorem match?_eq_some_iff {a : Address} :
    t.match? r = some a ↔ ∃ c, t.Hits r c ∧ c.address = a := by
  simp only [match?, Option.bind_eq_some_iff, key?_eq_some_iff, GeoIp.firstMatch?,
    Option.map_eq_some_iff, List.find?_eq_some_iff_append, beq_iff_eq, Bool.not_eq_true',
    beq_eq_false_iff_ne]
  constructor
  · rintro ⟨key, known, c, ⟨borne, before, after, split, others⟩, rfl⟩
    exact ⟨c, ⟨key, known, before, after, split, borne, others⟩, rfl⟩
  · rintro ⟨c, ⟨key, known, before, after, split, borne, others⟩, rfl⟩
    exact ⟨key, known, c, ⟨borne, before, after, split, others⟩, rfl⟩

theorem match?_eq_none_iff : t.match? r = none ↔ t.Misses r := by
  simp only [match?, Option.bind_eq_none_iff, key?_eq_some_iff, GeoIp.firstMatch?,
    Option.map_eq_none_iff, List.find?_eq_none, beq_iff_eq, Misses]

theorem exists_later (t : Tier) : ∃ later, all = t.earlier ++ t :: later := by
  cases t <;> exact ⟨_, rfl⟩

theorem earlier_of_split {before after : List Tier} (split : all = before ++ t :: after) :
    before = t.earlier := by
  obtain ⟨later, whole⟩ := t.exists_later
  have once : (before ++ t :: after).Nodup := split ▸ (by decide : all.Nodup)
  have apart := (List.nodup_cons.mp (List.perm_middle.nodup_iff.mp once)).1
  rw [List.mem_append, not_or] at apart
  exact ((List.append_cons_inj_of_notMem apart.1 apart.2).mp (split.symm.trans whole)).1

theorem match?_eq_some_iff_leads {a : Address} :
    GeoIp.match? r = some a ↔ ∃ t c, Leads r t c ∧ c.address = a := by
  rw [match?_eq_findSome?, List.findSome?_eq_some_iff]
  constructor
  · rintro ⟨before, t, after, split, matched, missed⟩
    obtain ⟨c, hits, rfl⟩ := match?_eq_some_iff.mp matched
    refine ⟨t, c, ⟨hits, fun u member => match?_eq_none_iff.mp (missed u ?_)⟩, rfl⟩
    rwa [earlier_of_split split]
  · rintro ⟨t, c, ⟨hits, missed⟩, rfl⟩
    obtain ⟨later, whole⟩ := t.exists_later
    exact ⟨t.earlier, t, later, whole, match?_eq_some_iff.mpr ⟨c, hits, rfl⟩,
      fun u member => match?_eq_none_iff.mpr (missed u member)⟩

end Tier

namespace GeoIp

end GeoIp

end DnsBalancer
