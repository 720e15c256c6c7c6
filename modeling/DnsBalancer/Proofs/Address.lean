import DnsBalancer.Address
import Mathlib.Data.List.Nodup

/-!
# Forms of an address

An IPv4 address is written as itself or as the IPv6 address that embeds it, and either form stands
for it. Any other IPv6 address stands for itself alone. Among addresses that are written once each,
an endpoint therefore comes twice just when it is an IPv4 address in both its forms.
-/
namespace DnsBalancer.Address

variable {a b : Address} {x : BitVec 32} {y : BitVec 128}

theorem canonical_of_embedded (embeds : embedded? y = some x) :
    (v6 y).canonical = .v4 x := by
  rw [canonical, embeds]

theorem canonical_of_plain (plain : embedded? y = none) : (v6 y).canonical = .v6 y := by
  rw [canonical, plain]

/-- No address is asked about that embeds another. -/
theorem embedded?_of_canonical (asked : a.canonical = .v6 y) : embedded? y = none := by
  cases a with
  | v4 a => cases asked
  | v6 a =>
    cases embeds : embedded? a with
    | some inner =>
      rw [canonical_of_embedded embeds] at asked
      cases asked
    | none =>
      rw [canonical_of_plain embeds] at asked
      cases asked
      exact embeds

/-! ### Both forms of an IPv4 address -/

/-- The IPv6 address that embeds an IPv4 one. -/
def mapped (x : BitVec 32) : Address := .v6 (0xffff#96 ++ x)

theorem embedded?_eq_some_iff : embedded? y = some x ↔ y = (0xffff#96 ++ x : BitVec 128) := by
  have joined : (0xffff#96 ++ x : BitVec 128).toNat = 0xffff * 2 ^ 32 + x.toNat := by
    rw [BitVec.toNat_append, ← Nat.shiftLeft_add_eq_or_of_lt x.isLt, Nat.shiftLeft_eq]
    rfl
  have width : Nat.pow 2 32 = 2 ^ 32 := rfl
  have bound := x.isLt
  rw [embedded?, width]
  constructor
  · intro embeds
    split at embeds
    · rename_i front
      have back : x.toNat = y.toNat % 2 ^ 32 := by
        rw [← Option.some.inj embeds, BitVec.truncate_eq_setWidth, BitVec.toNat_setWidth]
      apply BitVec.eq_of_toNat_eq
      omega
    · cases embeds
  · rintro rfl
    rw [joined, if_pos (by omega), Option.some_inj]
    apply BitVec.eq_of_toNat_eq
    rw [BitVec.truncate_eq_setWidth, BitVec.toNat_setWidth, joined]
    omega

@[simp] theorem canonical_v4 (x : BitVec 32) : (v4 x).canonical = .v4 x := rfl

@[simp] theorem canonical_mapped (x : BitVec 32) : (mapped x).canonical = .v4 x :=
  canonical_of_embedded (embedded?_eq_some_iff.mpr rfl)

theorem v4_ne_mapped (x : BitVec 32) : v4 x ≠ mapped x := fun same => nomatch same

/-- Two forms stand for an IPv4 address. -/
theorem canonical_eq_v4_iff : a.canonical = .v4 x ↔ a = .v4 x ∨ a = mapped x := by
  constructor
  · intro stands
    cases a with
    | v4 inner => exact Or.inl stands
    | v6 bits =>
      cases embeds : embedded? bits with
      | some inner =>
        rw [canonical_of_embedded embeds] at stands
        cases stands
        exact Or.inr (congrArg v6 (embedded?_eq_some_iff.mp embeds))
      | none =>
        rw [canonical_of_plain embeds] at stands
        cases stands
  · rintro (rfl | rfl)
    · exact canonical_v4 x
    · exact canonical_mapped x

/-- Any other address stands for itself alone. -/
theorem eq_of_canonical_v6 (stands : a.canonical = .v6 y) : a = .v6 y := by
  cases a with
  | v4 inner => cases stands
  | v6 bits =>
    cases embeds : embedded? bits with
    | some inner =>
      rw [canonical_of_embedded embeds] at stands
      cases stands
    | none => rwa [canonical_of_plain embeds] at stands

/-! ### Endpoints of a list of addresses -/

/-- The endpoint is there in two forms. -/
def Twofold (as : List Address) : Address → Prop
  | .v4 x => .v4 x ∈ as ∧ mapped x ∈ as
  | .v6 _ => False

instance (as : List Address) : (e : Address) → Decidable (Twofold as e)
  | .v4 x => inferInstanceAs (Decidable (.v4 x ∈ as ∧ mapped x ∈ as))
  | .v6 _ => inferInstanceAs (Decidable False)

variable {as bs : List Address} {e : Address}

theorem Twofold.mono (twofold : Twofold as e) (inside : as ⊆ bs) : Twofold bs e := by
  cases e with
  | v4 x => exact ⟨inside twofold.1, inside twofold.2⟩
  | v6 y => exact twofold

/-- How often an IPv4 address comes, in the one form or in the other. -/
theorem count_canonical_v4 (as : List Address) (x : BitVec 32) :
    (as.map canonical).count (.v4 x) = as.count (.v4 x) + as.count (mapped x) := by
  induction as with
  | nil => rfl
  | cons a as ih =>
    rw [List.map_cons, List.count_cons, List.count_cons, List.count_cons, ih]
    by_cases plain : a = .v4 x
    · subst plain
      simp [v4_ne_mapped]
      omega
    · by_cases embedding : a = mapped x
      · subst embedding
        simp [plain]
        omega
      · have other : a.canonical ≠ .v4 x := fun stands =>
          (canonical_eq_v4_iff.mp stands).elim plain embedding
        simp [plain, embedding, other]

/-- Addresses that are written once each name an IPv4 address in both its forms twice, and every
other endpoint once. -/
theorem count_canonical (distinct : as.Nodup) (e : Address) : (as.map canonical).count e =
    if Twofold as e then 2 else if e ∈ as.map canonical then 1 else 0 := by
  cases e with
  | v4 x =>
    have present : .v4 x ∈ as.map canonical ↔ .v4 x ∈ as ∨ mapped x ∈ as := by
      simp only [List.mem_map, canonical_eq_v4_iff, and_or_left, exists_or, exists_eq_right]
    rw [count_canonical_v4, distinct.count, distinct.count]
    by_cases plain : .v4 x ∈ as <;> by_cases embedding : mapped x ∈ as <;>
      simp [Twofold, present, plain, embedding]
  | v6 y =>
    have once : (as.map canonical).count (.v6 y) ≤ 1 := by
      rw [List.count, List.countP_map]
      calc as.countP ((· == .v6 y) ∘ canonical) ≤ as.count (.v6 y) :=
            List.countP_mono_left fun a _ stands =>
              beq_iff_eq.mpr (eq_of_canonical_v6 (beq_iff_eq.mp stands))
        _ ≤ 1 := List.nodup_iff_count_le_one.mp distinct _
    have plain : ¬ Twofold as (.v6 y) := fun twofold => twofold
    rw [if_neg plain]
    split
    · rename_i present
      exact Nat.le_antisymm once (List.count_pos_iff.mpr present)
    · rename_i absent
      exact List.count_eq_zero.mpr absent

/-- No endpoint comes twice just when none comes in two forms. -/
theorem nodup_canonical_iff (distinct : as.Nodup) :
    (as.map canonical).Nodup ↔ ∀ e, ¬ Twofold as e := by
  rw [List.nodup_iff_count_le_one]
  refine forall_congr' fun e => ?_
  rw [count_canonical distinct]
  split
  · rename_i twofold
    simp [twofold]
  · rename_i once
    simp only [once, not_false_eq_true, iff_true]
    split <;> omega

end DnsBalancer.Address
