import DnsBalancer.Address.Text
import DnsBalancer.Metrics.Series
import DnsBalancer.Proofs.DomainName
import DnsBalancer.Proofs.Text.Decimal
import Mathlib.Data.List.Basic

/-!
# Rows of a name and an address

What a row is known by has to tell a name in normal form and an address apart from others. Any
key does that of which rows of different values are different, and so do the values written in one
piece: a name in normal form ends in a dot, and no address goes on after one of its dots with what
is an address again, so that the piece tells where the name ends.
-/
namespace DnsBalancer

namespace Text.Decimal

theorem digits_ne {n : Nat} : ∀ c ∈ digits n, c ≠ '.' ∧ c ≠ ':' := by
  intro c member
  have digit := isDigit_of_mem_digits member
  constructor <;> rintro rfl <;> cases digit

end Text.Decimal

namespace Address

open Text

theorem hexDigit_ne : ∀ n < 16, hexDigit n ≠ '.' := by decide

theorem groupChars_ne {g : Nat} : '.' ∉ groupChars g := by
  induction g using groupChars.induct with
  | case1 g small =>
    rw [groupChars, if_pos small, List.mem_singleton]
    exact (hexDigit_ne g small).symm
  | case2 g large ih =>
    rw [groupChars, if_neg large, List.mem_append, List.mem_singleton]
    rintro (front | last)
    · exact ih front
    · exact hexDigit_ne _ (Nat.mod_lt g (by decide)) last.symm

theorem joinGroups_ne {gs : List Nat} : '.' ∉ joinGroups gs := by
  induction gs with
  | nil => simp [joinGroups]
  | cons g gs ih =>
    cases gs with
    | nil => simpa [joinGroups] using groupChars_ne
    | cons h gs => simpa [joinGroups, List.intercalate, @groupChars_ne g] using ih

theorem mem_joinGroups (g h : Nat) (gs : List Nat) : ':' ∈ joinGroups (g :: h :: gs) := by
  simp [joinGroups, List.intercalate]

/-- The text is that of an address, and behind none of its dots is there such a text. -/
structure Undivided (s : List Char) : Prop where
  whole : s.count '.' = 3 ∨ ':' ∈ s
  rest : ∀ front back, s = front ++ '.' :: back → back.count '.' < 3 ∧ ':' ∉ back

theorem undivided_of_dotless {s : List Char} (colon : ':' ∈ s) (dotless : '.' ∉ s) :
    Undivided s where
  whole := Or.inr colon
  rest := by
    rintro front back rfl
    simp at dotless

theorem undivided_of_dotted {s : List Char} (dots : s.count '.' = 3) (plain : ':' ∉ s) :
    Undivided s where
  whole := Or.inl dots
  rest := by
    rintro front back rfl
    refine ⟨?_, fun colon => plain (by simp [colon])⟩
    rw [List.count_append, List.count_cons_self] at dots
    omega

theorem undivided_append {front s : List Char} (dotless : '.' ∉ front)
    (undivided : Undivided s) : Undivided (front ++ s) where
  whole := by
    rw [List.count_append, List.count_eq_zero.mpr dotless, Nat.zero_add, List.mem_append]
    exact undivided.whole.imp_right Or.inr
  rest := by
    intro first back split
    rcases List.append_eq_append_iff.mp split with ⟨m, _, later⟩ | ⟨m, rfl, later⟩
    · exact undivided.rest m back later
    · -- The dot is not one of `front`.
      cases m with
      | nil => exact undivided.rest [] back later.symm
      | cons c cs =>
        obtain rfl := (List.cons.inj later).1
        simp at dotless

theorem octetOf_ne {n i : Nat} : ∀ c ∈ octetOf n i, c ≠ '.' ∧ c ≠ ':' := Decimal.digits_ne

theorem count_dottedChars (n : Nat) : (dottedChars n).count '.' = 3 := by
  have none (i : Nat) : (octetOf n i).count '.' = 0 :=
    List.count_eq_zero.mpr fun member => (octetOf_ne '.' member).1 rfl
  simp [dottedChars, none]

theorem dottedChars_ne (n : Nat) : ':' ∉ dottedChars n := by
  have none (i : Nat) : ':' ∉ octetOf n i := fun member => (octetOf_ne ':' member).2 rfl
  simp [dottedChars, none]

theorem undivided_dottedChars (n : Nat) : Undivided (dottedChars n) :=
  undivided_of_dotted (count_dottedChars n) (dottedChars_ne n)

theorem undivided_toChars (a : Address) : Undivided a.toChars := by
  unfold toChars
  split
  · exact undivided_dottedChars _
  · split
    · exact undivided_append (by decide) (undivided_dottedChars _)
    · dsimp only
      split
      · exact undivided_of_dotless (by simp) (by simp [joinGroups_ne])
      · exact undivided_of_dotless (mem_joinGroups _ _ _) joinGroups_ne

end Address

theorem eq_of_undivided {n₁ n₂ s₁ s₂ : List Char} (dot₁ : n₁.getLast? = some '.')
    (dot₂ : n₂.getLast? = some '.') (first : Address.Undivided s₁)
    (second : Address.Undivided s₂) (same : n₁ ++ s₁ = n₂ ++ s₂) : n₁ = n₂ := by
  have shorter {n m s t : List Char} (whole : Address.Undivided s) (other : Address.Undivided t)
      (dot : (n ++ m).getLast? = some '.') (split : s = m ++ t) : m = [] := by
    rcases List.eq_nil_or_concat m with rfl | ⟨front, c, rfl⟩
    · rfl
    · rw [List.concat_eq_append] at dot split
      rw [← List.append_assoc, List.getLast?_concat, Option.some.injEq] at dot
      subst dot
      rw [List.append_assoc, List.singleton_append] at split
      obtain ⟨few, plain⟩ := whole.rest front t split
      rcases other.whole with three | colon
      · omega
      · exact absurd colon plain
  rcases List.append_eq_append_iff.mp same with ⟨m, rfl, split⟩ | ⟨m, rfl, split⟩
  · rw [shorter first second dot₂ split, List.append_nil]
  · rw [shorter second first dot₁ split, List.append_nil]

open DomainName (Normal)

namespace RowKey

/-- A family, whose rows have all the same number of values, has one row for each of them. -/
def Faithful (key : RowKey) : Prop :=
  ∀ labels other : List String, labels.length = other.length → key labels = key other →
    labels = other

/-- Rows of names in normal form and addresses are those of one name and one address. -/
def TellsBackends (key : RowKey) : Prop :=
  ∀ (name other : String) (a b : Address), Normal name → Normal other →
    key [name, a.render] = key [other, b.render] → [name, a.render] = [other, b.render]

theorem faithful_id : Faithful id := fun _ _ _ same => same

theorem Faithful.tellsBackends {key : RowKey} (faithful : key.Faithful) : key.TellsBackends :=
  fun _ _ _ _ _ _ same => faithful _ _ rfl same

theorem tellsBackends_joined : TellsBackends joined := by
  intro name other a b first second same
  have chars : name.toList ++ a.toChars = other.toList ++ b.toChars := by
    have text := congrArg String.toList (List.cons.inj same).1
    simpa [String.join, Address.render] using text
  have names := eq_of_undivided (DomainName.getLast?_of_normal first)
    (DomainName.getLast?_of_normal second) a.undivided_toChars b.undivided_toChars chars
  have addresses : a.toChars = b.toChars := List.append_cancel_left (names ▸ chars)
  rw [String.toList_inj.mp names, Address.render, Address.render, addresses]

end RowKey

namespace Series

/-- Rows are those of an address under a name in normal form, and they are told apart. -/
structure Named (s : Series Bool) : Prop where
  tells : s.key.TellsBackends
  rows : ∀ e ∈ s.rows, ∃ name a, Normal name ∧ e.1 = [name, Address.render a]

variable {s : Series Bool} {name : String} {a : Address} {alive : Bool}

theorem named_insert (named : s.Named) (normal : Normal name) :
    (s.insert [name, a.render] alive).Named where
  tells := named.tells
  rows := by
    rintro ⟨labels, v⟩ member
    rcases mem_place s.distinct member with ⟨_, _, rfl | ⟨w, before⟩⟩ | ⟨_, before⟩
    · exact ⟨name, a, normal, rfl⟩
    · exact named.rows (labels, w) before
    · exact named.rows (labels, v) before

/-- What is told under the labels of a row that was written, and what under others. -/
theorem mem_insert (named : s.Named) (normal : Normal name) {labels : List String} {v : Bool}
    (member : (labels, v) ∈ (s.insert [name, a.render] alive).rows) :
    labels = [name, a.render] ∧ v = alive ∨
      labels ≠ [name, a.render] ∧ (labels, v) ∈ s.rows := by
  obtain ⟨other, b, own, rfl⟩ := (named_insert named normal).rows _ member
  rcases mem_place s.distinct member with ⟨same, told, _⟩ | ⟨different, before⟩
  · exact Or.inl ⟨named.tells _ _ _ _ own normal same, told⟩
  · exact Or.inr ⟨fun equal => different (congrArg s.key equal), before⟩

end Series

end DnsBalancer
