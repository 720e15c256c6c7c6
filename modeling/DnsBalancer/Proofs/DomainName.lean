import DnsBalancer.DomainName
import Mathlib.Data.List.DropRight

/-!
# Names in normal form

Normalizing a name a second time changes nothing: what is left of it begins with no blank and
ends in one dot, and folding letters touches neither blanks nor dots.
-/
namespace DnsBalancer

namespace Text

theorem toNat_toLower (c : Char) : c.toLower.toNat =
    if 65 ≤ c.toNat ∧ c.toNat ≤ 90 then c.toNat + 32 else c.toNat := by
  unfold Char.toLower
  split
  · rename_i upper
    have low : 65 ≤ c.toNat := upper.1
    have high : c.toNat ≤ 90 := upper.2
    rw [if_pos ⟨low, high⟩]
    have step : ('a'.val - 'A'.val).toNat = 32 := rfl
    simp only [Char.toNat, UInt32.toNat_add, step] at high ⊢
    omega
  · rename_i other
    exact (if_neg other).symm

theorem isBlank_toLower (c : Char) : isBlank c.toLower = isBlank c := by
  rw [Bool.eq_iff_iff]
  simp only [isBlank, toNat_toLower, Bool.or_eq_true, Bool.and_eq_true, decide_eq_true_eq,
    beq_iff_eq]
  split <;> omega

theorem toLower_eq_dot (c : Char) : c.toLower = '.' ↔ c = '.' := by
  rw [← Char.toNat_inj, ← Char.toNat_inj, toNat_toLower]
  have dot : '.'.toNat = 46 := rfl
  split <;> omega

theorem dropEndWhile_eq (p : Char → Bool) (s : List Char) : dropEndWhile p s = s.rdropWhile p :=
  rfl

theorem head?_dropEndWhile {p : Char → Bool} {s : List Char} {c : Char}
    (first : (dropEndWhile p s).head? = some c) : s.head? = some c := by
  obtain ⟨rest, split⟩ := List.rdropWhile_prefix p s
  rw [← split, List.head?_append, ← dropEndWhile_eq, first]
  rfl

theorem head?_trimBlank {s : List Char} {c : Char} (first : (trimBlank s).head? = some c) :
    isBlank c = false := by
  have kept := List.head?_dropWhile_not isBlank s
  rwa [head?_dropEndWhile first] at kept

theorem dropEndWhile_map_toLower (s : List Char) :
    dropEndWhile (· == '.') (s.map Char.toLower) =
      (dropEndWhile (· == '.') s).map Char.toLower := by
  have folded : (· == '.') ∘ Char.toLower = (· == '.') := by
    funext c
    rw [Function.comp_apply, Bool.eq_iff_iff, beq_iff_eq, beq_iff_eq, toLower_eq_dot]
  rw [dropEndWhile, ← List.map_reverse, List.dropWhile_map, folded, ← List.map_reverse]
  rfl

/-- Text that neither begins nor ends in a blank is trimmed already. -/
theorem trimBlank_concat {s : List Char} {c : Char}
    (first : ∀ d, s.head? = some d → isBlank d = false) (last : isBlank c = false) :
    trimBlank (s ++ [c]) = s ++ [c] := by
  have front : (s ++ [c]).dropWhile isBlank = s ++ [c] := by
    cases s with
    | nil => simp [last]
    | cons d s => simp [first d rfl]
  rw [trimBlank, front, dropEndWhile_eq, List.rdropWhile_concat_neg _ _ _ (by simp [last])]

end Text

namespace DomainName

open Text

/-- What is left of a name before its letters are folded. -/
def core (name : List Char) : List Char := dropEndWhile (· == '.') (trimBlank name)

theorem normalizeChars_eq (name : List Char) :
    normalizeChars name = (core name).map Char.toLower ++ ['.'] := rfl

theorem core_normalizeChars (name : List Char) :
    core (normalizeChars name) = (core name).map Char.toLower := by
  have trimmed : trimBlank (normalizeChars name) = normalizeChars name := by
    refine trimBlank_concat (fun c first => ?_) (by decide)
    rw [List.head?_map] at first
    obtain ⟨d, kept, rfl⟩ := Option.map_eq_some_iff.mp first
    rw [isBlank_toLower]
    exact head?_trimBlank (head?_dropEndWhile kept)
  rw [core, trimmed, normalizeChars_eq, dropEndWhile_eq,
    List.rdropWhile_concat_pos _ _ _ (by decide), ← dropEndWhile_eq, dropEndWhile_map_toLower]
  exact congrArg _ (List.rdropWhile_idempotent _ _)

theorem normalizeChars_normalizeChars (name : List Char) :
    normalizeChars (normalizeChars name) = normalizeChars name := by
  have folded : Char.toLower ∘ Char.toLower = Char.toLower := by
    funext c
    rw [Function.comp_apply, ← Char.toNat_inj, toNat_toLower, toNat_toLower]
    split
    · rw [if_neg (by omega)]
    · rfl
  rw [normalizeChars_eq, core_normalizeChars, normalizeChars_eq, List.map_map, folded]

/-- The name is in the form that all names of definitions are brought into. -/
def Normal (name : String) : Prop := normalize name = name

instance (name : String) : Decidable (Normal name) :=
  inferInstanceAs (Decidable (normalize name = name))

theorem normal_normalize (name : String) : Normal (normalize name) := by
  rw [Normal, normalize, normalize, String.toList_ofList, normalizeChars_normalizeChars]

theorem getLast?_of_normal {name : String} (normal : Normal name) :
    name.toList.getLast? = some '.' := by
  rw [← normal, normalize, String.toList_ofList, normalizeChars, List.getLast?_concat]

end DomainName

end DnsBalancer
