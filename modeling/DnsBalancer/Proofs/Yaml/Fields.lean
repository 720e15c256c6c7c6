import DnsBalancer.Yaml.Fields
import Mathlib.Data.List.Perm.Basic

/-!
# Fields in any order

A mapping whose entries stand in another order gives the same fields: none of the known ones is
there twice, so that looking one up finds the same value. What is taken out of a mapping by its
fields depends on nothing but the values under the known names.
-/
namespace DnsBalancer.Yaml.Value

variable {es fs : List (Value × Value)} {as bs : List (String × Value)} {name : String}

theorem lookup_eq_head? (name : String) (as : List (String × Value)) :
    as.lookup name = ((as.filter (·.1 == name)).head?).map (·.2) := by
  induction as with
  | nil => rfl
  | cons e as ih =>
    obtain ⟨n, v⟩ := e
    by_cases own : n = name
    · subst own
      simp
    · have other : (name == n) = false := beq_false_of_ne (Ne.symm own)
      rw [List.lookup_cons, other, ih, List.filter_cons_of_neg (by simpa using own)]

/-- A name that is there once at most is found in any order. -/
theorem lookup_of_perm (perm : as.Perm bs) (once : (as.filter (·.1 == name)).length ≤ 1) :
    as.lookup name = bs.lookup name := by
  have same := perm.filter (·.1 == name)
  rw [lookup_eq_head?, lookup_eq_head?]
  rcases Nat.le_one_iff_eq_zero_or_eq_one.mp once with none | one
  · rw [List.length_eq_zero_iff.mp none] at same ⊢
    rw [same.nil_eq]
  · obtain ⟨e, single⟩ := List.length_eq_one_iff.mp one
    rw [single] at same ⊢
    rw [List.perm_singleton.mp same.symm]

/-- Whatever is read of each, the results stand in the order of what they were read of. -/
theorem rel_mapM_of_perm {α β : Type} {f : α → Option β} {xs ys : List α} (perm : xs.Perm ys) :
    Option.Rel List.Perm (xs.mapM f) (ys.mapM f) := by
  induction perm with
  | nil => exact .some .nil
  | @cons x xs ys _ ih =>
    rw [List.mapM_cons, List.mapM_cons]
    generalize xs.mapM f = as, ys.mapM f = bs at ih ⊢
    cases f x with
    | none => exact .none
    | some a =>
      cases ih with
      | none => exact .none
      | some same => exact .some (same.cons a)
  | swap x y rest =>
    simp only [List.mapM_cons]
    cases f x with
    | none => cases f y <;> exact .none
    | some a =>
      cases f y with
      | none => exact .none
      | some b =>
        cases rest.mapM f with
        | none => exact .none
        | some rest => exact .some (.swap a b rest)
  | @trans xs ys zs _ _ ih₁ ih₂ =>
    generalize xs.mapM f = as, ys.mapM f = bs, zs.mapM f = cs at ih₁ ih₂ ⊢
    cases ih₁ with
    | none => exact ih₂
    | some first =>
      cases ih₂ with
      | some second => exact .some (first.trans second)

theorem entries?_of_perm (perm : es.Perm fs) :
    Option.Rel List.Perm (mapping es).entries? (mapping fs).entries? := rel_mapM_of_perm perm

/-- The known fields are the same in any order. -/
theorem fields?_of_perm (perm : es.Perm fs) (known : List String) :
    Option.Rel (fun as bs => ∀ name ∈ known, as.lookup name = bs.lookup name)
      ((mapping es).fields? known) ((mapping fs).fields? known) := by
  rw [fields?, fields?]
  have entries := entries?_of_perm perm
  cases first : (mapping es).entries? with
  | none =>
    rw [first] at entries
    cases second : (mapping fs).entries? with
    | none => exact .none
    | some bs =>
      rw [second] at entries
      cases entries
  | some as =>
    rw [first] at entries
    cases second : (mapping fs).entries? with
    | none =>
      rw [second] at entries
      cases entries
    | some bs =>
      rw [second] at entries
      obtain ⟨same⟩ := entries
      have counts (name : String) : (as.filter (·.1 == name)).length =
          (bs.filter (·.1 == name)).length := (same.filter _).length_eq
      simp only [Option.filter_some, counts]
      split
      · rename_i once
        refine .some fun name field => lookup_of_perm same ?_
        rw [counts]
        exact of_decide_eq_true (List.all_eq_true.mp once name field)
      · exact .none

/-- Another value under one name leaves the fields under the others as they are. -/
theorem fields?_of_replaced (known : List String) (name : String)
    (before after : List (Value × Value)) (v w : Value) :
    Option.Rel (fun as bs => (name ∈ known → as.lookup name = some v ∧ bs.lookup name = some w) ∧
        ∀ other, other ≠ name → as.lookup other = bs.lookup other)
      ((mapping (before ++ (.string name, v) :: after)).fields? known)
      ((mapping (before ++ (.string name, w) :: after)).fields? known) := by
  have own : text? (.string name) = some name := rfl
  simp only [fields?, entries?, untagged, List.mapM_append, List.mapM_cons, own]
  generalize List.mapM (m := Option) _ before = as, List.mapM (m := Option) _ after = bs
  cases as with
  | none => exact .none
  | some as =>
    cases bs with
    | none => exact .none
    | some bs =>
      simp only [Option.map_some, Option.bind_eq_bind, Option.bind_some, Option.pure_def]
      have counts (other : String) (u : Value) :
          ((as ++ (name, u) :: bs).filter (·.1 == other)).length =
            ((as ++ bs).filter (·.1 == other)).length + if name == other then 1 else 0 := by
        rw [List.filter_append, List.filter_append, List.filter_cons]
        split <;> simp +arith
      simp only [Option.filter_some, counts]
      split
      · rename_i once
        refine .some ⟨fun field => ?_, fun other different => ?_⟩
        · -- A known name stands there once, and so nowhere before.
          have single := of_decide_eq_true (List.all_eq_true.mp once name field)
          rw [beq_self_eq_true, if_pos rfl, List.filter_append, List.length_append] at single
          have nowhere : as.filter (·.1 == name) = [] := List.length_eq_zero_iff.mp (by omega)
          have first : as.lookup name = none := by
            rw [lookup_eq_head?, nowhere]
            rfl
          simp [List.lookup_append, first]
        · simp [List.lookup_append, List.lookup_cons, beq_false_of_ne different]
      · exact .none

end DnsBalancer.Yaml.Value
