import Mathlib.Data.List.Forall2

/-!
# Runs that may fail

What a success and what a failure of a sequence of steps say of the single steps.
-/
namespace DnsBalancer

theorem bind_success {ε α β : Type} {step : Except ε α} {next : α → Except ε β} {value : β}
    (success : (step >>= next) = .ok value) : ∃ x, step = .ok x ∧ next x = .ok value := by
  cases step with
  | error e => cases success
  | ok x => exact ⟨x, rfl, success⟩

/-- A value that was made of a result says that there is one. -/
theorem exists_of_toOption_map {ε α β : Type} {result : Except ε α} {f : α → β} {b : β}
    (made : result.toOption.map f = some b) : ∃ a, result = .ok a ∧ f a = b := by
  cases result with
  | error e => cases made
  | ok a => exact ⟨a, rfl, Option.some.inj made⟩

/-- What is in the second list is there for something in the first. -/
theorem exists_of_forall₂ {α β : Type} {R : α → β → Prop} {as : List α} {bs : List β}
    (related : List.Forall₂ R as bs) {b : β} (member : b ∈ bs) : ∃ a ∈ as, R a b := by
  induction related with
  | nil => cases member
  | cons first _ ih =>
    rcases List.mem_cons.mp member with rfl | later
    · exact ⟨_, List.mem_cons_self, first⟩
    · obtain ⟨a, there, relation⟩ := ih later
      exact ⟨a, List.mem_cons_of_mem _ there, relation⟩

variable {ε α β : Type} {step : α → Except ε β} {as : List α}

theorem mapM_eq_ok_iff {bs : List β} :
    as.mapM step = .ok bs ↔ List.Forall₂ (fun a b => step a = .ok b) as bs := by
  induction as generalizing bs with
  | nil =>
    constructor
    · intro success
      cases success
      exact .nil
    · intro each
      cases each
      rfl
  | cons a as ih =>
    rw [List.mapM_cons]
    constructor
    · intro success
      obtain ⟨b, first, success⟩ := bind_success success
      obtain ⟨rest, later, success⟩ := bind_success success
      cases success
      exact .cons first (ih.mp later)
    · intro each
      cases each with
      | cons first later =>
        rw [first, ih.mpr later]
        rfl

/-- A run stops at the first element with a fault. -/
theorem mapM_eq_findSome? {fault? : α → Option ε} {result : α → β} (as : List α)
    (each : ∀ a ∈ as, step a = (fault? a).elim (.ok (result a)) .error) :
    as.mapM step = (as.findSome? fault?).elim (.ok (as.map result)) .error := by
  induction as with
  | nil => rfl
  | cons a as ih =>
    obtain ⟨first, rest⟩ := List.forall_mem_cons.mp each
    rw [List.mapM_cons, first, List.findSome?_cons]
    cases fault? a with
    | some e => rfl
    | none =>
      rw [ih rest]
      cases as.findSome? fault? <;> rfl

theorem mapM_eq_error_iff {e : ε} : as.mapM step = .error e ↔
    ∃ before a after, as = before ++ a :: after ∧
      (∀ x ∈ before, ∃ b, step x = .ok b) ∧ step a = .error e := by
  induction as with
  | nil =>
    constructor
    · intro failure
      cases failure
    · rintro ⟨before, a, after, split, _⟩
      simp at split
  | cons a as ih =>
    rw [List.mapM_cons]
    cases first : step a with
    | error fault =>
      constructor
      · intro failure
        cases failure
        exact ⟨[], a, as, rfl, by simp, first⟩
      · rintro ⟨before, x, after, split, sound, failure⟩
        cases before with
        | nil =>
          obtain ⟨rfl, _⟩ := List.cons.inj split
          rw [first] at failure
          exact congrArg Except.error (Except.error.inj failure)
        | cons y before =>
          obtain ⟨rfl, _⟩ := List.cons.inj split
          obtain ⟨b, success⟩ := sound a List.mem_cons_self
          rw [first] at success
          cases success
    | ok b =>
      have later : (do let bs ← as.mapM step; return b :: bs) = .error e ↔
          as.mapM step = .error e := by
        cases as.mapM step <;> simp [bind, Except.bind, pure, Except.pure]
      refine later.trans (ih.trans ⟨?_, ?_⟩)
      · rintro ⟨before, x, after, rfl, sound, failure⟩
        exact ⟨a :: before, x, after, rfl, List.forall_mem_cons.mpr ⟨⟨b, first⟩, sound⟩, failure⟩
      · rintro ⟨before, x, after, split, sound, failure⟩
        cases before with
        | nil =>
          obtain ⟨rfl, _⟩ := List.cons.inj split
          rw [first] at failure
          cases failure
        | cons y before =>
          obtain ⟨rfl, rest⟩ := List.cons.inj split
          exact ⟨before, x, after, rest, (List.forall_mem_cons.mp sound).2, failure⟩

end DnsBalancer
