import DnsBalancer.Selection.Policies
import Mathlib.Data.Nat.Count
import Mathlib.Order.Interval.Finset.Nat

/-!
# The wheel of weights

The shares of the candidates lie on the wheel one after another, each as wide as the candidate's
weight. Every place on the wheel is in one share, so that a candidate is chosen by as many draws
as its weight says, and a draw beyond the wheel chooses nobody.
-/
namespace DnsBalancer.Weighted

/-- The place, in the row of candidates, of the one in whose share `draw` falls. -/
def stop? : List Candidate → Nat → Option Nat
  | [], _ => none
  | c :: cs, draw =>
    if draw < c.weight then some 0 else (stop? cs (draw - c.weight)).map (· + 1)

@[simp] theorem total_nil : total [] = 0 := rfl

@[simp] theorem total_cons (c : Candidate) (cs : List Candidate) :
    total (c :: cs) = c.weight + total cs := rfl

/-- What is picked is the candidate where the walk stops. -/
theorem pick?_eq (cs : List Candidate) (draw : Nat) :
    pick? cs draw = (stop? cs draw).bind fun i => cs[i]?.map (·.address) := by
  induction cs generalizing draw with
  | nil => rfl
  | cons c cs ih =>
    rw [pick?, stop?]
    split
    · rfl
    · rw [ih, Option.bind_map]
      rfl

/-- The walk goes beyond every candidate just when the draw lies beyond the wheel. -/
theorem stop?_eq_none_iff {cs : List Candidate} {draw : Nat} :
    stop? cs draw = none ↔ total cs ≤ draw := by
  induction cs generalizing draw with
  | nil => simp [stop?]
  | cons c cs ih =>
    rw [stop?, total_cons]
    split
    · rename_i inside
      simp only [reduceCtorEq, false_iff]
      omega
    · rename_i beyond
      rw [Option.map_eq_none_iff, ih]
      omega

/-- The share of a candidate starts where those before it end. -/
theorem stop?_eq_some_iff {cs : List Candidate} {i : Nat} {c : Candidate}
    (placed : cs[i]? = some c) (draw : Nat) :
    stop? cs draw = some i ↔ total (cs.take i) ≤ draw ∧ draw < total (cs.take i) + c.weight := by
  induction cs generalizing i draw with
  | nil => simp at placed
  | cons head cs ih =>
    rw [stop?]
    cases i with
    | zero =>
      obtain rfl : head = c := by simpa using placed
      by_cases inside : draw < head.weight
      · simp [inside]
      · simp [inside]
    | succ i =>
      have after : cs[i]? = some c := by simpa using placed
      have later := ih after (draw - head.weight)
      rw [List.take_succ_cons, total_cons]
      by_cases inside : draw < head.weight
      · simp only [inside, if_true, Option.some.injEq]
        omega
      · simp only [inside, if_false, Option.map_eq_some_iff, Nat.add_right_cancel_iff,
          exists_eq_right, later]
        omega

/-- Where the walk stops there is a candidate. -/
theorem exists_of_stop? {cs : List Candidate} {draw i : Nat} (stops : stop? cs draw = some i) :
    ∃ c, cs[i]? = some c := by
  induction cs generalizing draw i with
  | nil => simp [stop?] at stops
  | cons c cs ih =>
    rw [stop?] at stops
    split at stops
    · obtain rfl := Option.some.inj stops
      exact ⟨c, rfl⟩
    · obtain ⟨j, later, rfl⟩ := Option.map_eq_some_iff.mp stops
      simpa using ih later

theorem total_take_add_le {cs : List Candidate} {i : Nat} {c : Candidate}
    (placed : cs[i]? = some c) : total (cs.take i) + c.weight ≤ total cs := by
  induction cs generalizing i with
  | nil => simp at placed
  | cons head cs ih =>
    cases i with
    | zero =>
      obtain rfl : head = c := by simpa using placed
      simp
    | succ i =>
      have later := ih (i := i) (by simpa using placed)
      rw [List.take_succ_cons, total_cons, total_cons]
      omega

/-- As many draws choose a candidate as its weight says. -/
theorem card_stop? {cs : List Candidate} {i : Nat} {c : Candidate} (placed : cs[i]? = some c) :
    ((Finset.range (total cs)).filter fun draw => stop? cs draw = some i).card = c.weight := by
  have share : ((Finset.range (total cs)).filter fun draw => stop? cs draw = some i) =
      Finset.Ico (total (cs.take i)) (total (cs.take i) + c.weight) := by
    ext draw
    have within := total_take_add_le placed
    rw [Finset.mem_filter, Finset.mem_range, stop?_eq_some_iff placed, Finset.mem_Ico]
    omega
  rw [share, Nat.card_Ico, Nat.add_sub_cancel_left]

theorem total_pos {cs : List Candidate} (weights : ∀ c ∈ cs, 0 < c.weight) (nonempty : cs ≠ []) :
    0 < total cs := by
  cases cs with
  | nil => contradiction
  | cons c cs =>
    have weight := weights c List.mem_cons_self
    rw [total_cons]
    omega

/-- A wheel of fewer than `2 ^ 32` candidates is narrower than `2 ^ 64` when every weight is
below `2 ^ 32`. -/
theorem total_lt {cs : List Candidate} (few : cs.length < 2 ^ 32)
    (light : ∀ c ∈ cs, c.weight < 2 ^ 32) : total cs < 2 ^ 64 := by
  have bound : total cs ≤ cs.length * (2 ^ 32 - 1) := by
    clear few
    induction cs with
    | nil => simp
    | cons c cs ih =>
      obtain ⟨first, rest⟩ := List.forall_mem_cons.mp light
      have later := ih rest
      rw [total_cons, List.length_cons, Nat.add_mul]
      omega
  calc total cs ≤ cs.length * (2 ^ 32 - 1) := bound
    _ ≤ (2 ^ 32 - 1) * (2 ^ 32 - 1) := Nat.mul_le_mul_right _ (by omega)
    _ < 2 ^ 64 := by decide

/-- A draw inside the wheel chooses the candidate where the walk stops. -/
theorem select_of_stop? {roll : Nat → Nat} {r : Request} {i : Nat} {c : Candidate}
    (weights : ∀ c ∈ r.eligible, 0 < c.weight) (placed : r.eligible[i]? = some c)
    (stops : stop? r.eligible (roll (total r.eligible)) = some i) :
    select roll r = .ok [c.address] := by
  have all : r.eligible.filter (0 < ·.weight) = r.eligible :=
    List.filter_eq_self.mpr fun c member => by simpa using weights c member
  have nonempty : r.eligible ≠ [] := List.ne_nil_of_mem (List.mem_of_getElem? placed)
  have positive := total_pos weights nonempty
  have turns : (r.eligible.isEmpty || total r.eligible == 0) = false := by
    simp [nonempty, Nat.ne_of_gt positive]
  have picked : pick? r.eligible (roll (total r.eligible)) = some c.address := by
    rw [pick?_eq, stops, Option.bind_some, placed, Option.map_some]
  simp only [select, all, turns, picked, if_neg Bool.false_ne_true]

/-- A draw inside the wheel is answered with what it picks. -/
theorem select_of_draw {roll : Nat → Nat} {r : Request} (weights : ∀ c ∈ r.eligible, 0 < c.weight)
    (inside : roll (total r.eligible) < total r.eligible) :
    ∃ c ∈ r.eligible, pick? r.eligible (roll (total r.eligible)) = some c.address ∧
      select roll r = .ok [c.address] := by
  have stops : stop? r.eligible (roll (total r.eligible)) ≠ none := fun beyond =>
    Nat.not_le.mpr inside (stop?_eq_none_iff.mp beyond)
  obtain ⟨i, stop⟩ := Option.ne_none_iff_exists'.mp stops
  obtain ⟨c, placed⟩ := exists_of_stop? stop
  refine ⟨c, List.mem_of_getElem? placed, ?_, select_of_stop? weights placed stop⟩
  rw [pick?_eq, stop, Option.bind_some, placed, Option.map_some]

/-- As many draws pick an address of some kind as the weights of those addresses say. -/
theorem count_pick? (p : Address → Bool) (cs : List Candidate) :
    Nat.count (fun draw => (pick? cs draw).any p) (total cs) =
      total (cs.filter (p ·.address)) := by
  induction cs with
  | nil => rfl
  | cons c cs ih =>
    have first : ∀ draw < c.weight, pick? (c :: cs) draw = some c.address := by
      intro draw inside
      rw [pick?, if_pos inside]
    have rest (draw : Nat) : pick? (c :: cs) (c.weight + draw) = pick? cs draw := by
      rw [pick?, if_neg (by omega), Nat.add_sub_cancel_left]
    rw [total_cons, Nat.count_add]
    simp only [rest, ih]
    cases met : p c.address with
    | true =>
      rw [Nat.count_of_forall fun draw inside => by simp [first draw inside, met]]
      simp [met]
    | false =>
      rw [Nat.count_of_forall_not fun draw inside => by simp [first draw inside, met]]
      simp [met]

/-- As many draws answer with an endpoint as the weights of the candidates that stand for it. -/
theorem count_select {r : Request} (weights : ∀ c ∈ r.eligible, 0 < c.weight) (e : Address) :
    Nat.count (fun draw => (select (fun _ => draw) r).map (·.map Address.canonical) = .ok [e])
        (total r.eligible) =
      total (r.eligible.filter (·.address.canonical == e)) := by
  have same : ∀ draw < total r.eligible,
      ((select (fun _ => draw) r).map (·.map Address.canonical) = .ok [e] ↔
        (pick? r.eligible draw).any (·.canonical == e) = true) := by
    intro draw inside
    obtain ⟨c, _, picked, answer⟩ := @select_of_draw (fun _ => draw) r weights inside
    rw [answer, picked]
    simp [Except.map]
  rw [← count_pick? (·.canonical == e)]
  exact Nat.le_antisymm (Nat.count_mono_left fun draw inside => (same draw inside).mp)
    (Nat.count_mono_left fun draw inside => (same draw inside).mpr)

/-- The weights of the eligible candidates add up within 64 bits. Every draw below their sum
chooses one candidate, the one whose share it falls in: the share of a candidate is as many
consecutive draws as its weight says, the first of them the sum of the weights before it. Any
other draw is refused. -/
theorem select_proportional (r : Request) (nonempty : r.eligible ≠ [])
    (few : r.candidates.length < 2 ^ 32)
    (weights : ∀ c ∈ r.candidates, 1 ≤ c.weight ∧ c.weight < 2 ^ 32) :
    let cs := r.eligible
    (0 < total cs ∧ total cs < 2 ^ 64) ∧
    (∀ draw, pick? cs draw = (stop? cs draw).bind fun i => cs[i]?.map (·.address)) ∧
    (∀ draw < total cs, ∃ i c, stop? cs draw = some i ∧ cs[i]? = some c ∧
      ∀ roll : Nat → Nat, roll (total cs) = draw → select roll r = .ok [c.address]) ∧
    (∀ i c, cs[i]? = some c →
      (∀ draw, stop? cs draw = some i ↔
        total (cs.take i) ≤ draw ∧ draw < total (cs.take i) + c.weight) ∧
      ((Finset.range (total cs)).filter fun draw => stop? cs draw = some i).card = c.weight) ∧
    ∀ draw, total cs ≤ draw → pick? cs draw = none := by
  intro cs
  have present : ∀ c ∈ cs, c ∈ r.candidates := fun c member => List.mem_of_mem_filter member
  have heavy : ∀ c ∈ cs, 0 < c.weight := fun c member => (weights c (present c member)).1
  have light : ∀ c ∈ cs, c.weight < 2 ^ 32 := fun c member => (weights c (present c member)).2
  have shorter : cs.length < 2 ^ 32 := (List.length_filter_le _ _).trans_lt few
  refine ⟨⟨total_pos heavy nonempty, total_lt shorter light⟩, pick?_eq cs, ?_, ?_, ?_⟩
  · intro draw inside
    have stops : stop? cs draw ≠ none := fun beyond =>
      Nat.not_le.mpr inside (stop?_eq_none_iff.mp beyond)
    obtain ⟨i, stop⟩ := Option.ne_none_iff_exists'.mp stops
    obtain ⟨c, placed⟩ := exists_of_stop? stop
    refine ⟨i, c, stop, placed, fun roll rolled => ?_⟩
    exact select_of_stop? heavy placed (rolled ▸ stop)
  · intro i c placed
    exact ⟨stop?_eq_some_iff placed, card_stop? placed⟩
  · intro draw beyond
    rw [pick?_eq, stop?_eq_none_iff.mpr beyond, Option.bind_none]

/-- Four candidates, of which the first is dead and the third of the other family. -/
def mixed : Request where
  family := .ipv4
  client := .v4 0xc6336407#32
  candidates := [
    { address := .v4 0x0a000001#32, weight := 100, alive := false },
    { address := .v4 0x0a000002#32, weight := 5 },
    { address := .v6 1#128, weight := 7 },
    { address := .v4 0x0a000003#32, weight := 2 ^ 32 - 1 }]

/-- The fifth draw is the last that chooses the second candidate, the sixth the first that
chooses the last one. -/
theorem select_proportional_mixed :
    (mixed.eligible ≠ [] ∧ mixed.candidates.length < 2 ^ 32 ∧
      ∀ c ∈ mixed.candidates, 1 ≤ c.weight ∧ c.weight < 2 ^ 32) ∧
    stop? mixed.eligible 4 = some 0 ∧ stop? mixed.eligible 5 = some 1 ∧
      total mixed.eligible < 2 ^ 64 := by
  have nonempty : mixed.eligible ≠ [] := by decide +kernel
  have few : mixed.candidates.length < 2 ^ 32 := by decide +kernel
  have weights : ∀ c ∈ mixed.candidates, 1 ≤ c.weight ∧ c.weight < 2 ^ 32 := by decide +kernel
  obtain ⟨⟨_, narrow⟩, _, _, shares, _⟩ := select_proportional mixed nonempty few weights
  have first := (shares 0 { address := .v4 0x0a000002#32, weight := 5 } rfl).1 4
  have second := (shares 1 { address := .v4 0x0a000003#32, weight := 2 ^ 32 - 1 } rfl).1 5
  exact ⟨⟨nonempty, few, weights⟩, first.mpr (by decide +kernel), second.mpr (by decide +kernel),
    narrow⟩

end DnsBalancer.Weighted
