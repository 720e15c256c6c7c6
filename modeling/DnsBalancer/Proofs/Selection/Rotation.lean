import DnsBalancer.Proofs.Selection.Eligible
import Mathlib.Data.List.Perm.Subperm
import Mathlib.Data.Nat.ModEq

/-!
# Rotation when both families are asked for

A record has one cursor. Every selection reduces it by the number of backends that are
eligible for its own family and leaves it there for whatever family comes next. Selections
of one family in a row therefore go round; others that fall between them may set the cursor
back or on, and whether a round is complete is seen from where the cursor stood.
-/
namespace DnsBalancer

/-- What one selection is asked with. -/
structure Ask where
  family : Family
  client : Address
  geo : GeoSources := {}
  locations : LocationTable := {}
  chance : Chance := default

/-- A selection that was made: the cursor that it found, and its answer. -/
structure Turn where
  family : Family
  cursor : Nat
  answer : Except SelectionError (List Address)

namespace Record

/-- Makes one selection. -/
def turn (r : Record) (q : Ask) : Turn × Record :=
  let (answer, next) := r.select q.family q.client q.geo q.locations q.chance
  (⟨q.family, r.selector.cursor, answer⟩, next)

/-- Makes selections one after another. -/
def turns (r : Record) : List Ask → List Turn × Record
  | [] => ([], r)
  | q :: qs =>
    let (t, r) := r.turn q
    let (ts, r) := r.turns qs
    (t :: ts, r)

/-- The addresses that rotation goes round. -/
def pool (r : Record) (family : Family) : List Address := (r.eligible family).map (·.address)

/-- What the cursor points at. -/
def pointed (r : Record) (family : Family) (cursor : Nat) :
    Except SelectionError (List Address) :=
  match (r.pool family)[cursor % (r.pool family).length]? with
  | some a => .ok [a]
  | none => .error (.noHealthyBackend .roundRobin family)

/-- Where a selection leaves the cursor. -/
def following (r : Record) (family : Family) (cursor : Nat) : Nat :=
  if r.pool family = [] then cursor else (cursor + 1) % (r.pool family).length

def atCursor (r : Record) (cursor : Nat) : Record :=
  { r with selector := { r.selector with cursor } }

variable {r : Record} {family : Family}

@[simp] theorem cursor_atCursor (cursor : Nat) : (r.atCursor cursor).selector.cursor = cursor :=
  rfl

@[simp] theorem atCursor_atCursor (first second : Nat) :
    (r.atCursor first).atCursor second = r.atCursor second := rfl

@[simp] theorem pointed_atCursor (cursor : Nat) :
    (r.atCursor cursor).pointed family = r.pointed family := rfl

@[simp] theorem following_atCursor (cursor : Nat) :
    (r.atCursor cursor).following family = r.following family := rfl

/-- One selection in rotation. -/
theorem turn_eq (rotation : r.selector.mode = .roundRobin) (q : Ask) :
    r.turn q = (⟨q.family, r.selector.cursor, r.pointed q.family r.selector.cursor⟩,
      r.atCursor (r.following q.family r.selector.cursor)) := by
  have eligible := r.eligible_request q.family q.client q.geo q.locations
  simp only [request] at eligible
  simp only [turn, select, Selector.select, rotation, RoundRobin.select, eligible, pointed,
    following, pool, List.getElem?_map, List.length_map, List.map_eq_nil_iff]
  cases pointed : (r.eligible q.family)[r.selector.cursor % (r.eligible q.family).length]? with
  | none =>
    have empty : r.eligible q.family = [] := by
      by_contra nonempty
      have inside := Nat.mod_lt r.selector.cursor (List.length_pos_iff.mpr nonempty)
      have outside := List.getElem?_eq_none_iff.mp pointed
      omega
    simp [empty, atCursor, ← rotation]
  | some b =>
    have nonempty := List.ne_nil_of_mem (List.mem_of_getElem? pointed)
    simp [nonempty, atCursor, ← rotation, Backend.candidate]

/-- Where selections leave the cursor, one after another. -/
def settled (r : Record) (cursor : Nat) (qs : List Ask) : Nat :=
  qs.foldl (fun cursor q => r.following q.family cursor) cursor

/-- The selections that are made from a cursor. -/
def traced (r : Record) (cursor : Nat) : List Ask → List Turn
  | [] => []
  | q :: qs =>
    ⟨q.family, cursor, r.pointed q.family cursor⟩ :: r.traced (r.following q.family cursor) qs

/-- Selections look at the cursor that the ones before have left, and move nothing else. -/
theorem turns_atCursor (rotation : r.selector.mode = .roundRobin) (cursor : Nat)
    (qs : List Ask) :
    (r.atCursor cursor).turns qs = (r.traced cursor qs, r.atCursor (r.settled cursor qs)) := by
  induction qs generalizing cursor with
  | nil => rfl
  | cons q qs ih =>
    rw [turns, turn_eq (r := r.atCursor cursor) rotation q]
    simp only [cursor_atCursor, pointed_atCursor, following_atCursor, atCursor_atCursor, ih,
      traced, settled, List.foldl_cons]

theorem turns_eq (rotation : r.selector.mode = .roundRobin) (qs : List Ask) :
    r.turns qs = (r.traced r.selector.cursor qs, r.atCursor (r.settled r.selector.cursor qs)) :=
  turns_atCursor rotation r.selector.cursor qs

/-! ### Rounds -/

section

variable {cursor : Nat} {qs : List Ask} {t : Turn}

theorem answer_traced (member : t ∈ r.traced cursor qs) : t.answer = r.pointed t.family t.cursor := by
  induction qs generalizing cursor with
  | nil => simp [traced] at member
  | cons q qs ih =>
    rcases List.mem_cons.mp member with rfl | later
    · rfl
    · exact ih later

theorem pointed_eq (nonempty : r.pool family ≠ []) (cursor : Nat) :
    ∃ a, (r.pool family)[cursor % (r.pool family).length]? = some a ∧
      r.pointed family cursor = .ok [a] := by
  have inside := Nat.mod_lt cursor (List.length_pos_iff.mpr nonempty)
  refine ⟨_, List.getElem?_eq_getElem inside, ?_⟩
  rw [pointed, List.getElem?_eq_getElem inside]

/-- As many places below `n` as there are, none twice, are all of them. -/
theorem perm_range_iff {n : Nat} {places : List Nat} (full : places.length = n)
    (below : ∀ i ∈ places, i < n) : places.Perm (List.range n) ↔ places.Nodup := by
  constructor
  · intro all
    exact all.nodup_iff.mpr List.nodup_range
  · intro once
    have inside : places ⊆ List.range n := fun i member => List.mem_range.mpr (below i member)
    exact (once.subperm inside).perm_of_length_le (by simp [full])

/-- As many selections as the pool has addresses give each once, just when they found the
cursor at different places. -/
theorem perm_pool_iff (nonempty : r.pool family ≠ []) (distinct : (r.pool family).Nodup)
    {cursors : List Nat} (full : cursors.length = (r.pool family).length) :
    (cursors.map (r.pointed family)).Perm ((r.pool family).map fun a => .ok [a]) ↔
      (cursors.map (· % (r.pool family).length)).Nodup := by
  have positive := List.length_pos_iff.mpr nonempty
  -- A cursor counts only by its place in the pool, and a round is one place after another.
  have places : cursors.map (r.pointed family) =
      (cursors.map (· % (r.pool family).length)).map (r.pointed family) := by
    rw [List.map_map]
    refine List.map_congr_left fun c _ => ?_
    simp [pointed]
  have round : (r.pool family).map (fun a => .ok [a]) =
      (List.range (r.pool family).length).map (r.pointed family) := by
    apply List.ext_getElem
    · simp
    · intro i inside _
      have bound : i < (r.pool family).length := by simpa using inside
      simp [pointed, Nat.mod_eq_of_lt bound, List.getElem?_eq_getElem bound]
  have below : ∀ i ∈ cursors.map (· % (r.pool family).length), i < (r.pool family).length := by
    intro i member
    obtain ⟨c, _, rfl⟩ := List.mem_map.mp member
    exact Nat.mod_lt c positive
  have complete := perm_range_iff (by simpa using full) below
  constructor
  · intro all
    have once : ((r.pool family).map fun a => (.ok [a] : Except SelectionError (List Address))).Nodup :=
      distinct.map fun a b same => by simpa using same
    rw [places] at all
    exact (all.nodup_iff.mpr once).of_map
  · intro once
    rw [places, round]
    exact (complete.mpr once).map _

/-- Selections of one family in a row find the cursor one place on each time. -/
theorem places_traced (nonempty : r.pool family ≠ []) (cursor : Nat)
    (row : ∀ q ∈ qs, q.family = family) :
    (r.traced cursor qs).map (·.cursor % (r.pool family).length) =
      (List.range qs.length).map fun i => (cursor + i) % (r.pool family).length := by
  induction qs generalizing cursor with
  | nil => rfl
  | cons q qs ih =>
    obtain ⟨own, rest⟩ := List.forall_mem_cons.mp row
    have next : r.following q.family cursor = (cursor + 1) % (r.pool family).length := by
      rw [own, following, if_neg nonempty]
    rw [traced, next, List.map_cons, ih _ rest, List.length_cons, List.range_succ_eq_map,
      List.map_cons, List.map_map]
    refine congrArg _ (List.map_congr_left fun i _ => ?_)
    rw [Nat.mod_add_mod]
    exact congrArg (· % (r.pool family).length) (by omega)

theorem nodup_places {n : Nat} (cursor : Nat) :
    ((List.range n).map fun i => (cursor + i) % n).Nodup := by
  refine List.Nodup.map_on (fun i below j bound same => ?_) List.nodup_range
  have equal : i % n = j % n := Nat.ModEq.add_left_cancel' cursor same
  rwa [Nat.mod_eq_of_lt (List.mem_range.mp below), Nat.mod_eq_of_lt (List.mem_range.mp bound)]
    at equal

/-- Turns of one family answer what the cursors point at that they found. -/
theorem answers_eq {ts : List Turn} (own : ∀ t ∈ ts, t.family = family)
    (made : ∀ t ∈ ts, t.answer = r.pointed t.family t.cursor) :
    ts.map (·.answer) = (ts.map (·.cursor)).map (r.pointed family) := by
  rw [List.map_map]
  refine List.map_congr_left fun t member => ?_
  rw [made t member, own t member]
  rfl

theorem family_traced (row : ∀ q ∈ qs, q.family = family) :
    ∀ t ∈ r.traced cursor qs, t.family = family := by
  induction qs generalizing cursor with
  | nil => simp [traced]
  | cons q qs ih =>
    obtain ⟨own, rest⟩ := List.forall_mem_cons.mp row
    exact List.forall_mem_cons.mpr ⟨own, ih rest⟩

@[simp] theorem length_traced : (r.traced cursor qs).length = qs.length := by
  induction qs generalizing cursor with
  | nil => rfl
  | cons q qs ih => simp [traced, ih]

/-- As many selections in a row as there are addresses go once round them. -/
theorem perm_row (nonempty : r.pool family ≠ []) (distinct : (r.pool family).Nodup)
    (cursor : Nat) (row : ∀ q ∈ qs, q.family = family)
    (full : qs.length = (r.pool family).length) :
    ((r.traced cursor qs).map (·.answer)).Perm ((r.pool family).map fun a => .ok [a]) := by
  have places := places_traced nonempty cursor row
  rw [full] at places
  rw [answers_eq (family_traced row) fun t member => answer_traced member,
    perm_pool_iff nonempty distinct (by simpa using full), List.map_map]
  exact places ▸ nodup_places cursor

/-- A record in rotation, asked for both families in any order. Each selection answers with
one address of its own family. As many selections of the family as there are addresses give
each address once just when they found the cursor at different places, and they do when no
other selection falls between them. -/
theorem turns_fair (r : Record) (rotation : r.selector.mode = .roundRobin)
    (distinct : (r.backends.map (·.address)).Nodup) (family : Family)
    (nonempty : r.pool family ≠ []) (asks : List Ask) :
    (∀ t ∈ (r.turns asks).1, t.family = family →
      ∃ a, (r.pool family)[t.cursor % (r.pool family).length]? = some a ∧ t.answer = .ok [a]) ∧
    (∀ round : List Turn, round <:+: (r.turns asks).1.filter (·.family = family) →
      round.length = (r.pool family).length →
      ((round.map (·.answer)).Perm ((r.pool family).map fun a => .ok [a]) ↔
        (round.map (·.cursor % (r.pool family).length)).Nodup)) ∧
    (∀ row : List Ask, (∀ q ∈ row, q.family = family) → row.length = (r.pool family).length →
      (((r.turns asks).2.turns row).1.map (·.answer)).Perm
        ((r.pool family).map fun a => .ok [a])) := by
  have once := r.nodup_eligible family distinct
  rw [turns_eq rotation]
  refine ⟨fun t member own => ?_, fun round part full => ?_, fun row alike full => ?_⟩
  · rw [answer_traced member, own]
    exact pointed_eq nonempty t.cursor
  · have made : ∀ t ∈ round, t.family = family ∧ t.answer = r.pointed t.family t.cursor := by
      intro t member
      obtain ⟨found, own⟩ := List.mem_filter.mp (part.subset member)
      exact ⟨of_decide_eq_true own, answer_traced found⟩
    rw [answers_eq (fun t member => (made t member).1) fun t member => (made t member).2,
      perm_pool_iff nonempty once (by simpa using full), List.map_map]
    rfl
  · rw [turns_atCursor rotation]
    exact perm_row nonempty once _ alike full

end

/-- Two live backends of one family and one of the other. -/
def dualStack : Record where
  fqdn := "a.example.org."
  zone := "example.org."
  settings := { (default : RecordSettings) with mode := .roundRobin }
  selector := .ofMode .roundRobin
  backends := [.v4 0x0a000001#32, .v4 0x0a000002#32, .v6 0x20010db8000000000000000000000001#128].map
    fun address => { record := "a.example.org.", definition := { address }, health := { alive := true } }

/-- A selection of the other family between two of the first. -/
def alternating : List Ask :=
  [.ipv4, .ipv6, .ipv4].map fun family => { family, client := .v4 0#32 }

theorem turns_fair_dualStack : dualStack.selector.mode = .roundRobin ∧
    (dualStack.backends.map (·.address)).Nodup ∧ dualStack.pool .ipv4 ≠ [] ∧
    ∀ row : List Ask, (∀ q ∈ row, q.family = .ipv4) → row.length = 2 →
      (((dualStack.turns alternating).2.turns row).1.map (·.answer)).Perm
        ((dualStack.pool .ipv4).map fun a => .ok [a]) := by
  have distinct : (dualStack.backends.map (·.address)).Nodup := by decide
  have nonempty : dualStack.pool .ipv4 ≠ [] := by decide
  obtain ⟨_, _, rows⟩ := turns_fair dualStack rfl distinct .ipv4 nonempty alternating
  exact ⟨rfl, distinct, nonempty, rows⟩

/-- The selection in between sets the cursor back, and the first address is given again. -/
theorem turns_alternating_unfair : ¬ ∀ (r : Record) (family : Family) (asks : List Ask)
    (round : List Turn), r.selector.mode = .roundRobin → (r.backends.map (·.address)).Nodup →
    r.pool .ipv4 ≠ [] → r.pool .ipv6 ≠ [] →
    round <:+: (r.turns asks).1.filter (·.family = family) →
    round.length = (r.pool family).length →
      (round.map (·.answer)).Perm ((r.pool family).map fun a => .ok [a]) := by
  intro fair
  have perm := fair dualStack .ipv4 alternating _ rfl (by decide) (by decide) (by decide)
    (List.infix_refl _) (by decide)
  have second : Except.ok [.v4 0x0a000002#32] ∈
      (dualStack.pool .ipv4).map fun a => (.ok [a] : Except SelectionError (List Address)) := by
    decide
  have given := perm.mem_iff.mpr second
  revert given
  decide

end Record

end DnsBalancer
