import DnsBalancer.Proofs.Selection.Congruence
import DnsBalancer.Proofs.Selection.Rotation
import Mathlib.Logic.Relation

/-!
# Candidates that do not count

A candidate that is dead, disabled or of the other family has no say in an answer, nor in where
the cursor goes: it may come, go, change in every field and change places with others of its
kind, in one request or in a whole row of them.
-/
namespace DnsBalancer

namespace Candidate

/-- One change to a row of candidates by which no eligible one is touched. -/
inductive Edit (family : Family) : List Candidate → List Candidate → Prop
  | add {c : Candidate} (out : c.eligibleFor family = false) (front back : List Candidate) :
    Edit family (front ++ back) (front ++ c :: back)
  | remove {c : Candidate} (out : c.eligibleFor family = false) (front back : List Candidate) :
    Edit family (front ++ c :: back) (front ++ back)
  | change {c d : Candidate} (out : c.eligibleFor family = false)
    (stillOut : d.eligibleFor family = false) (front back : List Candidate) :
    Edit family (front ++ c :: back) (front ++ d :: back)
  | exchange {c d : Candidate} (out : c.eligibleFor family = false)
    (alsoOut : d.eligibleFor family = false) (front between back : List Candidate) :
    Edit family (front ++ c :: (between ++ d :: back)) (front ++ d :: (between ++ c :: back))

/-- Any number of such changes, one after another. -/
def Edited (family : Family) : List Candidate → List Candidate → Prop :=
  Relation.ReflTransGen (Edit family)

variable {family : Family} {cs ds : List Candidate}

theorem filter_edit (edit : Edit family cs ds) :
    ds.filter (·.eligibleFor family) = cs.filter (·.eligibleFor family) := by
  cases edit with
  | add out front back => simp [out]
  | remove out front back => simp [out]
  | change out stillOut front back => simp [out, stillOut]
  | exchange out alsoOut front between back => simp [out, alsoOut]

theorem Edit.reverse (edit : Edit family cs ds) : Edit family ds cs := by
  cases edit with
  | add out front back => exact .remove out front back
  | remove out front back => exact .add out front back
  | change out stillOut front back => exact .change stillOut out front back
  | exchange out alsoOut front between back => exact .exchange alsoOut out front between back

instance : Std.Symm (Edit family) := ⟨fun _ _ edit => edit.reverse⟩

theorem Edit.cons (c : Candidate) (edit : Edit family cs ds) : Edit family (c :: cs) (c :: ds) := by
  cases edit with
  | add out front back => exact .add out (c :: front) back
  | remove out front back => exact .remove out (c :: front) back
  | change out stillOut front back => exact .change out stillOut (c :: front) back
  | exchange out alsoOut front between back => exact .exchange out alsoOut (c :: front) between back

theorem edited_filter (cs : List Candidate) :
    Edited family cs (cs.filter (·.eligibleFor family)) := by
  induction cs with
  | nil => exact .refl
  | cons c cs ih =>
    have rest : Edited family (c :: cs) (c :: cs.filter (·.eligibleFor family)) :=
      Relation.ReflTransGen.lift (c :: ·) (fun _ _ edit => Edit.cons c edit) _ _ ih
    cases able : c.eligibleFor family with
    | true =>
      rw [List.filter_cons, if_pos able]
      exact rest
    | false =>
      rw [List.filter_cons, if_neg (Bool.eq_false_iff.mp able)]
      exact rest.tail (.remove able [] _)

/-- Rows of candidates come from one another by such changes when their eligible candidates are
the same, in the same order, and not otherwise. -/
theorem edited_iff : Edited family cs ds ↔
    ds.filter (·.eligibleFor family) = cs.filter (·.eligibleFor family) := by
  constructor
  · intro edited
    induction edited with
    | refl => rfl
    | tail _ edit ih => exact (filter_edit edit).trans ih
  · intro same
    have down : Edited family cs (ds.filter (·.eligibleFor family)) := same ▸ edited_filter cs
    have up : Edited family (ds.filter (·.eligibleFor family)) ds :=
      Relation.ReflTransGen.stdSymm.symm _ _ (edited_filter ds)
    exact down.trans up

end Candidate

namespace Record

variable {r s : Record} {qs : List Ask}

theorem turn_edited (selector : s.selector = r.selector) {q : Ask}
    (edited : Candidate.Edited q.family r.candidates s.candidates) :
    (s.turn q).1 = (r.turn q).1 ∧ (s.turn q).2.selector = (r.turn q).2.selector := by
  have alike : (r.request q.family q.client q.geo q.locations).Alike
      (s.request q.family q.client q.geo q.locations) :=
    ⟨rfl, rfl, rfl, rfl, rfl, Candidate.edited_iff.mp edited⟩
  have turn (r : Record) : r.turn q = (⟨q.family, r.selector.cursor,
      (r.selector.select q.chance (r.request q.family q.client q.geo q.locations)).1⟩,
    { r with selector :=
        (r.selector.select q.chance (r.request q.family q.client q.geo q.locations)).2 }) := rfl
  rw [turn, turn, selector, alike.select]
  exact ⟨rfl, rfl⟩

/-- What a turn leaves behind differs in the selector alone. -/
theorem candidates_turn (r : Record) (q : Ask) : (r.turn q).2.candidates = r.candidates := rfl

theorem turns_edited (selector : s.selector = r.selector)
    (edited : ∀ q ∈ qs, Candidate.Edited q.family r.candidates s.candidates) :
    (s.turns qs).1 = (r.turns qs).1 ∧ (s.turns qs).2.selector = (r.turns qs).2.selector := by
  induction qs generalizing r s with
  | nil => exact ⟨rfl, selector⟩
  | cons q qs ih =>
    obtain ⟨first, later⟩ := List.forall_mem_cons.mp edited
    obtain ⟨answer, next⟩ := turn_edited selector first
    obtain ⟨answers, last⟩ := ih (r := (r.turn q).2) (s := (s.turn q).2) next (by
      rwa [candidates_turn, candidates_turn])
    exact ⟨List.cons_eq_cons.mpr ⟨answer, answers⟩, last⟩

end Record

namespace Selector

/-- Whatever the policy, the answer and the next cursor depend on the eligible candidates and on
what is known of the client. Changes to the other candidates, and no others, keep the eligible
ones as they are, and no run of selections tells them. -/
theorem selections_indifferent :
    (∀ (s : Selector) (chance : Chance) (q r : Request), q.Alike r →
      s.select chance r = s.select chance q) ∧
    (∀ (family : Family) (cs ds : List Candidate), Candidate.Edited family cs ds ↔
      ds.filter (·.eligibleFor family) = cs.filter (·.eligibleFor family)) ∧
    ∀ (r s : Record) (qs : List Ask), s.selector = r.selector →
      (∀ q ∈ qs, Candidate.Edited q.family r.candidates s.candidates) →
      (s.turns qs).1 = (r.turns qs).1 ∧
        (s.turns qs).2.selector = (r.turns qs).2.selector :=
  ⟨fun s chance _ _ alike => alike.select s chance,
    fun _ _ _ => Candidate.edited_iff,
    fun _ _ _ selector edited => Record.turns_edited selector edited⟩

/-- A live backend with a dead one in front of it that has the better priority and more weight. -/
def overshadowed : Record where
  fqdn := "a.example.org."
  zone := "example.org."
  settings := { (default : RecordSettings) with mode := .weighted }
  selector := .ofMode .weighted
  backends := [
    { record := "a.example.org."
      definition := { address := .v4 0x0a000001#32, priority := -5, weight := 900 } },
    { record := "a.example.org.", definition := { address := .v4 0x0a000002#32 }
      health := { alive := true } }]

/-- The live backend with one that is disabled and one of the other family behind it. -/
def accompanied : Record :=
  { overshadowed with
    backends := overshadowed.backends.drop 1 ++ [
      { record := "a.example.org."
        definition := { address := .v4 0x0a000003#32, enabled := false }
        health := { alive := true } },
      { record := "a.example.org.", definition := { address := .v6 1#128 }
        health := { alive := true } }] }

theorem selections_indifferent_accompanied :
    let qs : List Ask := [{ family := .ipv4, client := .v4 0#32 },
      { family := .ipv4, client := .v4 1#32, chance := .ofDraw 700 }]
    accompanied.selector = overshadowed.selector ∧
      (∀ q ∈ qs, Candidate.Edited q.family overshadowed.candidates accompanied.candidates) ∧
      (accompanied.turns qs).1 = (overshadowed.turns qs).1 := by
  intro qs
  have edited : ∀ q ∈ qs,
      Candidate.Edited q.family overshadowed.candidates accompanied.candidates := by
    intro q member
    have family : q.family = .ipv4 := by
      rcases List.mem_pair.mp member with rfl | rfl <;> rfl
    rw [family]
    exact Candidate.edited_iff.mpr rfl
  exact ⟨rfl, edited,
    (selections_indifferent.2.2 overshadowed accompanied qs rfl edited).1⟩

end Selector

end DnsBalancer
