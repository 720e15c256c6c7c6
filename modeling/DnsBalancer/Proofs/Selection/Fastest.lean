import DnsBalancer.Selection.Policies
import Mathlib.Data.List.Basic
import Mathlib.Data.List.Induction

/-!
# The fastest candidate

The walk keeps the first candidate of the lowest time that was measured, and before any was
measured the first candidate of all. It starts from the longest time there is, so that a
candidate measured at just that time is never taken: with nothing faster beside it the walk ends
on an unmeasured candidate, or on none.
-/
namespace DnsBalancer

def Candidate.measured (c : Candidate) : Bool := !c.responseTime.isZero

theorem Candidate.isZero_responseTime (c : Candidate) : c.responseTime.isZero = !c.measured :=
  (Bool.not_not _).symm

namespace Fastest

/-- The first of the candidates whose time is the lowest that was measured. -/
def Leads (cs : List Candidate) (c : Candidate) : Prop :=
  ∃ before after, cs = before ++ c :: after ∧ c.measured = true ∧
    (∀ x ∈ before, x.measured = true → c.responseTime < x.responseTime) ∧
    ∀ x ∈ after, x.measured = true → c.responseTime ≤ x.responseTime

section

variable {cs : List Candidate} {c x : Candidate}

theorem Leads.mem (leads : Leads cs c) : c ∈ cs := by
  obtain ⟨before, after, rfl, _⟩ := leads
  simp

theorem Leads.measured (leads : Leads cs c) : c.measured = true := by
  obtain ⟨_, _, _, measured, _⟩ := leads
  exact measured

theorem Leads.le (leads : Leads cs c) (member : x ∈ cs) (measured : x.measured = true) :
    c.responseTime ≤ x.responseTime := by
  obtain ⟨before, after, rfl, _, first, lowest⟩ := leads
  rcases List.mem_append.mp member with earlier | later
  · exact Nat.le_of_lt (first x earlier measured)
  · rcases List.mem_cons.mp later with rfl | later
    · exact Nat.le_refl _
    · exact lowest x later measured

/-- One more candidate that is not faster takes the lead from nobody. -/
theorem Leads.concat (leads : Leads cs c)
    (slower : x.measured = true → c.responseTime ≤ x.responseTime) : Leads (cs ++ [x]) c := by
  obtain ⟨before, after, rfl, measured, first, lowest⟩ := leads
  refine ⟨before, after ++ [x], by simp, measured, first, fun y member => ?_⟩
  rcases List.mem_append.mp member with earlier | last
  · exact lowest y earlier
  · rw [List.mem_singleton.mp last]
    exact slower

theorem leads_concat_self (measured : x.measured = true)
    (faster : ∀ y ∈ cs, y.measured = true → x.responseTime < y.responseTime) :
    Leads (cs ++ [x]) x :=
  ⟨cs, [], rfl, measured, faster, by simp⟩

end

/-- No measured time is below the longest. -/
def Slow (cs : List Candidate) : Prop :=
  ∀ c ∈ cs, c.measured = true → ¬ c.responseTime < .longest

/-- What the walk holds after a row of candidates. -/
structure Search.Follows (s : Search) (past : List Candidate) : Prop where
  measured : s.measured = past.any Candidate.measured
  best : (∃ c, Leads past c ∧ c.responseTime < .longest ∧ s.best = some c ∧
      s.time = c.responseTime) ∨
    Slow past ∧ s.best = past.find? (!·.measured) ∧ s.time = .longest

namespace Search.Follows

variable {s : Search} {past : List Candidate}

theorem start : Search.Follows {} [] where
  measured := rfl
  best := Or.inr ⟨by simp [Slow], rfl, rfl⟩

/-- An unmeasured candidate is taken when there is nothing yet. -/
theorem unmeasured (follows : s.Follows past) {c : Candidate} (untimed : c.measured = false) :
    (s.step c).Follows (past ++ [c]) := by
  have step : s.step c = { s with best := s.best.orElse fun _ => some c } := by
    simp [Search.step, c.isZero_responseTime, untimed]
  rw [step]
  refine ⟨by simp [follows.measured, untimed], ?_⟩
  rcases follows.best with ⟨x, leads, quick, best, time⟩ | ⟨slow, best, time⟩
  · exact Or.inl ⟨x, leads.concat (by simp [untimed]), quick, by simp [best], time⟩
  · refine Or.inr ⟨fun x member => ?_, ?_, time⟩
    · rcases List.mem_append.mp member with earlier | last
      · exact slow x earlier
      · simp [List.mem_singleton.mp last, untimed]
    · simp only [best, List.find?_append]
      cases past.find? (!·.measured) with
      | none => simp [untimed]
      | some x => simp

/-- A measured candidate is taken when it beats the time that is held. -/
theorem faster (follows : s.Follows past) {c : Candidate} (timed : c.measured = true)
    (beats : c.responseTime < s.time) : (s.step c).Follows (past ++ [c]) := by
  have step : s.step c = ⟨some c, c.responseTime, true⟩ := by
    simp [Search.step, c.isZero_responseTime, timed, beats]
  rw [step]
  refine ⟨by simp [timed], Or.inl ⟨c, leads_concat_self timed ?_, ?_, rfl, rfl⟩⟩
  · intro y member other
    rcases follows.best with ⟨x, leads, _, _, time⟩ | ⟨slow, _, time⟩
    · exact Nat.lt_of_lt_of_le (time ▸ beats) (leads.le member other)
    · exact Nat.lt_of_lt_of_le (time ▸ beats) (Nat.not_lt.mp (slow y member other))
  · rcases follows.best with ⟨x, _, quick, _, time⟩ | ⟨_, _, time⟩
    · exact Nat.lt_trans (time ▸ beats) quick
    · exact time ▸ beats

theorem slower (follows : s.Follows past) {c : Candidate} (timed : c.measured = true)
    (behind : ¬ c.responseTime < s.time) : (s.step c).Follows (past ++ [c]) := by
  have step : s.step c = { s with measured := true } := by
    simp [Search.step, c.isZero_responseTime, timed, behind]
  rw [step]
  refine ⟨by simp [timed], ?_⟩
  rcases follows.best with ⟨x, leads, quick, best, time⟩ | ⟨slow, best, time⟩
  · exact Or.inl ⟨x, leads.concat fun _ => Nat.not_lt.mp (time ▸ behind), quick, best, time⟩
  · refine Or.inr ⟨fun x member => ?_, ?_, time⟩
    · rcases List.mem_append.mp member with earlier | last
      · exact slow x earlier
      · rw [List.mem_singleton.mp last]
        exact fun _ => time ▸ behind
    · simp [best, List.find?_append, timed]

theorem step (follows : s.Follows past) (c : Candidate) : (s.step c).Follows (past ++ [c]) := by
  cases timed : c.measured with
  | false => exact follows.unmeasured timed
  | true =>
    by_cases beats : c.responseTime < s.time
    · exact follows.faster timed beats
    · exact follows.slower timed beats

theorem run (cs : List Candidate) : (cs.foldl Search.step {}).Follows cs := by
  induction cs using List.reverseRecOn with
  | nil => exact start
  | append_singleton past c ih =>
    rw [List.foldl_concat]
    exact ih.step c

end Search.Follows

/-- The walk has met a measured candidate and yet ends on an unmeasured one. -/
def FallsBack (r : Request) : Prop :=
  (r.eligible.foldl Search.step {}).measured = true ∧
    ∃ c, (r.eligible.foldl Search.step {}).best = some c ∧ c.measured = false

theorem select_of_leads {r : Request} {c : Candidate} (leads : Leads r.eligible c)
    (best : (r.eligible.foldl Search.step {}).best = some c) : select r = .ok [c.address] := by
  simp only [select, best, c.isZero_responseTime, leads.measured, Bool.not_true, Bool.and_false,
    if_neg Bool.false_ne_true]

/-- Where nothing below the longest time was measured, the walk ends on the first unmeasured
candidate, if there is one. -/
theorem select_of_slow {r : Request}
    (best : (r.eligible.foldl Search.step {}).best = r.eligible.find? (!·.measured)) :
    select r = match r.eligible.find? (!·.measured) with
      | none => .error (.noHealthyBackend .fastest r.family)
      | some c => if r.eligible.any Candidate.measured then Failover.select r
          else .ok [c.address] := by
  simp only [select, best, (Search.Follows.run r.eligible).measured]
  cases found : r.eligible.find? (!·.measured) with
  | none => rfl
  | some c =>
    have unmeasured : c.measured = false := by simpa using List.find?_some found
    simp only [c.isZero_responseTime, unmeasured, Bool.not_false, Bool.and_true]

/-- A policy that is fallen back on does not fail where something is eligible. -/
theorem exists_failover {r : Request} (nonempty : r.eligible ≠ []) :
    ∃ addresses, Failover.select r = .ok addresses := by
  unfold Failover.select
  cases lowest : Failover.lowest? r.eligible with
  | none => exact absurd (by simpa [Failover.lowest?] using lowest) nonempty
  | some p => exact ⟨_, rfl⟩

theorem select_eq_error_iff (r : Request) :
    (∃ e, select r = .error e) ↔ ∀ c ∈ r.eligible, ¬ c.responseTime < .longest := by
  rcases (Search.Follows.run r.eligible).best with
    ⟨c, leads, quick, best, _⟩ | ⟨slow, best, _⟩
  · rw [select_of_leads leads best]
    exact ⟨fun ⟨_, refused⟩ => (nomatch refused), fun none => absurd quick (none c leads.mem)⟩
  · rw [select_of_slow best]
    cases found : r.eligible.find? (!·.measured) with
    | none =>
      refine ⟨fun _ c member => slow c member ?_, fun _ => ⟨_, rfl⟩⟩
      simpa using List.find?_eq_none.mp found c member
    | some c =>
      have member := List.mem_of_find?_eq_some found
      have quick : c.responseTime < .longest := by
        have unmeasured : c.measured = false := by simpa using List.find?_some found
        have nanos : c.responseTime.nanos = 0 := by
          simpa [Candidate.measured, Duration.isZero] using unmeasured
        change c.responseTime.nanos < Duration.longest.nanos
        rw [nanos]
        decide
      obtain ⟨addresses, fallback⟩ := exists_failover (List.ne_nil_of_mem member)
      refine ⟨fun ⟨e, refused⟩ => ?_, fun none => absurd quick (none c member)⟩
      dsimp only at refused
      split at refused
      · rw [fallback] at refused
        cases refused
      · cases refused

theorem fallsBack_iff (r : Request) : FallsBack r ↔
    Slow r.eligible ∧ (∃ c ∈ r.eligible, c.measured = true) ∧
      ∃ c ∈ r.eligible, c.measured = false := by
  have follows := Search.Follows.run r.eligible
  have met : (r.eligible.foldl Search.step {}).measured = true ↔
      ∃ c ∈ r.eligible, c.measured = true := by
    rw [follows.measured, List.any_eq_true]
  rw [FallsBack, met]
  rcases follows.best with ⟨c, leads, quick, best, _⟩ | ⟨slow, best, _⟩
  · constructor
    · rintro ⟨_, x, held, unmeasured⟩
      obtain rfl := Option.some.inj (best.symm.trans held)
      exact absurd leads.measured (by simp [unmeasured])
    · rintro ⟨slow, _⟩
      exact absurd quick (slow c leads.mem leads.measured)
  · constructor
    · rintro ⟨some, x, held, unmeasured⟩
      rw [best] at held
      exact ⟨slow, some, x, List.mem_of_find?_eq_some held, unmeasured⟩
    · rintro ⟨_, some, x, member, unmeasured⟩
      have found : (r.eligible.find? (!·.measured)).isSome = true :=
        List.find?_isSome.mpr ⟨x, member, by simp [unmeasured]⟩
      obtain ⟨y, first⟩ := Option.isSome_iff_exists.mp found
      exact ⟨some, y, best.trans first, by simpa using List.find?_some first⟩

/-- The policy fails just when no eligible candidate has a time below the longest. If one was
measured below it, the answer is the first of those with the lowest measured time; if none was
measured, it is the first of all. What is left are candidates measured at the longest time with
none measured below: then the policy falls back on failover where there are unmeasured ones
beside them, and never otherwise. -/
theorem select_fastest (r : Request) :
    ((∃ e, select r = .error e) ↔ ∀ c ∈ r.eligible, ¬ c.responseTime < .longest) ∧
    ((∃ c ∈ r.eligible, c.measured = true ∧ c.responseTime < .longest) →
      ∃ c, Leads r.eligible c ∧ select r = .ok [c.address]) ∧
    ((∀ c ∈ r.eligible, c.measured = false) →
      ∀ c, r.eligible.head? = some c → select r = .ok [c.address]) ∧
    (FallsBack r ↔ Slow r.eligible ∧ (∃ c ∈ r.eligible, c.measured = true) ∧
      ∃ c ∈ r.eligible, c.measured = false) ∧
    (FallsBack r → select r = Failover.select r) := by
  have follows := Search.Follows.run r.eligible
  refine ⟨select_eq_error_iff r, ?_, ?_, fallsBack_iff r, ?_⟩
  · rintro ⟨x, member, measured, quick⟩
    rcases follows.best with ⟨c, leads, _, best, _⟩ | ⟨slow, _⟩
    · exact ⟨c, leads, select_of_leads leads best⟩
    · exact absurd quick (slow x member measured)
  · intro unmeasured c first
    rcases follows.best with ⟨x, leads, _⟩ | ⟨_, best, _⟩
    · exact absurd leads.measured (by simp [unmeasured x leads.mem])
    · have none : r.eligible.any Candidate.measured = false := by
        simpa using unmeasured
      have found : r.eligible.find? (!·.measured) = some c := by
        obtain ⟨rest, row⟩ := List.head?_eq_some_iff.mp first
        rw [row, List.find?_cons_of_pos]
        simp [unmeasured c (row ▸ List.mem_cons_self)]
      rw [select_of_slow best, found]
      simp only [none, if_neg Bool.false_ne_true]
  · rintro ⟨met, c, held, unmeasured⟩
    simp only [select, held, met, c.isZero_responseTime, unmeasured, Bool.not_false, Bool.and_true,
      if_true]

/-- An unmeasured candidate, two that are equally fast, and a faster one that is dead. -/
def tied : Request where
  family := .ipv4
  client := .v4 0xc6336407#32
  candidates := [
    { address := .v4 0x0a000001#32 },
    { address := .v4 0x0a000002#32, responseTime := .ofMillis 40 },
    { address := .v4 0x0a000003#32, responseTime := .ofMillis 1, alive := false },
    { address := .v4 0x0a000004#32, responseTime := .ofMillis 40 }]

theorem select_fastest_tied :
    (∃ c ∈ tied.eligible, c.measured = true ∧ c.responseTime < .longest) ∧
      ∃ c, Leads tied.eligible c ∧ select tied = .ok [c.address] := by
  have quick : ∃ c ∈ tied.eligible, c.measured = true ∧ c.responseTime < .longest := by
    decide +kernel
  exact ⟨quick, (select_fastest tied).2.1 quick⟩

/-- The only candidate is healthy and was measured at the longest time there is: nobody is
chosen. -/
theorem select_longest_refused :
    ¬ ∀ r : Request, (∃ e, select r = .error e) ↔ r.eligible = [] := by
  intro refusals
  have refused := (refusals {
    family := .ipv4
    client := .v4 0xc6336407#32
    candidates := [{ address := .v4 0x0a000001#32, responseTime := .longest }] }).mp
      ⟨.noHealthyBackend .fastest .ipv4, by rfl⟩
  cases refused

end Fastest

end DnsBalancer
