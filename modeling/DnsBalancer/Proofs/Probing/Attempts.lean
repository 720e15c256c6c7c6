import DnsBalancer.Probing.Flight
import DnsBalancer.Proofs.Duration

/-!
# Attempts of a probe

A probe makes attempts, one right after the other, until the outcome of one stands. What it can
come to is said without a clock; a run that is visited whenever an attempt of it ends comes to
just that. With every visit it owes fewer attempts.
-/
namespace DnsBalancer

/-- What a probe may come to, from an attempt on that is begun at an instant and that `left`
others may follow. Attempts are counted over the whole life of a probe and other cycles make some
in between, so that each may be any that the network and the check give. -/
inductive Probe.MayTake (net : Network) (p : Probe) : Nat → Instant → Completion → Prop where
  | last {left : Nat} {began : Instant} (n : Nat)
      (stands : Retry.next? left (p.attempt net n began).2 = none) :
      p.MayTake net left began ⟨(p.attempt net n began).1, (p.attempt net n began).2⟩
  | again {left rest : Nat} {began : Instant} {c : Completion} (n : Nat)
      (retried : Retry.next? left (p.attempt net n began).2 = some rest)
      (follows : p.MayTake net rest (began + (p.attempt net n began).1) c) :
      p.MayTake net left began ⟨(p.attempt net n began).1 + c.after, c.outcome⟩

/-- However its attempts fall, the probe comes to the same. -/
def Probe.Completes (net : Network) (p : Probe) (retries : Nat) (began : Instant)
    (c : Completion) : Prop :=
  ∀ x, p.MayTake net (Retry.maxAttempts retries - 1) began x → x = c

namespace Probe

variable {net : Network} {p : Probe} {left : Nat} {began : Instant}

theorem exists_mayTake (net : Network) (p : Probe) (left : Nat) (began : Instant) :
    ∃ c, p.MayTake net left began c := by
  induction left using Nat.strongRecOn generalizing began with
  | ind left ih =>
    cases again : Retry.next? left (p.attempt net 0 began).2 with
    | none => exact ⟨_, .last 0 again⟩
    | some rest =>
      obtain ⟨c, follows⟩ := ih rest (Retry.lt_of_next? again) (began + (p.attempt net 0 began).1)
      exact ⟨_, .again 0 again follows⟩

/-- A probe whose first attempts are all alike completes with them when their outcome stands. -/
theorem completes_of_stands {retries : Nat} {delay : Duration} {o : AttemptOutcome}
    (alike : ∀ n, p.attempt net n began = (delay, o))
    (stands : Retry.next? (Retry.maxAttempts retries - 1) o = none) :
    p.Completes net retries began ⟨delay, o⟩ := by
  intro x taken
  cases taken with
  | last n _ => rw [alike]
  | again n retried _ =>
    rw [alike, stands] at retried
    cases retried

theorem completes_scripted {retries : Nat} {tag : String} {delay : Duration} {o : AttemptOutcome}
    (script : p.check = .scripted ⟨tag, delay, [o]⟩)
    (stands : Retry.next? (Retry.maxAttempts retries - 1) o = none) :
    p.Completes net retries began ⟨began.timer delay, o⟩ := by
  have same (n : Nat) : ([o][n]?).getD o = o := by
    cases n <;> rfl
  refine completes_of_stands (fun n => ?_) stands
  rw [attempt, script]
  exact congrArg (began.timer delay, ·) (same n)

end Probe

/-- How a run may end from here on, and when. -/
inductive Run.MayEnd (net : Network) (r : Run) : Instant → AttemptOutcome → Prop where
  | stands (none : Retry.next? r.left r.outcome = none) : r.MayEnd net r.ends r.outcome
  | retried {rest : Nat} {c : Completion} (some : Retry.next? r.left r.outcome = some rest)
      (follows : r.probe.MayTake net rest r.ends c) : r.MayEnd net (r.ends + c.after) c.outcome

theorem Run.exists_mayEnd (net : Network) (r : Run) : ∃ e o, r.MayEnd net e o ∧ r.ends ≤ e := by
  cases again : Retry.next? r.left r.outcome with
  | none => exact ⟨_, _, .stands again, Nat.le_refl _⟩
  | some rest =>
    obtain ⟨c, follows⟩ := r.probe.exists_mayTake net rest r.ends
    exact ⟨_, _, .retried again follows, Nat.le_add_right _ _⟩

/-- All that may become of the run is what the probe may take from `began` on. -/
def Run.Pursues (net : Network) (r : Run) (left : Nat) (began : Instant) : Prop :=
  ∀ e o, r.MayEnd net e o →
    ∃ c, r.probe.MayTake net left began c ∧ e = began + c.after ∧ o = c.outcome

/-- A run from its first attempt on, which is number `n` of the probe's life. -/
theorem Run.pursues_first (net : Network) (p : Probe) (left : Nat) (now : Instant) (n : Nat) :
    Run.Pursues net ⟨p, left, (p.attempt net n now).2, now + (p.attempt net n now).1⟩ left now := by
  intro e o may
  cases may with
  | stands none => exact ⟨_, .last n none, rfl, rfl⟩
  | retried again follows => exact ⟨_, .again n again follows, Duration.add_assoc, rfl⟩

namespace Progress

/-- How far a probe is at `now` that was begun at `began`, with `left` attempts to follow the
first, when it was looked at last `after` its beginning. Of one that is done, this is what it
took. -/
inductive Sound (net : Network) (p : Probe) (left : Nat) (began now : Instant)
    (after : Duration) : Progress → Prop where
  | running {r : Run} (probe : r.probe = p) (ahead : now < r.ends)
      (seen : after = now.since began) (pursues : r.Pursues net left began) :
      Sound net p left began now after (.running r)
  | done {o : AttemptOutcome} (took : p.MayTake net left began ⟨after, o⟩)
      (past : began + after ≤ now) : Sound net p left began now after (.done o)

variable {net : Network} {p : Probe} {left : Nat} {began now : Instant} {after : Duration}
  {s : Progress}

section

variable {r : Run} (pursues : r.Pursues net left began)

include pursues

theorem sound_of_stands (stands : Retry.next? r.left r.outcome = none) :
    (Progress.done r.outcome).Sound net r.probe left began r.ends (r.ends.since began) := by
  obtain ⟨⟨after, outcome⟩, taken, time, rfl⟩ := pursues _ _ (.stands stands)
  have took : r.ends.since began = after := by rw [time, Duration.since_add]
  rw [took]
  exact .done taken (Nat.le_of_eq (Duration.eq_iff.mp time.symm))

/-- What is begun when a run ends that asks for it carries the run on. -/
theorem Sound.of_retried {rest : Nat} (again : Retry.next? r.left r.outcome = some rest)
    (sound : s.Sound net r.probe rest r.ends r.ends .zero) :
    s.Sound net r.probe left began r.ends (r.ends.since began) := by
  cases sound with
  | running probe ahead _ later =>
    refine .running probe ahead rfl fun e o may => ?_
    obtain ⟨c, follows, rfl, rfl⟩ := later e o may
    rw [probe] at follows ⊢
    exact pursues _ _ (.retried again follows)
  | done took =>
    obtain ⟨⟨after, outcome⟩, whole, time, rfl⟩ := pursues _ _ (.retried again took)
    have same : r.ends.since began = after := by
      rw [← Duration.add_zero (a := r.ends), time, Duration.since_add]
    rw [same]
    exact .done whole (Nat.le_of_eq (Duration.eq_iff.mp time.symm))

end

end Progress

namespace Run

variable {net : Network} {p : Probe} {left : Nat} {began now : Instant}

theorem attempt_eq (net : Network) (t : Tally) (p : Probe) (now : Instant) (left : Nat) :
    attempt net t p now left =
      let made := p.attempt net (t.count p.serial) now
      if made.1.isZero then
        match Retry.next? left made.2 with
        | some rest => attempt net (t.add p.serial) p now rest
        | none => (t.add p.serial, .done made.2)
      else (t.add p.serial, .running ⟨p, left, made.2, now + made.1⟩) := by
  rw [attempt]
  dsimp only
  split
  · split <;> rename_i again <;> rw [again]
  · rfl

/-- What is begun is sound right away: attempts that take no time are over, and one that takes
time ends later. -/
theorem sound_attempt (net : Network) (t : Tally) (p : Probe) (now : Instant) (left : Nat) :
    (attempt net t p now left).2.Sound net p left now now .zero := by
  induction left using Nat.strongRecOn generalizing t with
  | ind left ih =>
    have first := Run.pursues_first net p left now (t.count p.serial)
    rw [attempt_eq]
    dsimp only
    split
    · rename_i instantly
      rw [Duration.add_of_isZero instantly] at first
      rw [← Duration.since_self (a := now)]
      split
      · rename_i rest again
        exact (ih rest (Retry.lt_of_next? again) _).of_retried first again
      · rename_i stands
        exact Progress.sound_of_stands first stands
    · rename_i lasting
      exact .running rfl (Duration.lt_add (by simpa using lasting)) Duration.since_self.symm first

/-- A run that is visited when its attempt ends is sound again from then on. -/
theorem sound_resume {r : Run} (t : Tally) (pursues : r.Pursues net left began) :
    (r.resume net r.ends t).2.Sound net r.probe left began r.ends (r.ends.since began) := by
  unfold resume
  split
  · rename_i rest again
    exact (sound_attempt net t r.probe r.ends rest).of_retried pursues again
  · rename_i stands
    exact Progress.sound_of_stands pursues stands

/-- An attempt that follows another one ends later. -/
theorem ahead_resume {r next : Run} {t : Tally} (went : (r.resume net now t).2 = .running next) :
    now < next.ends := by
  unfold resume at went
  split at went
  · rename_i rest _
    have sound := sound_attempt net t r.probe now rest
    rw [went] at sound
    cases sound with
    | running _ ahead => exact ahead
  · cases went

/-- Runs that are visited no later than their attempts end are all still ahead then. -/
theorem ahead_resumeAll (t : Tally) {rs : List Run} (ahead : ∀ r ∈ rs, now ≤ r.ends) :
    ∀ s ∈ (resumeAll net now t rs).2, now ≤ s.ends := by
  induction rs generalizing t with
  | nil => exact List.forall_mem_nil _
  | cons r rs ih =>
    obtain ⟨first, others⟩ := List.forall_mem_cons.mp ahead
    rw [resumeAll]
    split
    · dsimp only
      split
      · rename_i went
        exact List.forall_mem_cons.mpr ⟨Nat.le_of_lt (ahead_resume went), ih _ others⟩
      · exact ih _ others
    · exact List.forall_mem_cons.mpr ⟨first, ih _ others⟩

end Run

/-! ### Attempts that are still owed -/

/-- How many attempts may still end, the one under way with them. -/
def Run.owed (r : Run) : Nat := r.left + 1

def Progress.owed : Progress → Nat
  | .running r => r.owed
  | .done _ => 0

namespace Run

theorem owed_attempt_le (net : Network) (t : Tally) (p : Probe) (now : Instant) (left : Nat) :
    (attempt net t p now left).2.owed ≤ left + 1 := by
  induction left using Nat.strongRecOn generalizing t with
  | ind left ih =>
    rw [attempt_eq]
    dsimp only
    split
    · split
      · rename_i rest again
        have less := Retry.lt_of_next? again
        exact Nat.le_trans (ih rest less _) (Nat.le_succ_of_le less)
      · exact Nat.zero_le _
    · exact Nat.le_refl _

/-- Each visit uses up an attempt. -/
theorem owed_resume_lt (net : Network) (now : Instant) (t : Tally) (r : Run) :
    (r.resume net now t).2.owed < r.owed := by
  unfold resume
  split
  · rename_i rest again
    exact Nat.lt_of_le_of_lt (owed_attempt_le net t r.probe now rest)
      (Nat.succ_lt_succ (Retry.lt_of_next? again))
  · exact Nat.succ_pos _

end Run

end DnsBalancer
