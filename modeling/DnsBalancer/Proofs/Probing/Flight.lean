import DnsBalancer.Proofs.Probing.Attempts
import DnsBalancer.Proofs.Probing.Verdict
import DnsBalancer.Proofs.Traversal

/-!
# A cycle that is visited when something is due

A flight is visited at its start and then at instants before which nothing of it is due, until
it is over. Its report is the verdict over probes that take what they take by themselves, and it
is over just when the time that it reports has passed.
-/
namespace DnsBalancer

namespace Slot

/-- The slot of a probe that was set going at `began`, brought up to date at `now`. -/
structure Sound (net : Network) (p : Probe) (left : Nat) (began now : Instant) (s : Slot) :
    Prop where
  tag : s.tag = p.tag
  progress : s.progress.Sound net p left began now s.after
  ended : s.isDone = true → s.ended = began + s.after

/-- It is not done, or has just been. -/
def Lasts (began now : Instant) (s : Slot) : Prop := s.isDone = false ∨ s.after = now.since began

section

variable {net : Network} {p : Probe} {left : Nat} {began past now : Instant} {limit : Duration}
  {s : Slot}

theorem Sound.resume (sound : s.Sound net p left began past) (started : began ≤ now)
    (later : past ≤ now) (due : ∀ r, s.run? = some r → now ≤ r.ends) (t : Tally) :
    (s.resume net began now t).2.Sound net p left began now := by
  obtain ⟨tag, progress, ended⟩ := sound
  rcases s with ⟨_, _, _, after⟩
  cases progress with
  | @running r probe ahead _ pursues =>
    by_cases ends : r.ends ≤ now
    · have exactly : r.ends = now := Duration.eq_iff.mpr (Nat.le_antisymm ends (due r rfl))
      subst probe exactly
      simp only [Slot.resume, if_pos ends]
      exact ⟨tag, Run.sound_resume t pursues, fun _ => (Duration.add_since started).symm⟩
    · simp only [Slot.resume, if_neg ends]
      exact ⟨tag, .running probe (Nat.not_le.mp ends) rfl pursues,
        fun done => absurd done Bool.false_ne_true⟩
  | done took past => exact ⟨tag, .done took (Nat.le_trans past later), ended⟩

theorem Sound.ahead {r : Run} (sound : s.Sound net p left began now) (run : s.run? = some r) :
    now < r.ends := by
  obtain ⟨_, progress, _⟩ := sound
  rcases s with ⟨_, _, _, _⟩
  cases progress with
  | running _ ahead =>
    cases run
    exact ahead
  | done => cases run

theorem lasts_resume (running : s.isDone = false) (t : Tally) :
    (s.resume net began now t).2.Lasts began now := by
  rcases s with ⟨_, progress, _, _⟩
  cases progress with
  | running r =>
    by_cases ends : r.ends ≤ now
    · simp only [Slot.resume, if_pos ends]
      exact Or.inr rfl
    · simp only [Slot.resume, if_neg ends]
      exact Or.inl rfl
  | done => cases running

/-- A slot that is done, or that is cut off now, is judged as what its probe takes by itself. -/
theorem Sound.exists_completion (sound : s.Sound net p left began now)
    (finished : s.isDone = true ∨ began + limit ≤ now) (inTime : now ≤ began + limit) :
    ∃ c, p.MayTake net left began c ∧ s.completion (began + limit) = c.cut limit ∧
      c.after.shorter limit ≤ now.since began ∧
      (s.Lasts began now → c.after.shorter limit = now.since began) := by
  obtain ⟨tag, progress, ended⟩ := sound
  rcases s with ⟨_, _, ends, after⟩
  cases progress with
  | @running r probe ahead seen pursues =>
    subst probe
    have cut := finished.resolve_left Bool.false_ne_true
    have exactly : after = limit := by
      change after = now.since began at seen
      rw [seen, Duration.eq_iff.mpr (Nat.le_antisymm inTime cut), Duration.since_add]
    obtain ⟨_, _, may, later⟩ := r.exists_mayEnd net
    obtain ⟨c, taken, rfl, rfl⟩ := pursues _ _ may
    have late : limit ≤ c.after := by
      simp only [Duration.lt_iff, Duration.le_iff, Duration.nanos_add] at ahead later cut ⊢
      omega
    have whole : c.after.shorter limit = now.since began := by
      rw [Duration.shorter_eq_right late, ← exactly, ← seen]
    refine ⟨c, taken, ?_, Nat.le_of_eq (congrArg Duration.nanos whole), fun _ => whole⟩
    rw [c.cut_of_le late, ← exactly]
    rfl
  | @done o took past =>
    replace ended : ends = began + after := ended rfl
    refine ⟨⟨after, o⟩, took, ?_, ?_⟩
    · have punctual : ends < began + limit ↔ after < limit := by
        rw [ended]
        exact Nat.add_lt_add_iff_left
      by_cases quick : after < limit
      · simp only [completion, Completion.cut, if_pos quick, if_pos (punctual.mpr quick)]
      · have within : after ≤ limit := Nat.le_of_add_le_add_left (Nat.le_trans past inTime)
        have exactly := Duration.eq_iff.mpr (Nat.le_antisymm within (Nat.not_lt.mp quick))
        simp only [completion, Completion.cut, if_neg quick, if_neg (mt punctual.mp quick)]
        rw [exactly]
    · simp only [Duration.le_iff, Duration.eq_iff, Duration.nanos_add, Duration.nanos_since,
        Duration.nanos_shorter] at past inTime ⊢
      refine ⟨by omega, fun lasts => ?_⟩
      have exactly := Duration.eq_iff.mp (lasts.resolve_left (Ne.symm Bool.false_ne_true))
      simp only [Duration.nanos_since] at exactly
      omega

end

variable {net : Network} {probes : List Probe} {left : Nat} {began past now : Instant}
  {limit : Duration} {slots : List Slot}

theorem sound_startAll (net : Network) (now : Instant) (retries : Nat) (t : Tally)
    (probes : List Probe) :
    List.Forall₂ (Sound net · (Retry.maxAttempts retries - 1) now now) probes
        (startAll net now retries t probes).2 ∧
      ∀ s ∈ (startAll net now retries t probes).2, s.Lasts now now := by
  induction probes generalizing t with
  | nil => exact ⟨.nil, List.forall_mem_nil _⟩
  | cons p ps ih =>
    obtain ⟨sound, lasts⟩ := ih (Run.attempt net t p now (Retry.maxAttempts retries - 1)).1
    exact ⟨.cons ⟨rfl, Run.sound_attempt net t p now _, fun _ => rfl⟩ sound,
      List.forall_mem_cons.mpr ⟨Or.inr Duration.since_self.symm, lasts⟩⟩

theorem sound_resumeAll (sound : List.Forall₂ (Sound net · left began past) probes slots)
    (started : began ≤ now) (later : past ≤ now)
    (due : ∀ s ∈ slots, ∀ r, s.run? = some r → now ≤ r.ends) (t : Tally) :
    List.Forall₂ (Sound net · left began now) probes (resumeAll net began now t slots).2 := by
  induction sound generalizing t with
  | nil => exact .nil
  | cons first rest ih =>
    obtain ⟨own, others⟩ := List.forall_mem_cons.mp due
    exact .cons (first.resume started later own t) (ih others _)

theorem exists_lasts_resumeAll (running : ∃ s ∈ slots, s.isDone = false) (t : Tally) :
    ∃ s ∈ (resumeAll net began now t slots).2, s.Lasts began now := by
  induction slots generalizing t with
  | nil => simp at running
  | cons s ss ih =>
    obtain ⟨x, member, notDone⟩ := running
    rcases List.mem_cons.mp member with rfl | member
    · exact ⟨_, List.mem_cons_self, lasts_resume notDone t⟩
    · obtain ⟨y, present, lasts⟩ := ih ⟨x, member, notDone⟩ (s.resume net began now t).1
      exact ⟨y, List.mem_cons_of_mem _ present, lasts⟩

theorem exists_completions (sound : List.Forall₂ (Sound net · left began now) probes slots)
    (finished : (∀ s ∈ slots, s.isDone = true) ∨ began + limit ≤ now)
    (inTime : now ≤ began + limit) :
    ∃ cs, List.Forall₂ (·.MayTake net left began ·) probes cs ∧
      (slots.map fun s => (s.tag, s.completion (began + limit))) =
        CycleReport.judged limit probes cs ∧
      (∀ c ∈ cs, c.after.shorter limit ≤ now.since began) ∧
      ((∃ s ∈ slots, s.Lasts began now) →
        ∃ c ∈ cs, c.after.shorter limit = now.since began) := by
  induction sound with
  | nil => exact ⟨[], .nil, rfl, List.forall_mem_nil _, by simp⟩
  | @cons p s ps ss first rest ih =>
    have each := finished.imp_left List.forall_mem_cons.mp
    obtain ⟨c, taken, same, within, reached⟩ :=
      first.exists_completion (each.imp_left And.left) inTime
    obtain ⟨cs, others, results, below, attained⟩ := ih (each.imp_left And.right)
    refine ⟨c :: cs, .cons taken others, ?_, List.forall_mem_cons.mpr ⟨within, below⟩, ?_⟩
    · rw [List.map_cons, results, same, first.tag]
      rfl
    · rintro ⟨x, member, lasts⟩
      rcases List.mem_cons.mp member with rfl | member
      · exact ⟨c, List.mem_cons_self, reached lasts⟩
      · obtain ⟨y, present, exactly⟩ := attained ⟨x, member, lasts⟩
        exact ⟨y, List.mem_cons_of_mem _ present, exactly⟩

end Slot

/-- The report of a cycle in which each probe takes what it may take by itself. -/
def CycleReport.Fits (net : Network) (r : CycleReport) (probes : List Probe) (retries : Nat)
    (began : Instant) (limit : Duration) : Prop :=
  ∃ cs, List.Forall₂ (·.MayTake net (Retry.maxAttempts retries - 1) began ·) probes cs ∧
    r.Judges limit probes cs

/-- Where each probe can complete in one way only, the report is the verdict over these. -/
theorem CycleReport.Fits.judges {net : Network} {r : CycleReport} {probes : List Probe}
    {retries : Nat} {began : Instant} {limit : Duration} {cs : List Completion}
    (fits : r.Fits net probes retries began limit)
    (complete : List.Forall₂ (·.Completes net retries began ·) probes cs) :
    r.Judges limit probes cs := by
  obtain ⟨taken, may, judges⟩ := fits
  have same : taken = cs := by
    clear judges
    induction complete generalizing taken with
    | nil =>
      cases may
      rfl
    | cons first _ ih =>
      cases may with
      | cons own others => rw [first _ own, ih _ others]
  exact same ▸ judges

namespace Flight

/-- A flight that was begun with these probes, brought up to date at `now`. -/
structure Sound (net : Network) (probes : List Probe) (retries : Nat) (limit : Duration)
    (now : Instant) (f : Flight) : Prop where
  slots : List.Forall₂ (Slot.Sound net · (Retry.maxAttempts retries - 1) f.began now) probes f.slots
  deadline : f.deadline = f.began + limit
  later : f.began ≤ now
  /-- Not all of its probes were done before, and the deadline had not passed. -/
  inTime : now ≤ f.deadline
  lasts : f.slots = [] ∧ now = f.began ∨ ∃ s ∈ f.slots, s.Lasts f.began now

variable {net : Network} {probes : List Probe} {retries : Nat} {limit : Duration}
  {past now : Instant} {f : Flight}

theorem sound_start (net : Network) (b : Backend) (retries : Nat) (cutoff : Duration)
    (now : Instant) (t : Tally) :
    (start net b retries cutoff now t).2.2.Sound net b.probes retries (now.timer cutoff) now := by
  obtain ⟨sound, lasts⟩ := Slot.sound_startAll net now retries t b.probes
  refine ⟨sound, Duration.add_timer.symm, Nat.le_refl _, ?_, ?_⟩
  · exact Nat.le_trans (Nat.le_add_right _ _) (Duration.le_nextMilli (now + cutoff))
  · cases started : (Slot.startAll net now retries t b.probes).2 with
    | nil => exact Or.inl ⟨started, rfl⟩
    | cons s ss =>
      have first : s ∈ (Slot.startAll net now retries t b.probes).2 :=
        started ▸ List.mem_cons_self
      exact Or.inr ⟨s, first, lasts s first⟩

theorem exists_running (notOver : f.isOver now = false) : ∃ s ∈ f.slots, s.isDone = false := by
  simp only [isOver, Bool.or_eq_false_iff] at notOver
  simpa using notOver.2

theorem Sound.resume (sound : f.Sound net probes retries limit past) (later : past ≤ now)
    (notOver : f.isOver past = false) (due : ∀ i ∈ f.due, now ≤ i) (t : Tally) :
    (f.resume net now t).2.Sound net probes retries limit now := by
  obtain ⟨deadline, runs⟩ := List.forall_mem_cons.mp due
  have started := Nat.le_trans sound.later later
  refine ⟨?_, sound.deadline, started, deadline, ?_⟩
  · refine Slot.sound_resumeAll sound.slots started later (fun s member r run => ?_) t
    exact runs _ (List.mem_map_of_mem (List.mem_filterMap.mpr ⟨s, member, run⟩))
  · exact Or.inr (Slot.exists_lasts_resumeAll (exists_running notOver) t)

theorem Sound.ahead (sound : f.Sound net probes retries limit now) :
    ∀ s ∈ f.strays, now < s.ends := by
  intro s stray
  obtain ⟨slot, member, run⟩ := List.mem_filterMap.mp stray
  obtain ⟨_, _, own⟩ := exists_of_forall₂ sound.slots member
  exact own.ahead run

/-- A flight that is over reports what its probes took, and took the time it reports. -/
theorem Sound.fits_report (sound : f.Sound net probes retries limit now)
    (finished : f.isOver now = true) :
    f.report.Fits net probes retries f.began limit ∧
      now = f.began + f.report.responseTime := by
  have ended : (∀ s ∈ f.slots, s.isDone = true) ∨ f.began + limit ≤ now := by
    rw [← sound.deadline]
    simpa [isOver, or_comm] using finished
  obtain ⟨cs, taken, results, within, attained⟩ :=
    Slot.exists_completions sound.slots ended (sound.deadline ▸ sound.inTime)
  have judges : f.report.Judges limit probes cs := by
    rw [report, Flight.results, sound.deadline, results]
    exact CycleReport.judges_ofJudged taken.length_eq
  have lasted : f.report.responseTime = now.since f.began := by
    refine judges.responseTime_eq _ within ?_
    rcases sound.lasts with ⟨none, same⟩ | lasts
    · have slots := sound.slots
      rw [none] at slots
      cases slots
      cases taken
      exact Or.inl ⟨rfl, by rw [same, Duration.since_self]⟩
    · exact Or.inr (attained lasts)
  exact ⟨⟨cs, taken, judges⟩, by rw [lasted, Duration.add_since sound.later]⟩

/-- A finding is taken over when the cycle is later than the one whose finding is held. -/
theorem backend_land (f : Flight) (at' : Timestamp) (b : Backend) (m : Metrics) :
    (f.land at' b m).applied = decide (b.applied < f.cycle) ∧
      (f.land at' b m).backend = if b.applied < f.cycle then
        { b with
          health := ⟨f.report.alive, f.report.responseTime, some at'⟩
          applied := f.cycle }
      else b := by
  unfold land Backend.recordCycle
  by_cases late : f.cycle ≤ b.applied
  · simp [late, Nat.not_lt.mpr late]
  · simp [late, Nat.not_le.mp late]

theorem report_land (f : Flight) (at' : Timestamp) (b : Backend) (m : Metrics) :
    (f.land at' b m).report = f.report := by
  unfold land
  dsimp only
  split <;> rfl

theorem definition_land (f : Flight) (at' : Timestamp) (b : Backend) (m : Metrics) :
    (f.land at' b m).backend.definition = b.definition := by
  rw [(f.backend_land at' b m).2]
  split <;> rfl

theorem begun_land (f : Flight) (at' : Timestamp) (b : Backend) (m : Metrics) :
    (f.land at' b m).backend.begun = b.begun := by
  rw [(f.backend_land at' b m).2]
  split <;> rfl

end Flight

end DnsBalancer
