import DnsBalancer.Proofs.Probing.Steps
import Mathlib.Data.List.Nodup

/-!
# Verdicts of overlapping cycles

Cycles of one backend are launched at any times and with any cutoffs, and overlap. Each of them
ends with the verdict over its own probes, at its start and the time it reports, and its finding
is the one held from then on unless a later cycle has ended before.
-/
namespace DnsBalancer

/-! ### What is held after some arrivals -/

def Arrival.finding (at' : Timestamp) (a : Arrival) : Health :=
  ⟨a.report.alive, a.report.responseTime, some at'⟩

/-- The backend after these arrivals; `cycle` gives the numbers that the launches got. -/
structure Backend.Holds (b : Backend) (at' : Timestamp) (cycle : Nat → Nat)
    (arrivals : List Arrival) (x : Backend) : Prop where
  below : ∀ n, x.applied < n ↔
    b.applied < n ∧ ∀ e ∈ arrivals, e.applied = true → cycle e.launch < n
  health : x.health =
    ((arrivals.filter (·.applied)).getLast?.map (·.finding at')).getD b.health
  /-- A finding is taken over when none of a later cycle was before. -/
  verdicts : ∀ past a, past ++ [a] <+: arrivals → (a.applied = true ↔
    b.applied < cycle a.launch ∧ ∀ e ∈ past, e.applied = true → cycle e.launch < cycle a.launch)

namespace Backend

variable {b x : Backend} {at' : Timestamp} {cycle : Nat → Nat} {arrivals : List Arrival}

theorem holds_nil (b : Backend) (at' : Timestamp) (cycle : Nat → Nat) :
    b.Holds at' cycle [] b :=
  ⟨by simp, rfl, by simp⟩

theorem Holds.concat (holds : b.Holds at' cycle arrivals x) {n : Nat} {f : Flight}
    (own : f.cycle = cycle n) (now : Instant) (m : Metrics) :
    b.Holds at' cycle
      (arrivals ++ [⟨n, now, (f.land at' x m).report, (f.land at' x m).applied⟩])
      (f.land at' x m).backend := by
  obtain ⟨applied, backend⟩ := f.backend_land at' x m
  have verdict := holds.below (cycle n)
  rw [own] at applied backend
  rw [f.report_land]
  refine ⟨fun k => ?_, ?_, fun past a before => ?_⟩
  · by_cases newer : x.applied < cycle n
    · simp only [backend, if_pos newer, applied, decide_eq_true newer, List.forall_mem_append,
        List.forall_mem_singleton, forall_const]
      refine ⟨fun below => ?_, fun below => below.2.2⟩
      obtain ⟨first, others⟩ := (holds.below k).mp (Nat.lt_trans newer below)
      exact ⟨first, others, below⟩
    · simp only [backend, if_neg newer, applied, decide_eq_false newer, List.forall_mem_append,
        List.forall_mem_singleton, Bool.false_eq_true, false_implies, and_true]
      exact holds.below k
  · by_cases newer : x.applied < cycle n
    · simp [backend, newer, applied, Arrival.finding, List.filter_append]
    · simp [backend, newer, applied, holds.health, List.filter_append]
  · rcases List.prefix_concat_iff.mp before with all | earlier
    · obtain ⟨rfl, last⟩ := List.append_inj' all rfl
      obtain rfl := List.singleton_inj.mp last
      rw [applied, decide_eq_true_iff]
      exact verdict
    · exact holds.verdicts past a earlier

end Backend

namespace Rehearsal

/-- Launches by their number, in the order in which they wait and begin. -/
def plan (launches : List Launch) : List (Nat × Launch) :=
  ((List.range launches.length).zip launches).mergeSort
    fun a b => decide (a.2.start ≤ b.2.start)

/-- The number that the cycle of a launch gets. -/
def cycle (b : Backend) (plan : List (Nat × Launch)) (n : Nat) : Nat :=
  b.begun + 1 + (plan.map Prod.fst).idxOf n

section

variable {launches : List Launch} {n : Nat} {l : Launch}

theorem plan_sorted (launches : List Launch) :
    (plan launches).Pairwise fun l m => l.2.start ≤ m.2.start := by
  let before (a b : Nat × Launch) : Bool := decide (a.2.start ≤ b.2.start)
  have trans (a b c) (first : before a b = true) (second : before b c = true) :
      before a c = true :=
    decide_eq_true (Nat.le_trans (of_decide_eq_true first) (of_decide_eq_true second))
  have total (a b) : (before a b || before b a) = true := by
    simpa [before] using Duration.le_total a.2.start b.2.start
  have sorted := List.pairwise_mergeSort trans total ((List.range launches.length).zip launches)
  exact sorted.imp of_decide_eq_true

theorem plan_perm (launches : List Launch) :
    ((plan launches).map Prod.fst).Perm (List.range launches.length) := by
  have sorted := (List.mergeSort_perm ((List.range launches.length).zip launches)
    fun a b => decide (a.2.start ≤ b.2.start)).map Prod.fst
  rwa [List.map_fst_zip (by simp)] at sorted

theorem getElem?_of_mem_plan (member : (n, l) ∈ plan launches) : launches[n]? = some l := by
  have paired := List.mem_mergeSort.mp member
  obtain ⟨i, placed⟩ := List.mem_iff_getElem?.mp paired
  obtain ⟨number, launch⟩ := List.getElem?_zip_eq_some.mp placed
  obtain ⟨_, rfl⟩ := List.getElem?_eq_some_iff.mp number
  rwa [List.getElem_range]

theorem cycle_of_split {b : Backend} {begun rest : List (Nat × Launch)}
    (distinct : ((begun ++ (n, l) :: rest).map Prod.fst).Nodup) :
    cycle b (begun ++ (n, l) :: rest) n = b.begun + 1 + begun.length := by
  rw [List.map_append, List.map_cons] at distinct
  have fresh : n ∉ begun.map Prod.fst := fun member =>
    List.disjoint_of_nodup_append distinct member List.mem_cons_self
  rw [cycle, List.map_append, List.map_cons, List.idxOf_append_of_notMem fresh,
    List.length_map, List.idxOf_cons_self]
  rfl

end

/-- The numbers are given out one by one. -/
theorem map_cycle_plan (b : Backend) (launches : List Launch) :
    ((plan launches).map fun l => cycle b (plan launches) l.1) =
      List.range' (b.begun + 1) launches.length := by
  have distinct : ((plan launches).map Prod.fst).Nodup :=
    (plan_perm launches).nodup_iff.mpr List.nodup_range
  have length : (plan launches).length = launches.length := by
    simpa using (plan_perm launches).length_eq
  refine List.ext_getElem (by simp [length]) fun i inside _ => ?_
  have placed : i < (plan launches).length := by simpa using inside
  have place : ((plan launches).map Prod.fst).get ⟨i, by simpa using inside⟩ =
      (plan launches)[i].1 := List.getElem_map _
  rw [List.getElem_map, List.getElem_range', cycle, ← place, List.get_eq_getElem,
    distinct.idxOf_getElem, Nat.one_mul]

/-! ### What every instant leaves -/

/-- A rehearsal of the plan as it is at `now`. Of each launch that has begun there is a flight or
an arrival; nothing that is still to come was due before. -/
structure Sound (net : Network) (b : Backend) (at' : Timestamp) (plan : List (Nat × Launch))
    (now : Instant) (r : Rehearsal) : Prop where
  network : r.network = net
  definition : r.backend.definition = b.definition
  begun : ∃ begun, plan = begun ++ r.waiting ∧ r.backend.begun = b.begun + begun.length ∧
    (r.flying.map Prod.fst ++ r.arrivals.map (·.launch)).Perm (begun.map Prod.fst)
  flying : ∀ x ∈ r.flying, x.2.cycle = cycle b plan x.1 ∧ ∃ l, (x.1, l) ∈ plan ∧
    x.2.began = l.start ∧ x.2.Sound net b.probes l.retries (l.start.timer l.cutoff) now
  arrived : ∀ a ∈ r.arrivals, ∃ l, (a.launch, l) ∈ plan ∧
    a.report.Fits net b.probes l.retries l.start (l.start.timer l.cutoff) ∧
    a.doneAt = l.start + a.report.responseTime
  holds : b.Holds at' (cycle b plan) r.arrivals r.backend
  waiting : ∀ l ∈ r.waiting, now ≤ l.2.start
  strays : ∀ s ∈ r.strays, now ≤ s.ends

section

variable {net : Network} {b : Backend} {at' : Timestamp} {plan : List (Nat × Launch)}
  {past now : Instant} {r r' : Rehearsal}

theorem Sound.step (sound : r.Sound net b at' plan now) (distinct : (plan.map Prod.fst).Nodup)
    (step : Step at' now r r') : r'.Sound net b at' plan now := by
  obtain ⟨begun, split, numbers, accounted⟩ := sound.begun
  cases step with
  | @begins n l rest waiting due =>
    rw [waiting] at split
    have member : (n, l) ∈ plan := split ▸ List.mem_append_right _ List.mem_cons_self
    have number : cycle b plan n = r.backend.begun + 1 := by
      subst split
      rw [cycle_of_split distinct, numbers, Nat.add_right_comm]
    have ahead : now ≤ l.start := sound.waiting (n, l) (waiting ▸ List.mem_cons_self)
    obtain rfl : now = l.start := Duration.eq_iff.mpr (Nat.le_antisymm ahead due)
    obtain rfl := sound.network
    have flight := Flight.sound_start r.network r.backend l.retries l.cutoff l.start r.tally
    have probes : r.backend.probes = b.probes :=
      congrArg BackendDefinition.probes sound.definition
    refine ⟨sound.network, sound.definition, ⟨begun ++ [(n, l)], ?_, ?_, ?_⟩, ?_, sound.arrived,
      ⟨sound.holds.below, sound.holds.health, sound.holds.verdicts⟩, ?_, sound.strays⟩
    · rw [split, List.append_assoc]
      rfl
    · rw [List.length_append, ← Nat.add_assoc, ← numbers]
      rfl
    · simp only [launch, List.map_append, List.map_cons, List.map_nil, List.append_assoc]
      refine (List.Perm.append_left _ List.perm_append_comm).trans ?_
      rw [← List.append_assoc]
      exact accounted.append_right _
    · intro x flies
      rcases List.mem_append.mp flies with before | new
      · exact sound.flying x before
      · rw [List.mem_singleton.mp new]
        rw [probes] at flight
        exact ⟨number.symm, l, member, rfl, flight⟩
    · intro m later
      exact sound.waiting m (waiting ▸ List.mem_cons_of_mem _ later)
  | @lands before after n f flying finished =>
    obtain ⟨own, l, member, began, flight⟩ := sound.flying (n, f) (by simp [flying])
    obtain ⟨fits, time⟩ := flight.fits_report finished
    rw [began] at fits time
    refine ⟨sound.network, (f.definition_land at' _ _).trans sound.definition,
      ⟨begun, split, ?_, ?_⟩, ?_, ?_, sound.holds.concat own now r.metrics, sound.waiting, ?_⟩
    · exact (f.begun_land at' _ _).trans numbers
    · refine List.Perm.trans ?_ accounted
      rw [flying]
      simp only [land, List.map_append, List.map_cons, List.map_nil]
      rw [← List.append_assoc]
      exact (List.perm_append_singleton n _).trans (List.perm_middle.symm.append_right _)
    · intro x flies
      refine sound.flying x ?_
      rw [flying]
      rcases List.mem_append.mp flies with first | last
      · exact List.mem_append_left _ first
      · exact List.mem_append_right _ (List.mem_cons_of_mem _ last)
    · intro a arrives
      rcases List.mem_append.mp arrives with before | last
      · exact sound.arrived a before
      · rw [List.mem_singleton.mp last, f.report_land]
        exact ⟨l, member, fits, time⟩
    · intro s stray
      rcases List.mem_append.mp stray with before | left
      · exact sound.strays s before
      · exact Nat.le_of_lt (flight.ahead s left)

theorem Sound.sorted (sound : r.Sound net b at' plan now)
    (sorted : plan.Pairwise fun l m => l.2.start ≤ m.2.start) :
    r.waiting.Pairwise fun l m => l.2.start ≤ m.2.start := by
  obtain ⟨begun, split, _⟩ := sound.begun
  exact (List.pairwise_append.mp (split ▸ sorted)).2.1

theorem Sound.steps (sound : r.Sound net b at' plan now) (distinct : (plan.map Prod.fst).Nodup)
    (steps : Relation.ReflTransGen (Step at' now) r r') : r'.Sound net b at' plan now := by
  induction steps with
  | refl => exact sound
  | tail _ step ih => exact ih.step distinct step

theorem Sound.due (sound : r.Sound net b at' plan past) : ∀ i ∈ r.dues, past ≤ i := by
  intro i due
  simp only [dues, List.mem_append, List.mem_map, List.mem_flatMap] at due
  rcases due with (⟨l, member, rfl⟩ | ⟨x, member, due⟩) | ⟨s, member, rfl⟩
  · exact sound.waiting l member
  · obtain ⟨_, _, _, _, flight⟩ := sound.flying x member
    rcases List.mem_cons.mp due with rfl | ended
    · exact flight.inTime
    · obtain ⟨s, stray, rfl⟩ := List.mem_map.mp ended
      exact Nat.le_of_lt (flight.ahead s stray)
  · exact sound.strays s member

/-- Nothing is overlooked when the clock goes to the next instant at which something is due. -/
theorem Sound.advance (sound : r.Sound net b at' plan past)
    (notOver : ∀ x ∈ r.flying, x.2.isOver past = false) (next : r.nextDue? = some now) :
    (r.advance now).Sound net b at' plan now := by
  obtain ⟨due, least⟩ := nextDue?_eq_some next
  have later := sound.due now due
  have each :=
    resumeFlights_each r.network now (Run.resumeAll r.network now r.tally r.strays).1 r.flying
  change List.Forall₂ _ r.flying (r.advance now).flying at each
  obtain ⟨begun, split, numbers, accounted⟩ := sound.begun
  refine ⟨sound.network, sound.definition, ⟨begun, split, numbers, ?_⟩, ?_, sound.arrived,
    sound.holds, ?_, ?_⟩
  · have numbered : List.Forall₂ (· = ·) (r.flying.map Prod.fst)
        ((r.advance now).flying.map Prod.fst) := by
      rw [List.forall₂_map_left_iff, List.forall₂_map_right_iff]
      exact each.imp fun _ _ own => own.1.symm
    rw [List.forall₂_eq_eq_eq] at numbered
    rw [← numbered]
    exact accounted
  · intro y flies
    obtain ⟨x, member, same, t, resumed⟩ := exists_of_forall₂ each flies
    obtain ⟨own, l, planned, began, flight⟩ := sound.flying x member
    rw [same, resumed, sound.network]
    refine ⟨own, l, planned, began, flight.resume later (notOver x member) (fun i own => ?_) t⟩
    exact least i (List.mem_append_left _ (List.mem_append_right _
      (List.mem_flatMap.mpr ⟨x, member, own⟩)))
  · intro l member
    exact least _ (List.mem_append_left _ (List.mem_append_left _ (List.mem_map_of_mem member)))
  · refine Run.ahead_resumeAll r.tally fun s member => least _ ?_
    exact List.mem_append_right _ (List.mem_map_of_mem member)

theorem Sound.settle (sound : r.Sound net b at' plan past)
    (sorted : plan.Pairwise fun l m => l.2.start ≤ m.2.start)
    (distinct : (plan.map Prod.fst).Nodup)
    (notOver : ∀ x ∈ r.flying, x.2.isOver past = false) (next : r.nextDue? = some now) :
    (r.settle at' now).Sound net b at' plan now ∧
      ∀ x ∈ (r.settle at' now).flying, x.2.isOver now = false := by
  obtain ⟨landed, _⟩ := steps_landAll at' now (r.advance now)
  have first := (sound.advance notOver next).steps distinct landed
  obtain ⟨begun, _⟩ := steps_startDue at' now (first.sorted sorted)
  have second := first.steps distinct begun
  obtain ⟨last, flying, _⟩ :=
    steps_landAll at' now (startDue now (landAll now at' (r.advance now)))
  rw [settle_eq]
  refine ⟨second.steps distinct last, fun x member => ?_⟩
  rw [flying] at member
  simpa using (List.mem_filter.mp member).2

/-- The clock runs until nothing is due any more. -/
theorem Sound.runFor {fuel : Nat} (sound : r.Sound net b at' plan past)
    (sorted : plan.Pairwise fun l m => l.2.start ≤ m.2.start)
    (distinct : (plan.map Prod.fst).Nodup)
    (notOver : ∀ x ∈ r.flying, x.2.isOver past = false) (enough : r.potential ≤ fuel) :
    ∃ now, (Rehearsal.runFor at' fuel r).Sound net b at' plan now ∧
      (Rehearsal.runFor at' fuel r).dues = [] := by
  induction fuel generalizing r past with
  | zero =>
    refine ⟨past, sound, dues_of_nextDue? ?_⟩
    by_contra some
    obtain ⟨now, next⟩ := Option.ne_none_iff_exists'.mp some
    have less := potential_settle_lt at' (sound.sorted sorted) next
    omega
  | succ fuel ih =>
    rw [Rehearsal.runFor]
    split
    · rename_i now next
      obtain ⟨settled, under⟩ := sound.settle sorted distinct notOver next
      have less := potential_settle_lt at' (sound.sorted sorted) next
      exact ih settled under (by omega)
    · rename_i none
      exact ⟨past, sound, dues_of_nextDue? none⟩

end

/-- At its end a rehearsal is sound, and every launch has arrived. -/
theorem sound_run (net : Network) (b : Backend) (at' : Timestamp) (launches : List Launch) :
    let r := (ofLaunches b launches net).run at'
    (∃ now, r.Sound net b at' (plan launches) now) ∧
      r.backend.begun = b.begun + launches.length ∧
      (r.arrivals.map (·.launch)).Perm (List.range launches.length) := by
  intro r
  have distinct : ((plan launches).map Prod.fst).Nodup :=
    (plan_perm launches).nodup_iff.mpr List.nodup_range
  have first : (ofLaunches b launches net).Sound net b at' (plan launches) .zero :=
    ⟨rfl, rfl, ⟨[], rfl, rfl, .nil⟩, List.forall_mem_nil _, List.forall_mem_nil _,
      b.holds_nil at' _, fun _ _ => Nat.zero_le _, List.forall_mem_nil _⟩
  obtain ⟨now, sound, nothing⟩ := first.runFor (plan_sorted launches) distinct
    (List.forall_mem_nil _) (Nat.le_refl (ofLaunches b launches net).instants)
  change r.Sound net b at' (plan launches) now at sound
  change r.dues = [] at nothing
  obtain ⟨some, _⟩ := List.append_eq_nil_iff.mp nothing
  obtain ⟨waiting, flying⟩ := List.append_eq_nil_iff.mp some
  rw [List.map_eq_nil_iff] at waiting
  have landed : r.flying = [] := List.eq_nil_iff_forall_not_mem.mpr fun x flies =>
    List.cons_ne_nil _ _ (List.flatMap_eq_nil_iff.mp flying x flies)
  obtain ⟨begun, split, numbers, accounted⟩ := sound.begun
  rw [waiting, List.append_nil] at split
  rw [landed, ← split, List.map_nil, List.nil_append] at accounted
  refine ⟨⟨now, sound⟩, ?_, accounted.trans (plan_perm launches)⟩
  have length := (plan_perm launches).length_eq
  rw [List.length_map, List.length_range] at length
  rw [numbers, ← split, length]

/-- However cycles are launched and overlap, and whatever the network gives, each of them takes
one number, in the order of their starts, and arrives once. Its report is the verdict over probes
that take what they may take by themselves from its start, up to the cutoff as the timer keeps
it, and comes when the time it reports has passed since its start. It is applied just when no
finding of a later cycle was before, and the backend holds the last finding that was applied. -/
theorem run_verdicts (net : Network) (b : Backend) (at' : Timestamp) (launches : List Launch) :
    let r := (ofLaunches b launches net).run at'
    let number := cycle b (plan launches)
    (((plan launches).map fun l => number l.1) = List.range' (b.begun + 1) launches.length ∧
      (plan launches).Pairwise fun l m => l.2.start ≤ m.2.start) ∧
    r.backend.begun = b.begun + launches.length ∧
    (r.arrivals.map (·.launch)).Perm (List.range launches.length) ∧
    (∀ a ∈ r.arrivals, ∃ l, launches[a.launch]? = some l ∧
      (∃ cs, List.Forall₂
          (·.MayTake net (Retry.maxAttempts l.retries - 1) l.start ·) b.probes cs ∧
        a.report.Judges (l.start.timer l.cutoff) b.probes cs) ∧
      (∀ cs, List.Forall₂ (·.Completes net l.retries l.start ·) b.probes cs →
        a.report.Judges (l.start.timer l.cutoff) b.probes cs) ∧
      a.doneAt = l.start + a.report.responseTime) ∧
    (∀ past a, past ++ [a] <+: r.arrivals → (a.applied = true ↔
      b.applied < number a.launch ∧
        ∀ e ∈ past, e.applied = true → number e.launch < number a.launch)) ∧
    r.backend.health =
      ((r.arrivals.filter (·.applied)).getLast?.map (·.finding at')).getD b.health := by
  intro r number
  obtain ⟨⟨now, sound⟩, numbers, accounted⟩ := sound_run net b at' launches
  refine ⟨⟨map_cycle_plan b launches, plan_sorted launches⟩, numbers, accounted, ?_,
    sound.holds.verdicts, sound.holds.health⟩
  intro a arrives
  obtain ⟨l, planned, fits, time⟩ := sound.arrived a arrives
  exact ⟨l, getElem?_of_mem_plan planned, fits, fun _ => fits.judges, time⟩

/-- A backend with a probe that passes at once, one that crashes after 2 ms, one that passes
after 5 ms, and one that connects to a port. -/
def mixedUp : Backend where
  record := "a.example.org."
  definition :=
    { address := .v4 0x0a000001#32
      probes := [
        { check := .scripted ⟨"quick", .zero, [.passed]⟩ },
        { check := .scripted ⟨"frail", .ofMillis 2, [.failed .crashed]⟩ },
        { check := .scripted ⟨"slow", .ofMillis 5, [.passed]⟩ },
        { check := .tcp ⟨5432, none⟩ (.ofSeconds 1) }] }

/-- It connects after 2.3 ms. -/
def briskly : Network := fun _ _ _ _ => .comes ⟨2300000⟩ .passed

/-- What its probes take in a cycle that begins then. -/
def mixedUpTakes (began : Instant) : List Completion :=
  [⟨began.timer .zero, .passed⟩, ⟨began.timer (.ofMillis 2), .failed .crashed⟩,
    ⟨began.timer (.ofMillis 5), .passed⟩, ⟨⟨2300000⟩, .passed⟩]

theorem completes_mixedUp (began : Instant) (connects : ⟨2300000⟩ ≤ began.timer (.ofSeconds 1)) :
    List.Forall₂ (·.Completes briskly 3 began ·) mixedUp.probes (mixedUpTakes began) := by
  have quick : Probe.Completes briskly { check := .scripted ⟨"quick", .zero, [.passed]⟩ } 3
      began ⟨began.timer .zero, .passed⟩ := Probe.completes_scripted rfl (by decide)
  have frail : Probe.Completes briskly
      { check := .scripted ⟨"frail", .ofMillis 2, [.failed .crashed]⟩ } 3
      began ⟨began.timer (.ofMillis 2), .failed .crashed⟩ :=
    Probe.completes_scripted rfl (by decide)
  have slow : Probe.Completes briskly { check := .scripted ⟨"slow", .ofMillis 5, [.passed]⟩ } 3
      began ⟨began.timer (.ofMillis 5), .passed⟩ := Probe.completes_scripted rfl (by decide)
  have port : Probe.Completes briskly { check := .tcp ⟨5432, none⟩ (.ofSeconds 1) } 3
      began ⟨⟨2300000⟩, .passed⟩ :=
    Probe.completes_of_stands (fun _ => if_pos connects) (by decide)
  exact .cons quick (.cons frail (.cons slow (.cons port .nil)))

/-- From 0.4 ms on the timer for 4 ms takes 4.6 ms. -/
theorem run_verdicts_mixedUp :
    let r := (ofLaunches mixedUp [⟨⟨400000⟩, .ofMillis 4, 3⟩] briskly).run ⟨0⟩
    List.Forall₂ (·.Completes briskly 3 ⟨400000⟩ ·) mixedUp.probes (mixedUpTakes ⟨400000⟩) ∧
    ∃ a ∈ r.arrivals, a.report.alive = false ∧
      a.report.failures = [("frail", .crashed), ("slow", .timedOut)] ∧
      a.report.responseTime = ⟨4600000⟩ ∧ a.doneAt = .ofMillis 5 := by
  intro r
  have complete := completes_mixedUp ⟨400000⟩ (by decide)
  obtain ⟨_, _, accounted, verdicts, _⟩ :=
    run_verdicts briskly mixedUp ⟨0⟩ [⟨⟨400000⟩, .ofMillis 4, 3⟩]
  have numbered : 0 ∈ r.arrivals.map (·.launch) :=
    accounted.mem_iff.mpr (List.mem_range.mpr Nat.one_pos)
  obtain ⟨a, arrives, first⟩ := List.mem_map.mp numbered
  obtain ⟨l, own, _, judges, time⟩ := verdicts a arrives
  rw [first] at own
  obtain rfl := Option.some.inj own
  have judged := judges _ complete
  have lasted : a.report.responseTime = ⟨4600000⟩ :=
    judged.responseTime_eq _ (by decide) (by decide)
  refine ⟨complete, a, arrives, ?_, judged.failures.trans (by decide), lasted, ?_⟩
  · exact Bool.eq_false_iff.mpr fun alive => absurd (judged.alive.mp alive) (by decide)
  · rw [time, lasted]
    rfl

/-- A cutoff between two milliseconds is not what bounds the time that is reported. -/
theorem run_verdicts_unrounded :
    ¬ ∀ (net : Network) (b : Backend) (at' : Timestamp) (launches : List Launch),
      ∀ a ∈ ((ofLaunches b launches net).run at').arrivals, ∀ l, launches[a.launch]? = some l →
        ∀ cs, List.Forall₂ (·.Completes net l.retries l.start ·) b.probes cs →
          (∀ c ∈ cs, c.after ≠ l.cutoff) → a.report.Judges l.cutoff b.probes cs := by
  intro verdict
  have complete := completes_mixedUp .zero (by decide)
  obtain ⟨⟨_, sound⟩, _, accounted⟩ := sound_run briskly mixedUp ⟨0⟩ [⟨.zero, ⟨2500000⟩, 3⟩]
  have numbered := accounted.mem_iff.mpr (List.mem_range.mpr Nat.one_pos)
  obtain ⟨a, arrives, first⟩ := List.mem_map.mp numbered
  obtain ⟨l, planned, fits, _⟩ := sound.arrived a arrives
  have own := getElem?_of_mem_plan planned
  have stated := verdict briskly mixedUp ⟨0⟩ _ a arrives l own
  rw [first] at own
  obtain rfl := Option.some.inj own
  have rounded : a.report.responseTime = .ofMillis 3 :=
    (fits.judges complete).responseTime_eq _ (by decide) (by decide)
  have between : a.report.responseTime = ⟨2500000⟩ :=
    (stated _ complete (by decide)).responseTime_eq _ (by decide) (by decide)
  exact absurd (rounded.symm.trans between) (by decide)

end Rehearsal

end DnsBalancer
