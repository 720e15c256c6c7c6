import DnsBalancer.Probing.Rehearsal
import DnsBalancer.Proofs.Probing.Flight
import Mathlib.Logic.Relation

/-!
# What happens at an instant

At an instant, runs are brought up to date, and then launches begin and flights land one by one.
All of it uses up attempts, launches and landings that are still owed, so that the instants at
which anything happens are no more than were set aside for them.
-/
namespace DnsBalancer

/-! ### Bringing runs up to date -/

namespace Run

def totalOwed : List Run → Nat
  | [] => 0
  | r :: rs => r.owed + totalOwed rs

@[simp] theorem totalOwed_nil : totalOwed [] = 0 := rfl

@[simp] theorem totalOwed_cons (r : Run) (rs : List Run) :
    totalOwed (r :: rs) = r.owed + totalOwed rs := rfl

@[simp] theorem totalOwed_append (rs ss : List Run) :
    totalOwed (rs ++ ss) = totalOwed rs + totalOwed ss := by
  induction rs with
  | nil => simp
  | cons r rs ih => rw [List.cons_append, totalOwed_cons, totalOwed_cons, ih, Nat.add_assoc]

/-- How many of them have ended their attempt. -/
def due (now : Instant) (rs : List Run) : Nat := rs.countP fun r => decide (r.ends ≤ now)

variable {now : Instant}

theorem due_cons (r : Run) (rs : List Run) :
    due now (r :: rs) = due now rs + if r.ends ≤ now then 1 else 0 := by
  simp [due, List.countP_cons]

theorem due_append (rs ss : List Run) : due now (rs ++ ss) = due now rs + due now ss :=
  List.countP_append

theorem due_pos {rs : List Run} {r : Run} (member : r ∈ rs) (ended : r.ends ≤ now) :
    0 < due now rs :=
  List.countP_pos_iff.mpr ⟨r, member, decide_eq_true ended⟩

/-- Every run that is due uses up an attempt when it is brought up to date. -/
theorem owed_resumeAll (net : Network) (now : Instant) (t : Tally) (rs : List Run) :
    totalOwed (resumeAll net now t rs).2 + due now rs ≤ totalOwed rs := by
  induction rs generalizing t with
  | nil => exact Nat.le_refl _
  | cons r rs ih =>
    have used := owed_resume_lt net now t r
    rw [due_cons, totalOwed_cons, resumeAll]
    split
    · have others := ih (r.resume net now t).1
      dsimp only
      split
      · rename_i went
        rw [went, Progress.owed] at used
        rw [totalOwed_cons]
        omega
      · dsimp only
        omega
    · have others := ih t
      rw [totalOwed_cons]
      omega

end Run

namespace Slot

variable {began now : Instant}

theorem runs_cons (s : Slot) (ss : List Slot) :
    (s :: ss).filterMap run? = s.run?.toList ++ ss.filterMap run? := by
  cases run : s.run? <;> simp [run]

theorem owed_run? (s : Slot) : Run.totalOwed s.run?.toList = s.progress.owed := by
  rcases s with ⟨_, progress, _, _⟩
  cases progress <;> rfl

theorem owed_resume (net : Network) (began now : Instant) (t : Tally) (s : Slot) :
    (s.resume net began now t).2.progress.owed + Run.due now s.run?.toList ≤ s.progress.owed := by
  rcases s with ⟨_, progress, _, _⟩
  cases progress with
  | running r =>
    have used := Run.owed_resume_lt net now t r
    by_cases ends : r.ends ≤ now
    · simp only [Slot.resume, if_pos ends, run?, Option.toList_some, Run.due_cons, Progress.owed]
      exact used
    · simp [Slot.resume, ends, run?, Run.due, Progress.owed]
  | done => exact Nat.le_refl _

theorem owed_resumeAll (net : Network) (began now : Instant) (t : Tally) (ss : List Slot) :
    Run.totalOwed ((resumeAll net began now t ss).2.filterMap run?) +
      Run.due now (ss.filterMap run?) ≤ Run.totalOwed (ss.filterMap run?) := by
  induction ss generalizing t with
  | nil => exact Nat.le_refl _
  | cons s ss ih =>
    have first := s.owed_resume net began now t
    have others := ih (s.resume net began now t).1
    simp only [resumeAll, runs_cons, Run.totalOwed_append, Run.due_append, owed_run?]
    omega

theorem owed_startAll (net : Network) (now : Instant) (retries : Nat) (t : Tally)
    (ps : List Probe) :
    Run.totalOwed ((startAll net now retries t ps).2.filterMap run?) ≤
      ps.length * Retry.maxAttempts retries := by
  have once : 1 ≤ Retry.maxAttempts retries := Nat.le_min.mpr ⟨Nat.le_add_left _ _, by decide⟩
  induction ps generalizing t with
  | nil => exact Nat.zero_le _
  | cons p ps ih =>
    have first := Run.owed_attempt_le net t p now (Retry.maxAttempts retries - 1)
    have others := ih (Run.attempt net t p now (Retry.maxAttempts retries - 1)).1
    simp only [startAll, runs_cons, Run.totalOwed_append, owed_run?, List.length_cons,
      Nat.add_one_mul]
    omega

end Slot

namespace Rehearsal

/-- The runs under way, those with nobody who waits for them last. -/
def runs (r : Rehearsal) : List Run := r.flying.flatMap (·.2.strays) ++ r.strays

/-- All that waits is brought up to date. -/
def advance (now : Instant) (r : Rehearsal) : Rehearsal :=
  let (tally, strays) := Run.resumeAll r.network now r.tally r.strays
  let (tally, flying) := resumeFlights r.network now tally r.flying
  { r with tally, strays, flying }

/-- A waiting launch begins. -/
def launch (now : Instant) (r : Rehearsal) (n : Nat) (l : Launch) (rest : List (Nat × Launch)) :
    Rehearsal :=
  let (backend, tally, f) := Flight.start r.network r.backend l.retries l.cutoff now r.tally
  { r with waiting := rest, backend, tally, flying := r.flying ++ [(n, f)] }

/-- A flight lands and the others stay. -/
def land (at' : Timestamp) (now : Instant) (r : Rehearsal) (n : Nat) (f : Flight)
    (others : List (Nat × Flight)) : Rehearsal :=
  let landing := f.land at' r.backend r.metrics
  { r with
    flying := others
    backend := landing.backend
    metrics := landing.metrics
    strays := r.strays ++ f.strays
    arrivals := r.arrivals ++ [⟨n, now, landing.report, landing.applied⟩] }

/-- One thing that happens at `now`. -/
inductive Step (at' : Timestamp) (now : Instant) : Rehearsal → Rehearsal → Prop where
  | begins {r : Rehearsal} {n : Nat} {l : Launch} {rest : List (Nat × Launch)}
      (waiting : r.waiting = (n, l) :: rest) (due : l.start ≤ now) :
      Step at' now r (r.launch now n l rest)
  | lands {r : Rehearsal} {before after : List (Nat × Flight)} {n : Nat} {f : Flight}
      (flying : r.flying = before ++ (n, f) :: after) (finished : f.isOver now = true) :
      Step at' now r (r.land at' now n f (before ++ after))

variable {at' : Timestamp} {now : Instant} {r r' : Rehearsal}

theorem settle_eq (at' : Timestamp) (now : Instant) (r : Rehearsal) : r.settle at' now =
    landAll now at' (startDue now (landAll now at' (r.advance now))) := rfl

/-- A flight lands if it is over, and flies on behind the others if not. -/
def landOrKeep (at' : Timestamp) (now : Instant) (r : Rehearsal) (x : Nat × Flight) : Rehearsal :=
  if x.2.isOver now then r.land at' now x.1 x.2 r.flying
  else { r with flying := r.flying ++ [x] }

theorem landAll_eq (at' : Timestamp) (now : Instant) (r : Rehearsal) : landAll now at' r =
    r.flying.foldl (landOrKeep at' now) { r with flying := [] } := rfl

/-- While flights are gone through, those that stayed fly in front of those not yet looked at. -/
theorem steps_landOrKeep (at' : Timestamp) (now : Instant) (fs : List (Nat × Flight))
    (r : Rehearsal) :
    Relation.ReflTransGen (Step at' now) { r with flying := r.flying ++ fs }
        (fs.foldl (landOrKeep at' now) r) ∧
      (fs.foldl (landOrKeep at' now) r).flying =
        r.flying ++ fs.filter (fun f => !f.2.isOver now) ∧
      (fs.foldl (landOrKeep at' now) r).waiting = r.waiting := by
  induction fs generalizing r with
  | nil =>
    simp only [List.append_nil, List.foldl_nil, List.filter_nil, and_self, and_true]
    exact .refl
  | cons x fs ih =>
    rw [List.foldl_cons]
    by_cases finished : x.2.isOver now = true
    · rw [landOrKeep, if_pos finished, List.filter_cons_of_neg (by simp [finished])]
      obtain ⟨steps, flying, waiting⟩ := ih (r.land at' now x.1 x.2 r.flying)
      exact ⟨.head (.lands rfl finished) steps, flying, waiting⟩
    · rw [landOrKeep, if_neg finished, List.filter_cons_of_pos (by simpa using finished)]
      obtain ⟨steps, flying, waiting⟩ := ih { r with flying := r.flying ++ [x] }
      simp only [List.append_assoc, List.singleton_append] at steps flying
      exact ⟨steps, flying, waiting⟩

theorem steps_landAll (at' : Timestamp) (now : Instant) (r : Rehearsal) :
    Relation.ReflTransGen (Step at' now) r (landAll now at' r) ∧
      (landAll now at' r).flying = r.flying.filter (fun f => !f.2.isOver now) ∧
      (landAll now at' r).waiting = r.waiting := by
  rw [landAll_eq]
  exact steps_landOrKeep at' now r.flying { r with flying := [] }

/-- Where launches are in the order of their times, those that are due come first. -/
theorem due_append_waiting {ws : List (Nat × Launch)}
    (sorted : ws.Pairwise fun l m => l.2.start ≤ m.2.start) :
    ws.filter (fun l => decide (l.2.start ≤ now)) ++
      ws.filter (fun l => !decide (l.2.start ≤ now)) = ws := by
  induction ws with
  | nil => rfl
  | cons w ws ih =>
    obtain ⟨first, rest⟩ := List.pairwise_cons.mp sorted
    by_cases due : w.2.start ≤ now
    · rw [List.filter_cons_of_pos (by simpa using due),
        List.filter_cons_of_neg (by simpa using due), List.cons_append, ih rest]
    · have later : ∀ l ∈ ws, ¬ l.2.start ≤ now := fun l member before =>
        due (Nat.le_trans (first l member) before)
      rw [List.filter_cons_of_neg (by simpa using due),
        List.filter_cons_of_pos (by simpa using due),
        List.filter_eq_nil_iff.mpr (by simpa using later), List.nil_append,
        List.filter_eq_self.mpr (by simpa using later)]

/-- A launch that had been waiting in front begins. -/
def launchNext (now : Instant) (r : Rehearsal) (x : Nat × Launch) : Rehearsal :=
  r.launch now x.1 x.2 r.waiting

theorem startDue_eq (now : Instant) (r : Rehearsal) : startDue now r =
    (r.waiting.filter fun l => decide (l.2.start ≤ now)).foldl (launchNext now)
      { r with waiting := r.waiting.filter fun l => !decide (l.2.start ≤ now) } := by
  rw [startDue, List.partition_eq_filter_filter]
  rfl

theorem steps_launchNext (at' : Timestamp) (now : Instant) {ds : List (Nat × Launch)}
    (due : ∀ d ∈ ds, d.2.start ≤ now) (r : Rehearsal) :
    Relation.ReflTransGen (Step at' now) { r with waiting := ds ++ r.waiting }
        (ds.foldl (launchNext now) r) ∧
      (ds.foldl (launchNext now) r).waiting = r.waiting := by
  induction ds generalizing r with
  | nil => exact ⟨.refl, rfl⟩
  | cons d ds ih =>
    obtain ⟨first, others⟩ := List.forall_mem_cons.mp due
    obtain ⟨steps, waiting⟩ := ih others (launchNext now r d)
    exact ⟨.head (.begins rfl first) steps, waiting⟩

theorem steps_startDue (at' : Timestamp) (now : Instant)
    (sorted : r.waiting.Pairwise fun l m => l.2.start ≤ m.2.start) :
    Relation.ReflTransGen (Step at' now) r (startDue now r) ∧
      (startDue now r).waiting = r.waiting.filter fun l => !decide (l.2.start ≤ now) := by
  have due : ∀ l ∈ r.waiting.filter (fun l => decide (l.2.start ≤ now)), l.2.start ≤ now :=
    fun l member => by simpa using (List.mem_filter.mp member).2
  obtain ⟨steps, waiting⟩ := steps_launchNext at' now due
    { r with waiting := r.waiting.filter fun l => !decide (l.2.start ≤ now) }
  rw [due_append_waiting sorted] at steps
  rw [startDue_eq]
  exact ⟨steps, waiting⟩

/-! ### What is still owed -/

theorem resumeFlights_each (net : Network) (now : Instant) (t : Tally)
    (fs : List (Nat × Flight)) :
    List.Forall₂ (fun f g => g.1 = f.1 ∧ ∃ t, g.2 = (f.2.resume net now t).2) fs
      (resumeFlights net now t fs).2 := by
  induction fs generalizing t with
  | nil => exact .nil
  | cons f fs ih => exact .cons ⟨rfl, t, rfl⟩ (ih (f.2.resume net now t).1)

theorem owed_resumeFlights (net : Network) (now : Instant) (t : Tally)
    (fs : List (Nat × Flight)) :
    Run.totalOwed ((resumeFlights net now t fs).2.flatMap (·.2.strays)) +
      Run.due now (fs.flatMap (·.2.strays)) ≤ Run.totalOwed (fs.flatMap (·.2.strays)) := by
  induction fs generalizing t with
  | nil => exact Nat.le_refl _
  | cons f fs ih =>
    have first := Slot.owed_resumeAll net f.2.began now t f.2.slots
    have others := ih (f.2.resume net now t).1
    simp only [resumeFlights, List.flatMap_cons, Run.totalOwed_append, Run.due_append,
      Flight.strays, Flight.resume] at first others ⊢
    omega

theorem owed_advance (now : Instant) (r : Rehearsal) :
    Run.totalOwed (r.advance now).runs + Run.due now r.runs ≤ Run.totalOwed r.runs := by
  have strays := Run.owed_resumeAll r.network now r.tally r.strays
  have flights :=
    owed_resumeFlights r.network now (Run.resumeAll r.network now r.tally r.strays).1 r.flying
  simp only [runs, advance, Run.totalOwed_append, Run.due_append]
  omega

/-- Launches, landings and attempts that may still happen. -/
def potential (r : Rehearsal) : Nat := r.instants + r.flying.length + Run.totalOwed r.runs

theorem potential_step_lt (step : Step at' now r r') : r'.potential < r.potential := by
  cases step with
  | @begins n l rest waiting due =>
    have attempts := Slot.owed_startAll r.network now l.retries r.tally r.backend.probes
    have fewer : r.instants = 2 + r.backend.probes.length * Retry.maxAttempts l.retries +
        (r.launch now n l rest).instants := by
      rw [instants, waiting]
      rfl
    have runs : Run.totalOwed (r.launch now n l rest).runs = Run.totalOwed r.runs +
        Run.totalOwed ((Slot.startAll r.network now l.retries r.tally
          r.backend.probes).2.filterMap Slot.run?) := by
      simp only [Rehearsal.runs, launch, Flight.start, List.flatMap_append, List.flatMap_singleton,
        Run.totalOwed_append]
      exact Nat.add_right_comm ..
    have flights : (r.launch now n l rest).flying.length = r.flying.length + 1 := by
      simp [launch]
    rw [potential, potential, fewer, runs, flights]
    omega
  | @lands before after n f flying finished =>
    have probes : (r.land at' now n f (before ++ after)).instants = r.instants := by
      have same : (r.land at' now n f (before ++ after)).backend.probes = r.backend.probes :=
        congrArg BackendDefinition.probes (f.definition_land at' r.backend r.metrics)
      rw [instants, same]
      rfl
    have runs : Run.totalOwed (r.land at' now n f (before ++ after)).runs =
        Run.totalOwed r.runs := by
      simp only [Rehearsal.runs, land, flying, List.flatMap_append, List.flatMap_cons,
        Run.totalOwed_append]
      omega
    rw [potential, potential, probes, runs, flying]
    simp only [land, List.length_append, List.length_cons]
    omega

theorem potential_steps (steps : Relation.ReflTransGen (Step at' now) r r') :
    r'.potential ≤ r.potential ∧ (r' ≠ r → r'.potential < r.potential) := by
  have falls : r' = r ∨ r'.potential < r.potential := by
    induction steps with
    | refl => exact Or.inl rfl
    | tail _ step ih =>
      have less := potential_step_lt step
      rcases ih with rfl | before
      · exact Or.inr less
      · exact Or.inr (Nat.lt_trans less before)
  exact ⟨falls.elim (fun same => Nat.le_of_eq (congrArg potential same)) Nat.le_of_lt,
    falls.resolve_left⟩

theorem potential_landAll (at' : Timestamp) (now : Instant) (r : Rehearsal) :
    (landAll now at' r).potential ≤ r.potential ∧
      ((∃ f ∈ r.flying, f.2.isOver now = true) →
        (landAll now at' r).potential < r.potential) := by
  obtain ⟨steps, flying, _⟩ := steps_landAll at' now r
  obtain ⟨below, changed⟩ := potential_steps steps
  refine ⟨below, fun ⟨f, member, finished⟩ => changed fun same => ?_⟩
  rw [same] at flying
  have under := List.filter_eq_self.mp flying.symm f member
  simp [finished] at under

theorem potential_startDue (at' : Timestamp) (now : Instant)
    (sorted : r.waiting.Pairwise fun l m => l.2.start ≤ m.2.start) :
    (startDue now r).potential ≤ r.potential ∧
      ((∃ l ∈ r.waiting, l.2.start ≤ now) → (startDue now r).potential < r.potential) := by
  obtain ⟨steps, waiting⟩ := steps_startDue at' now sorted
  obtain ⟨below, changed⟩ := potential_steps steps
  refine ⟨below, fun ⟨l, member, due⟩ => changed fun same => ?_⟩
  rw [same] at waiting
  have later := List.filter_eq_self.mp waiting.symm l member
  simp [due] at later

theorem potential_advance (now : Instant) (r : Rehearsal) :
    (r.advance now).potential + Run.due now r.runs ≤ r.potential := by
  have flights := (resumeFlights_each r.network now
    (Run.resumeAll r.network now r.tally r.strays).1 r.flying).length_eq
  have runs := owed_advance now r
  change (r.instants + (r.advance now).flying.length + _) + _ ≤ _
  change r.flying.length = (r.advance now).flying.length at flights
  rw [potential]
  omega

/-! ### The clock goes from one instant to the next -/

/-- The instants at which something is due. -/
def dues (r : Rehearsal) : List Instant :=
  r.waiting.map (·.2.start) ++ r.flying.flatMap (·.2.due) ++ r.strays.map Run.ends

theorem nextDue?_eq_some (next : r.nextDue? = some now) :
    now ∈ r.dues ∧ ∀ i ∈ r.dues, now ≤ i := by
  obtain ⟨n, least, rfl⟩ := Option.map_eq_some_iff.mp next
  obtain ⟨member, below⟩ := List.min?_eq_some_iff.mp least
  obtain ⟨i, present, rfl⟩ := List.mem_map.mp member
  exact ⟨present, fun j other => below _ (List.mem_map_of_mem other)⟩

theorem dues_of_nextDue? (none : r.nextDue? = none) : r.dues = [] := by
  have empty := List.min?_eq_none_iff.mp (Option.map_eq_none_iff.mp none)
  exact List.map_eq_nil_iff.mp empty

/-- Something that is owed is used up whenever the clock stops. -/
theorem potential_settle_lt (at' : Timestamp)
    (sorted : r.waiting.Pairwise fun l m => l.2.start ≤ m.2.start)
    (next : r.nextDue? = some now) : (r.settle at' now).potential < r.potential := by
  obtain ⟨due, _⟩ := nextDue?_eq_some next
  have advanced := potential_advance now r
  obtain ⟨landed, lands⟩ := potential_landAll at' now (r.advance now)
  have waiting := (steps_landAll at' now (r.advance now)).2.2
  obtain ⟨begun, begins⟩ :=
    potential_startDue (r := landAll now at' (r.advance now)) at' now (waiting ▸ sorted)
  have last := (potential_landAll at' now (startDue now (landAll now at' (r.advance now)))).1
  have ends {s : Run} (member : s ∈ r.runs) (ended : s.ends = now) : 0 < Run.due now r.runs :=
    Run.due_pos member (Nat.le_of_eq (congrArg Duration.nanos ended))
  rw [settle_eq]
  simp only [dues, List.mem_append, List.mem_map, List.mem_flatMap] at due
  rcases due with (⟨l, member, rfl⟩ | ⟨f, member, due⟩) | ⟨s, member, ended⟩
  · have fewer := begins ⟨l, waiting ▸ member, Nat.le_refl _⟩
    omega
  · rcases List.mem_cons.mp due with deadline | ended
    · have each := (resumeFlights_each r.network now
        (Run.resumeAll r.network now r.tally r.strays).1 r.flying).flip
      obtain ⟨g, present, _, t, same⟩ := exists_of_forall₂ each member
      have finished : g.2.isOver now = true := by
        rw [same, deadline]
        simp [Flight.isOver, Flight.resume, Duration.le_iff]
      have fewer := lands ⟨g, present, finished⟩
      omega
    · obtain ⟨s, stray, ended⟩ := List.mem_map.mp ended
      have visited := ends (List.mem_append_left _ (List.mem_flatMap.mpr ⟨f, member, stray⟩)) ended
      omega
  · have visited := ends (List.mem_append_right _ member) ended
    omega

end Rehearsal

end DnsBalancer
