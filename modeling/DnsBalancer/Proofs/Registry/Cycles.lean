import DnsBalancer.Proofs.Registry.Serving
import Mathlib.Data.List.MinMax

/-!
# Cycles that end in any order

Cycles of a backend overlap and end in any order, some of them never, while definitions are
merged into it and into its record. A log is kept of the numbers that were given out and of the
findings that came in. What the backend holds can be read off the log: it is the finding of the
cycle with the highest number that has ended.
-/
namespace DnsBalancer

/-- What is done to a backend of a record. -/
inductive BackendStep where
  | probing (step : ProbeStep)
  /-- A definition is merged into the backend by itself. -/
  | revising (d : BackendDefinition)
  /-- A definition is merged into the record. -/
  | merging (d : RecordDefinition)

/-- What probing gave back. -/
inductive CycleEntry where
  | began (cycle : Nat)
  /-- With the aliveness before, when the finding was taken over. -/
  | ended (cycle : Nat) (finding : Health) (previous : Option Bool)

/-- The oldest entry comes first. -/
abbrev CycleLog := List CycleEntry

namespace CycleLog

/-- The numbers that were given out. -/
def numbers (log : CycleLog) : List Nat :=
  log.filterMap fun
    | .began cycle => some cycle
    | .ended .. => none

/-- What the cycles found that have ended, whether or not it was taken over. -/
def findings (log : CycleLog) : List (Nat × Health) :=
  log.filterMap fun
    | .began _ => none
    | .ended cycle finding _ => some (cycle, finding)

/-- The ended cycle with the highest number. -/
def latest? (log : CycleLog) : Option (Nat × Health) := log.findings.argmax (·.1)

/-- What the latest cycle found; dead and unmeasured before any has ended. -/
def held (log : CycleLog) : Health := (log.latest?.map (·.2)).getD {}

section

variable (log : CycleLog) (cycle : Nat) (finding : Health) (previous : Option Bool)

@[simp] theorem numbers_began : numbers (log ++ [.began cycle]) = log.numbers ++ [cycle] := by
  simp [numbers]

@[simp] theorem numbers_ended :
    numbers (log ++ [.ended cycle finding previous]) = log.numbers := by
  simp [numbers]

@[simp] theorem findings_began : findings (log ++ [.began cycle]) = log.findings := by
  simp [findings]

@[simp] theorem findings_ended : findings (log ++ [.ended cycle finding previous]) =
    log.findings ++ [(cycle, finding)] := by
  simp [findings]

@[simp] theorem latest?_began : latest? (log ++ [.began cycle]) = log.latest? := by
  rw [latest?, findings_began, latest?]

@[simp] theorem held_began : held (log ++ [.began cycle]) = log.held := by
  rw [held, latest?_began, held]

theorem latest?_ended : latest? (log ++ [.ended cycle finding previous]) =
    if (log.latest?.map (·.1)).any (cycle ≤ ·) then log.latest? else some (cycle, finding) := by
  rw [latest?, findings_ended, List.argmax_concat, ← latest?]
  cases log.latest? with
  | none => rfl
  | some last =>
    by_cases later : last.1 < cycle
    · simp [later]
    · simp [later, Nat.not_lt.mp later]

end

end CycleLog

/-- A record whose backend at one address is followed, and the log of that backend. -/
structure Course where
  record : Record
  log : CycleLog := []

/-- What is given back to the one who begins or ends a cycle. -/
def ProbeStep.entry (b : Backend) : ProbeStep → CycleEntry
  | .begins => .began b.beginCycle.1
  | .ends cycle finding => .ended cycle finding ((b.recordCycle cycle finding).map (·.1))

namespace Course

section

variable (a : Address)

def step (c : Course) (s : BackendStep) : Course :=
  match c.record.backend? a with
  | none => c
  | some b =>
    match s with
    | .probing p =>
      { record := c.record.setBackend (b.probed p), log := c.log ++ [p.entry b] }
    | .revising d => { c with record := c.record.setBackend (b.updateFrom d).2 }
    | .merging d => { c with record := (c.record.updateFrom d).2 }

def run (c : Course) (steps : List BackendStep) : Course := steps.foldl (step a) c

/-- Only a cycle that was begun ends, and it ends once; a definition of the record keeps the
address. -/
def Admits (c : Course) : BackendStep → Prop
  | .probing .begins => True
  | .probing (.ends cycle _) => cycle ∈ c.log.numbers ∧ cycle ∉ c.log.findings.map (·.1)
  | .revising _ => True
  | .merging d => a ∈ d.backends.map (·.address)

/-- Every step is admitted where it is taken. -/
def Orderly (c : Course) : List BackendStep → Prop
  | [] => True
  | s :: steps => c.Admits a s ∧ Orderly (step a c s) steps

end

instance (a : Address) (c : Course) : (s : BackendStep) → Decidable (c.Admits a s)
  | .probing .begins => isTrue trivial
  | .probing (.ends _ _) => inferInstanceAs (Decidable (_ ∧ _))
  | .revising _ => isTrue trivial
  | .merging _ => inferInstanceAs (Decidable (_ ∈ _))

instance decidableOrderly (a : Address) (c : Course) :
    (steps : List BackendStep) → Decidable (c.Orderly a steps)
  | [] => isTrue trivial
  | s :: steps =>
    have := decidableOrderly a (c.step a s) steps
    inferInstanceAs (Decidable (_ ∧ _))

variable {a : Address} {c : Course} {b : Backend}

/-- A step probes the backend and logs what it gave back, or it leaves all that probing has left
there alone. -/
theorem step_cases (live : c.record.backend? a = some b) {s : BackendStep}
    (admitted : c.Admits a s) : ∃ x, (c.step a s).record.backend? a = some x ∧
      ((∃ p, s = .probing p ∧ x = b.probed p ∧ (c.step a s).log = c.log ++ [p.entry b]) ∨
        x.SameHistory b ∧ (c.step a s).log = c.log) := by
  have address : b.address = a := (Record.mem_of_backend? live).2
  have put {x : Backend} (same : x.address = b.address) :
      (c.record.setBackend x).backend? a = some x := by
    have own : x.address = a := same.trans address
    rw [Record.backend?_setBackend (own ▸ live), if_pos own]
  cases s with
  | probing p =>
    refine ⟨b.probed p, ?_, Or.inl ⟨p, rfl, rfl, ?_⟩⟩
    · simp only [step, live]
      exact put (congrArg BackendDefinition.address (b.definition_probed p))
    · simp only [step, live]
  | revising d =>
    refine ⟨(b.updateFrom d).2, ?_, Or.inr ⟨⟨rfl, rfl, rfl⟩, ?_⟩⟩
    · simp only [step, live]
      exact put rfl
    · simp only [step, live]
  | merging d =>
    obtain ⟨x, found, same⟩ := Record.exists_backend?_updateFrom live admitted
    refine ⟨x, ?_, Or.inr ⟨same, ?_⟩⟩
    · simp only [step, live, found]
    · simp only [step, live]

end Course

/-! ### What is held after a log -/

/-- The backend is as its log says. -/
structure Backend.Follows (b : Backend) (log : CycleLog) : Prop where
  numbers : log.numbers = List.range' 1 b.begun
  begun : ∀ f ∈ log.findings, f.1 ∈ log.numbers
  applied : b.applied = (log.latest?.map (·.1)).getD 0
  health : b.health = log.held
  /-- A finding is refused when a later cycle has ended before, and only then. -/
  replies : ∀ (past : CycleLog) cycle finding previous,
    past ++ [.ended cycle finding previous] <+: log →
      previous = if ∃ f ∈ past.findings, cycle < f.1 then none else some past.held.alive

namespace Backend

variable {b : Backend} {log : CycleLog} {cycle : Nat}

theorem le_applied (follows : b.Follows log) : ∀ f ∈ log.findings, f.1 ≤ b.applied := by
  intro f member
  rw [follows.applied]
  cases last : log.latest? with
  | none =>
    rw [List.argmax_eq_none.mp last] at member
    cases member
  | some latest => exact List.le_of_mem_argmax member last

/-- The number held is that of a cycle that has ended, or zero. -/
theorem applied_mem (follows : b.Follows log) :
    b.applied = 0 ∨ b.applied ∈ log.findings.map (·.1) := by
  rw [follows.applied]
  cases last : log.latest? with
  | none => exact Or.inl rfl
  | some latest => exact Or.inr (List.mem_map_of_mem (List.argmax_mem last))

theorem begun_iff (follows : b.Follows log) :
    cycle ∈ log.numbers ↔ 0 < cycle ∧ cycle ≤ b.begun := by
  rw [follows.numbers, List.mem_range'_1]
  omega

theorem applied_le_begun (follows : b.Follows log) : b.applied ≤ b.begun := by
  rcases applied_mem follows with zero | member
  · omega
  · obtain ⟨f, ended, number⟩ := List.mem_map.mp member
    exact number ▸ ((begun_iff follows).mp (follows.begun f ended)).2

/-- A cycle that has not ended yet comes too late when one with a higher number has. -/
theorem late_iff (follows : b.Follows log) (begun : cycle ∈ log.numbers)
    (running : cycle ∉ log.findings.map (·.1)) :
    cycle ≤ b.applied ↔ ∃ f ∈ log.findings, cycle < f.1 := by
  constructor
  · intro late
    have positive := ((begun_iff follows).mp begun).1
    rcases applied_mem follows with zero | member
    · omega
    · have different : cycle ≠ b.applied := fun equal => running (equal ▸ member)
      obtain ⟨f, ended, number⟩ := List.mem_map.mp member
      exact ⟨f, ended, by omega⟩
  · rintro ⟨f, ended, higher⟩
    exact higher.le.trans (le_applied follows f ended)

theorem follows_nil (unprobed : b.Unprobed) : b.Follows [] where
  numbers := by simp [unprobed.2.2, CycleLog.numbers]
  begun := by simp [CycleLog.findings]
  applied := unprobed.2.1
  health := unprobed.1
  replies := by simp

theorem follows_of_sameHistory {x : Backend} (follows : b.Follows log)
    (same : x.SameHistory b) : x.Follows log where
  numbers := same.2.2 ▸ follows.numbers
  begun := follows.begun
  applied := same.2.1 ▸ follows.applied
  health := same.1.trans follows.health
  replies := follows.replies

theorem follows_begins (follows : b.Follows log) :
    (b.probed .begins).Follows (log ++ [ProbeStep.begins.entry b]) where
  numbers := by
    simp only [ProbeStep.entry, CycleLog.numbers_began, follows.numbers, probed, beginCycle]
    rw [List.range'_1_concat, Nat.add_comm]
  begun := by
    intro f ended
    simp only [ProbeStep.entry, CycleLog.findings_began, CycleLog.numbers_began] at ended ⊢
    exact List.mem_append_left _ (follows.begun f ended)
  applied := by
    simp only [ProbeStep.entry, CycleLog.latest?_began]
    exact follows.applied
  health := by
    simp only [ProbeStep.entry, CycleLog.held_began]
    exact follows.health
  replies := by
    intro past n finding previous before
    rcases List.prefix_concat_iff.mp before with whole | earlier
    · have last := (List.append_inj' whole rfl).2
      cases last
    · exact follows.replies past n finding previous earlier

theorem follows_ends (follows : b.Follows log) (begun : cycle ∈ log.numbers)
    (running : cycle ∉ log.findings.map (·.1)) (finding : Health) :
    (b.probed (.ends cycle finding)).Follows
      (log ++ [(ProbeStep.ends cycle finding).entry b]) := by
  have late := late_iff follows begun running
  have latest : CycleLog.latest? (log ++ [(ProbeStep.ends cycle finding).entry b]) =
      if cycle ≤ b.applied then log.latest? else some (cycle, finding) := by
    have positive := ((begun_iff follows).mp begun).1
    rw [ProbeStep.entry, CycleLog.latest?_ended, follows.applied]
    cases log.latest? with
    | none => simp [Nat.ne_of_gt positive]
    | some last => simp
  have findings : CycleLog.findings (log ++ [(ProbeStep.ends cycle finding).entry b]) =
      log.findings ++ [(cycle, finding)] := CycleLog.findings_ended ..
  have numbers : CycleLog.numbers (log ++ [(ProbeStep.ends cycle finding).entry b]) =
      log.numbers := CycleLog.numbers_ended ..
  refine ⟨?_, ?_, ?_, ?_, ?_⟩
  · rw [numbers, follows.numbers]
    simp only [probed, recordCycle]
    split <;> rfl
  · intro f ended
    rw [findings] at ended
    rw [numbers]
    rcases List.mem_append.mp ended with before | own
    · exact follows.begun f before
    · rw [List.mem_singleton.mp own]
      exact begun
  · rw [latest]
    simp only [probed, recordCycle]
    split
    · exact follows.applied
    · rfl
  · rw [CycleLog.held, latest]
    simp only [probed, recordCycle]
    split
    · exact follows.health
    · rfl
  · intro past n found previous before
    rcases List.prefix_concat_iff.mp before with whole | earlier
    · obtain ⟨rfl, last⟩ := List.append_inj' whole rfl
      simp only [ProbeStep.entry, List.cons.injEq, CycleEntry.ended.injEq, and_true] at last
      obtain ⟨rfl, rfl, rfl⟩ := last
      simp only [recordCycle, late, follows.health]
      split <;> rfl
    · exact follows.replies past n found previous earlier

end Backend

namespace Course

variable {a : Address} {c : Course} {b : Backend}

/-- One step keeps the backend in its place and in accord with the log. -/
theorem follows_step (live : c.record.backend? a = some b) (follows : b.Follows c.log)
    {s : BackendStep} (admitted : c.Admits a s) :
    ∃ x, (c.step a s).record.backend? a = some x ∧ x.Follows (c.step a s).log ∧
      b.applied ≤ x.applied := by
  obtain ⟨x, found, ⟨p, rfl, rfl, log⟩ | ⟨same, log⟩⟩ := step_cases live admitted
  · rw [log]
    cases p with
    | begins => exact ⟨_, found, Backend.follows_begins follows, le_rfl⟩
    | ends cycle finding =>
      refine ⟨_, found, Backend.follows_ends follows admitted.1 admitted.2 finding, ?_⟩
      simp only [Backend.probed, Backend.recordCycle]
      split
      · exact le_rfl
      · rename_i newer
        exact (Nat.not_le.mp newer).le
  · rw [log]
    exact ⟨x, found, Backend.follows_of_sameHistory follows same, same.2.1.ge⟩

/-- So does a run, and what is held never goes back. -/
theorem follows_run (live : c.record.backend? a = some b) (follows : b.Follows c.log)
    {steps : List BackendStep} (orderly : c.Orderly a steps) :
    ∃ x, (c.run a steps).record.backend? a = some x ∧ x.Follows (c.run a steps).log ∧
      b.applied ≤ x.applied := by
  induction steps generalizing c b with
  | nil => exact ⟨b, live, follows, le_rfl⟩
  | cons s steps ih =>
    obtain ⟨x, found, after, grows⟩ := follows_step live follows orderly.1
    obtain ⟨y, last, whole, more⟩ := ih found after orderly.2
    exact ⟨y, last, whole, grows.trans more⟩

theorem orderly_append {steps rest : List BackendStep} :
    c.Orderly a (steps ++ rest) ↔ c.Orderly a steps ∧ (c.run a steps).Orderly a rest := by
  induction steps generalizing c with
  | nil => simp [Orderly, run]
  | cons s steps ih => simp only [List.cons_append, Orderly, ih, run, List.foldl_cons, and_assoc]

/-- Cycles begin and end and definitions are merged in any order, on a backend that starts
unprobed. Numbers are given out one after the other, so that they stay below the number of
calls; a finding is refused just when a later cycle has ended before; what is held is the finding
of the latest cycle that has ended; and the number of that cycle never goes back and never passes
the numbers given out. -/
theorem run_guarded {r : Record} (live : r.backend? a = some b) (unprobed : b.Unprobed)
    {steps : List BackendStep} (orderly : Orderly a ⟨r, []⟩ steps) :
    let log := (run a ⟨r, []⟩ steps).log
    log.numbers.Pairwise (· < ·) ∧ (∀ n ∈ log.numbers, n ≤ log.numbers.length) ∧
      (∀ (past : CycleLog) cycle finding previous, past ++ [.ended cycle finding previous] <+: log →
        (previous = none ↔ ∃ f ∈ past.findings, cycle < f.1) ∧
          ∀ alive, previous = some alive → alive = past.held.alive) ∧
      ∃ x, (run a ⟨r, []⟩ steps).record.backend? a = some x ∧ x.health = log.held ∧
        x.begun = log.numbers.length ∧ x.applied ≤ x.begun ∧
        ∀ earlier, earlier <+: steps → ∃ y, (run a ⟨r, []⟩ earlier).record.backend? a = some y ∧
          y.applied ≤ x.applied := by
  have start := Backend.follows_nil unprobed
  obtain ⟨x, found, follows, _⟩ := follows_run live start orderly
  have count : x.begun = (run a ⟨r, []⟩ steps).log.numbers.length := by
    rw [follows.numbers, List.length_range']
  refine ⟨?_, ?_, ?_, x, found, follows.health, count, Backend.applied_le_begun follows, ?_⟩
  · rw [follows.numbers]
    exact List.pairwise_lt_range'
  · intro n member
    exact count ▸ ((Backend.begun_iff follows).mp member).2
  · intro past cycle finding previous before
    rw [follows.replies past cycle finding previous before]
    split
    · rename_i late
      exact ⟨⟨fun _ => late, fun _ => rfl⟩, fun alive taken => nomatch taken⟩
    · rename_i first
      exact ⟨⟨fun refused => (nomatch refused), fun late => absurd late first⟩,
        fun alive taken => (Option.some.inj taken).symm⟩
  · rintro earlier ⟨rest, rfl⟩
    obtain ⟨first, second⟩ := orderly_append.mp orderly
    obtain ⟨y, held, along, _⟩ := follows_run live start first
    obtain ⟨z, last, _, grows⟩ := follows_run held along second
    have whole : (run a ⟨r, []⟩ (earlier ++ rest)) = (run a ⟨r, []⟩ earlier).run a rest :=
      List.foldl_append
    rw [whole, last] at found
    obtain rfl : z = x := Option.some.inj found
    exact ⟨y, held, grows⟩

/-- Two cycles overlap, the second ends first, and the record is merged in between. -/
def overtaken : List BackendStep := [
  .probing .begins, .probing .begins, .probing (.ends 2 { alive := true }),
  .merging { fqdn := "a.example.org.", ttl := 60, backends := [
    { address := .v4 0x0a000002#32 }, { address := .v4 0x0a000001#32, priority := 7 }] },
  .probing (.ends 1 {}), .revising { address := .v4 0x0a000001#32, enabled := false }]

theorem run_guarded_overtaken :
    let r := Record.ofDefinition "example.org."
      { fqdn := "a.example.org.", backends := [{ address := .v4 0x0a000001#32 }] } false
    Orderly (.v4 0x0a000001#32) ⟨r, []⟩ overtaken ∧
      ∃ x, (run (.v4 0x0a000001#32) ⟨r, []⟩ overtaken).record.backend? (.v4 0x0a000001#32) =
        some x ∧ x.health = { alive := true } ∧ x.begun = 2 := by
  intro r
  have orderly : Orderly (.v4 0x0a000001#32) ⟨r, []⟩ overtaken := by decide +kernel
  have unprobed : Backend.Unprobed
      { record := "a.example.org.", definition := { address := .v4 0x0a000001#32 } } :=
    ⟨rfl, rfl, rfl⟩
  obtain ⟨_, _, _, x, found, health, begun, _⟩ := run_guarded rfl unprobed orderly
  have held : CycleLog.held (run (.v4 0x0a000001#32) ⟨r, []⟩ overtaken).log =
    { alive := true } := by decide +kernel
  have count : (CycleLog.numbers (run (.v4 0x0a000001#32) ⟨r, []⟩ overtaken).log).length = 2 := by
    decide +kernel
  exact ⟨orderly, x, found, health.trans held, begun.trans count⟩

end Course

end DnsBalancer
