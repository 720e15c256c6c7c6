import DnsBalancer.Proofs.Registry.Turns
import Mathlib.Order.Monotone.Basic

/-!
# A selection that overlaps an update

A selection copies the selector, then the list, and then looks at one backend after the other.
Each of these it sees as a whole, but not all of them at one time: it can meet one backend before
its update and the next one after, and answer what the record answers at no time.
-/
namespace DnsBalancer

/-- A selection asks the selector before the update or the one after it. -/
def Record.Asked (r : Record) (d : RecordDefinition) (s : Selector) : Prop :=
  s = r.selector ∨ s = (r.updateFrom d).2.selector

/-- What a selection can see of the backends: those listed after the update, as they are then, or
those listed before, each as it is at a time no earlier than the one in front of it. -/
def Record.Visible (r : Record) (d : RecordDefinition) (row : List Candidate) : Prop :=
  row = (r.updateFrom d).2.candidates ∨
    ∃ time : Nat → Nat, Monotone time ∧
      ∀ i, row[i]? = ((r.partly d (time i))[i]?).map Backend.candidate

/-- What a selection has seen when the update has had `p` turns. -/
inductive Seen (r : Record) (d : RecordDefinition) (p : Nat) : Reader → Prop where
  | fresh : Seen r d p .fresh
  | asked {s : Selector} (own : r.Asked d s) :
      Seen r d p (.asked s)
  /-- The list before the update, each backend at a time of its own. -/
  | former {s : Selector} {pending : List Nat} {row : List Candidate}
      (own : r.Asked d s) (rest : pending = List.range' row.length pending.length)
      (all : row.length + pending.length = r.backends.length) (time : Nat → Nat)
      (forwards : Monotone time) (past : ∀ i, time i ≤ p - 1)
      (seen : ∀ i < row.length, row[i]? = ((r.partly d (time i))[i]?).map Backend.candidate) :
      Seen r d p (.reading s pending row)
  /-- The list after the update, and all backends as they stay. -/
  | latter {s : Selector} {pending : List Nat} {row : List Candidate}
      (own : r.Asked d s) (late : d.backends.length + 2 ≤ p)
      (seen : row ++ pending.filterMap (Memory.after r d p).1.candidate? =
        (r.updateFrom d).2.candidates) :
      Seen r d p (.reading s pending row)

section

variable {r : Record} {d : RecordDefinition} {p : Nat} {reader : Reader}

theorem Seen.turnWriter (seen : Seen r d p reader) (distinct : (d.backends.map (·.address)).Nodup) :
    Seen r d (p + 1) reader := by
  cases seen with
  | fresh => exact .fresh
  | asked own => exact .asked own
  | former own rest all time forwards past seen =>
    exact .former own rest all time forwards (fun i => (past i).trans (by omega)) seen
  | latter own late seen =>
    refine .latter own (by omega) ?_
    rwa [after_of_late distinct late]

theorem monotone_until {time : Nat → Nat} {now : Nat} (forwards : Monotone time)
    (past : ∀ i, time i ≤ now) (n : Nat) : Monotone fun i => if i < n then time i else now := by
  intro i j le
  dsimp only
  split
  · split
    · exact forwards le
    · exact past i
  · rw [if_neg (by omega)]

/-- One more backend of the list before the update. -/
theorem Seen.readFormer {s : Selector} {i : Nat} {pending : List Nat} {row : List Candidate}
    (distinct : (d.backends.map (·.address)).Nodup) (own : r.Asked d s)
    (rest : i :: pending = List.range' row.length (i :: pending).length)
    (all : row.length + (i :: pending).length = r.backends.length) {time : Nat → Nat}
    (forwards : Monotone time) (past : ∀ i, time i ≤ p - 1)
    (seen : ∀ i < row.length, row[i]? = ((r.partly d (time i))[i]?).map Backend.candidate) :
    Seen r d p (.reading s pending (row ++ ((Memory.after r d p).1.candidate? i).toList)) := by
  rw [List.length_cons, List.range'_succ] at rest
  obtain ⟨rfl, rest⟩ := List.cons.inj rest
  rw [List.length_cons] at all
  have inside : row.length < r.backends.length := by omega
  rw [candidate?_after distinct p inside]
  obtain ⟨c, now⟩ : ∃ c, ((r.partly d (p - 1))[row.length]?).map Backend.candidate = some c := by
    rw [← Record.length_partly r d (p - 1)] at inside
    rw [List.getElem?_eq_getElem inside]
    exact ⟨_, rfl⟩
  rw [now]
  -- The backend read just now is read last so far, and later than any before it.
  refine .former own (by simpa using rest) (by simp; omega)
    (fun j => if j < row.length then time j else p - 1) (monotone_until forwards past row.length)
    (fun j => ?_) (fun j there => ?_)
  · split
    · exact past j
    · exact le_rfl
  · simp only [Option.toList_some, List.length_append, List.length_singleton] at there
    rw [Option.toList_some]
    by_cases before : j < row.length
    · rw [List.getElem?_append_left before, if_pos before, seen j before]
    · obtain rfl : j = row.length := by omega
      rw [List.getElem?_concat_length, if_neg before, now]

theorem Seen.turnReader (seen : Seen r d p reader) (distinct : (d.backends.map (·.address)).Nodup) :
    Seen r d p (reader.step (Memory.after r d p).1) := by
  cases seen with
  | fresh =>
    refine .asked ?_
    cases p with
    | zero => exact .inl rfl
    | succ p => exact .inr (selector_after distinct p.succ_pos)
  | asked own =>
    by_cases late : d.backends.length + 2 ≤ p
    · exact .latter own late (Memory.filterMap_candidate? (cells_after distinct late))
    · have listed := listed_after distinct (Nat.lt_of_not_le late) (r := r)
      refine .former own ?_ ?_ (fun _ => 0) monotone_const (fun _ => Nat.zero_le _) (by simp)
      · rw [listed, List.length_range, List.length_nil, List.range_eq_range']
      · rw [listed, List.length_range, List.length_nil, Nat.zero_add]
  | @former s pending row own rest all time forwards past seen =>
    cases pending with
    | nil => exact .former own rest all time forwards past seen
    | cons i pending => exact .readFormer distinct own rest all forwards past seen
  | @latter s pending row own late seen =>
    cases pending with
    | nil => exact .latter own late seen
    | cons i pending =>
      refine .latter own late ?_
      rw [← seen, List.append_assoc]
      cases held : (Memory.after r d p).1.candidate? i <;> simp [held]

theorem seen_run (distinct : (d.backends.map (·.address)).Nodup) (schedule : List Party) :
    Seen r d (schedule.count .writer) ((Race.start r d).run schedule).reader := by
  induction schedule using List.reverseRecOn with
  | nil => exact .fresh
  | append_singleton schedule party ih =>
    rw [Race.run_concat, List.count_append]
    cases party with
    | reader =>
      rw [Race.step, (Race.run_shared r d schedule).1]
      exact ih.turnReader distinct
    | writer => exact ih.turnWriter distinct

/-- What a selection answers from was visible. -/
theorem Seen.visible {s : Selector} {row : List Candidate}
    (seen : Seen r d p (.reading s [] row)) : r.Asked d s ∧ r.Visible d row := by
  cases seen with
  | former own rest all time forwards past seen =>
    refine ⟨own, .inr ⟨time, forwards, fun i => ?_⟩⟩
    rw [List.length_nil, Nat.add_zero] at all
    by_cases inside : i < row.length
    · exact seen i inside
    · have out : (r.partly d (time i)).length ≤ i := by
        rw [Record.length_partly]
        omega
      rw [List.getElem?_eq_none (Nat.le_of_not_lt inside), List.getElem?_eq_none out]
      rfl
  | latter own late seen =>
    rw [List.filterMap_nil, List.append_nil] at seen
    exact ⟨own, .inl seen⟩

end

/-! ### Every view comes of some order of turns -/

section

variable {r : Record} {d : RecordDefinition}

theorem Race.reader_run_writers (c : Race) (n : Nat) :
    (c.run (List.replicate n .writer)).reader = c.reader := by
  induction n generalizing c with
  | zero => rfl
  | succ n ih =>
    rw [List.replicate_succ]
    exact ih (c.step .writer)

theorem Race.reader_run_readers {c : Race} {s : Selector} {pending : List Nat}
    {row : List Candidate} (reading : c.reader = .reading s pending row) :
    (c.run (List.replicate pending.length .reader)).reader =
      .reading s [] (row ++ pending.filterMap c.memory.candidate?) := by
  induction pending generalizing c row with
  | nil => simpa [run] using reading
  | cons i pending ih =>
    have next : (c.step .reader).reader =
        .reading s pending (row ++ (c.memory.candidate? i).toList) := by
      rw [step, reading, Reader.step]
    rw [List.length_cons, List.replicate_succ]
    refine (ih next).trans ?_
    rw [List.append_assoc]
    cases held : c.memory.candidate? i <;> simp [step, held]

/-- The writer has turns until it has had `p` of them, then the reader has one. -/
theorem exists_turn {schedule : List Party} {p : Nat} (early : schedule.count .writer ≤ p) :
    ∃ later : List Party, later.count .writer = p ∧ ((Race.start r d).run later).reader =
      ((Race.start r d).run schedule).reader.step (Memory.after r d p).1 := by
  let waited := schedule ++ List.replicate (p - schedule.count .writer) .writer
  have count : waited.count .writer = p := by
    rw [List.count_append, List.count_replicate_self]
    omega
  refine ⟨waited ++ [.reader], by rw [List.count_append, count]; rfl, ?_⟩
  rw [Race.run_concat, Race.step, (Race.run_shared r d waited).1, count, Race.run_append,
    Race.reader_run_writers]

theorem exists_asked {s : Selector} (distinct : (d.backends.map (·.address)).Nodup)
    (own : r.Asked d s) : ∃ schedule : List Party,
    schedule.count .writer ≤ 1 ∧ ((Race.start r d).run schedule).reader = .asked s := by
  obtain rfl | rfl := own
  · exact ⟨[.reader], by decide, rfl⟩
  · obtain ⟨schedule, count, reached⟩ := @exists_turn r d [] 1 (Nat.zero_le _)
    refine ⟨schedule, count.le, ?_⟩
    rw [reached, ← selector_after distinct Nat.one_pos]
    rfl

theorem exists_former {s : Selector} {row : List Candidate} {time : Nat → Nat}
    (distinct : (d.backends.map (·.address)).Nodup) (own : r.Asked d s) (forwards : Monotone time)
    (seen : ∀ i, row[i]? = ((r.partly d (time i))[i]?).map Backend.candidate) (j : Nat)
    (within : j ≤ r.backends.length) : ∃ schedule : List Party,
    schedule.count .writer ≤ time j + 1 ∧ ((Race.start r d).run schedule).reader =
      .reading s (List.range' j (r.backends.length - j)) (row.take j) := by
  -- By the number of backends read. The update is held back so that it has had one turn for the
  -- settings and `time j` for definitions at most when it is the turn of place `j`.
  induction j with
  | zero =>
    obtain ⟨schedule, early, asked⟩ := exists_asked distinct own
    obtain ⟨later, count, reached⟩ := exists_turn early (r := r) (d := d)
    refine ⟨later, by omega, ?_⟩
    rw [reached, asked, Reader.step, listed_after distinct (by omega), List.range_eq_range']
    rfl
  | succ j ih =>
    obtain ⟨schedule, early, reading⟩ := ih (Nat.le_of_succ_le within)
    obtain ⟨later, count, reached⟩ := exists_turn early (r := r) (d := d)
    refine ⟨later, ?_, ?_⟩
    · have le := forwards (Nat.le_add_right j 1)
      omega
    · have more : r.backends.length - j = r.backends.length - (j + 1) + 1 := by omega
      rw [reached, reading, more, List.range'_succ, Reader.step,
        candidate?_after distinct _ within, Nat.add_sub_cancel, ← seen j, ← List.take_add_one]

theorem exists_latter {s : Selector} (distinct : (d.backends.map (·.address)).Nodup)
    (own : r.Asked d s) : ∃ schedule : List Party,
    ((Race.start r d).run schedule).reader = .reading s [] (r.updateFrom d).2.candidates := by
  obtain ⟨schedule, early, asked⟩ := exists_asked distinct own
  obtain ⟨later, count, reached⟩ := @exists_turn r d schedule (d.backends.length + 2) (by omega)
  rw [asked, Reader.step] at reached
  refine ⟨later ++ List.replicate
    (Memory.after r d (d.backends.length + 2)).1.listed.length .reader, ?_⟩
  rw [Race.run_append, Race.reader_run_readers reached, (Race.run_shared r d later).1, count,
    Memory.filterMap_candidate? (cells_after distinct le_rfl)]
  rfl

/-- What a selection that overlaps an update can come to see: the selector of before or after,
and a visible row of candidates, in any combination. -/
theorem exists_run_iff (distinct : (d.backends.map (·.address)).Nodup) {s : Selector}
    {row : List Candidate} :
    (∃ schedule, ((Race.start r d).run schedule).reader = .reading s [] row) ↔
      r.Asked d s ∧ r.Visible d row := by
  constructor
  · rintro ⟨schedule, reached⟩
    have seen := seen_run distinct schedule (r := r)
    rw [reached] at seen
    exact seen.visible
  · rintro ⟨own, rfl | ⟨time, forwards, seen⟩⟩
    · exact exists_latter distinct own
    · obtain ⟨schedule, _, reached⟩ := exists_former distinct own forwards seen _ le_rfl
      have short : row.length ≤ r.backends.length := by
        rw [← List.getElem?_eq_none_iff, seen, List.getElem?_eq_none (by simp)]
        rfl
      refine ⟨schedule, ?_⟩
      rw [reached, Nat.sub_self, List.take_of_length_le short]
      rfl

/-! ### What a selection answers -/

/-- A selection that nothing overlaps is `select`. -/
theorem run_select_alone (r : Record) (d : RecordDefinition) (chance : Chance) (family : Family)
    (client : Address) (geo : GeoSources) (locations : LocationTable) :
    ((Race.start r d).run (List.replicate (r.backends.length + 2) .reader)).reader.answer? chance
      family client geo locations = some (r.select family client geo locations chance).1 := by
  have begun : ((Race.start r d).run [.reader, .reader]).reader =
      .reading r.selector (List.range r.backends.length) [] := rfl
  have ended := Race.reader_run_readers begun
  rw [List.length_range, ← Race.run_append] at ended
  have turns : List.replicate (r.backends.length + 2) Party.reader =
      [.reader, .reader] ++ List.replicate r.backends.length .reader := rfl
  have row : (List.range r.backends.length).filterMap (Memory.ofRecord r).candidate? =
      r.candidates :=
    Memory.filterMap_candidate? (m := .ofRecord r)
      (List.ext_getElem (by simp [Memory.ofRecord]) (by simp [Memory.ofRecord]))
  rw [turns, ended]
  change some (r.selector.select chance { family, client, candidates := _, geo, locations }).1 = _
  rw [List.nil_append]
  exact congrArg (fun row => some (r.selector.select chance
    { family, client, candidates := row, geo, locations }).1) row

/-- The update changes nothing that a selection sees of a backend that stays. -/
def Record.Steady (r : Record) (d : RecordDefinition) : Prop :=
  ∀ x ∈ d.backends, ∀ b, r.backend? x.address = some b → (b.updateFrom x).2.candidate = b.candidate

theorem Record.candidates_mergeInto {x : BackendDefinition} {bs : List Backend}
    (steady : ∀ b, bs.find? (·.address == x.address) = some b →
      (b.updateFrom x).2.candidate = b.candidate) :
    (mergeInto x bs).map Backend.candidate = bs.map Backend.candidate := by
  induction bs with
  | nil => rfl
  | cons b bs ih =>
    rw [mergeInto]
    split
    · rename_i own
      rw [List.map_cons, List.map_cons, steady b (List.find?_cons_of_pos own)]
    · rename_i other
      rw [List.map_cons, List.map_cons, ih fun c found => steady c ?_]
      rw [List.find?_cons, Bool.eq_false_iff.mpr other]
      exact found

theorem Record.Steady.candidates_partly (steady : r.Steady d)
    (distinct : (d.backends.map (·.address)).Nodup) (k : Nat) :
    (r.partly d k).map Backend.candidate = r.candidates := by
  induction k with
  | zero => rfl
  | succ k ih =>
    by_cases within : k < d.backends.length
    · have next := List.getElem?_eq_getElem within
      rw [Record.partly_succ next, Record.candidates_mergeInto fun b found => ?_, ih]
      rw [Record.find?_partly distinct next] at found
      exact steady _ (List.getElem_mem within) b found
    · rw [← ih, Record.partly_of_le (by omega : _ ≤ k + 1),
        Record.partly_of_le (by omega : _ ≤ k)]

/-- With the backends that stay unchanged, a selection sees the one list or the other. -/
theorem Record.Steady.visible (steady : r.Steady d)
    (distinct : (d.backends.map (·.address)).Nodup) {row : List Candidate}
    (visible : r.Visible d row) : row = r.candidates ∨ row = (r.updateFrom d).2.candidates := by
  obtain rfl | ⟨time, _, seen⟩ := visible
  · exact .inr rfl
  · refine .inl (List.ext_getElem? fun i => ?_)
    rw [seen i, ← List.getElem?_map, steady.candidates_partly distinct]

theorem Reader.answer?_eq_some_iff {chance : Chance} {family : Family} {client : Address}
    {geo : GeoSources} {locations : LocationTable} {reader : Reader}
    {answer : Except SelectionError (List Address)} :
    reader.answer? chance family client geo locations = some answer ↔
      ∃ s row, reader = .reading s [] row ∧
        answer = (s.select chance { family, client, candidates := row, geo, locations }).1 := by
  cases reader with
  | fresh => exact ⟨nofun, nofun⟩
  | asked => exact ⟨nofun, nofun⟩
  | reading s pending row =>
    cases pending with
    | nil =>
      constructor
      · intro answered
        exact ⟨s, row, rfl, (Option.some.inj answered).symm⟩
      · rintro ⟨_, _, ⟨⟩, rfl⟩
        rfl
    | cons i pending => exact ⟨nofun, nofun⟩

/-- A selection that overlaps an update answers as the policy of before or after does on what is
visible of the backends, and each such answer is given in some order of turns. If the update
changes neither the mode nor a backend that stays, the answer is the one before or after. -/
theorem overlap_answers_iff (r : Record) (d : RecordDefinition)
    (distinct : (d.backends.map (·.address)).Nodup) (chance : Chance) (family : Family)
    (client : Address) (geo : GeoSources) (locations : LocationTable)
    (answer : Except SelectionError (List Address)) :
    ((∃ schedule, ((Race.start r d).run schedule).reader.answer? chance family client geo
        locations = some answer) ↔
      ∃ s row, r.Asked d s ∧ r.Visible d row ∧
        answer = (s.select chance { family, client, candidates := row, geo, locations }).1) ∧
    (r.settings.mode = d.mode → r.Steady d →
      (∃ schedule, ((Race.start r d).run schedule).reader.answer? chance family client geo
        locations = some answer) →
      answer = (r.select family client geo locations chance).1 ∨
        answer = ((r.updateFrom d).2.select family client geo locations chance).1) := by
  have answers : (∃ schedule, ((Race.start r d).run schedule).reader.answer? chance family client
      geo locations = some answer) ↔
      ∃ s row, r.Asked d s ∧ r.Visible d row ∧
        answer = (s.select chance { family, client, candidates := row, geo, locations }).1 := by
    constructor
    · rintro ⟨schedule, answered⟩
      obtain ⟨s, row, reached, rfl⟩ := Reader.answer?_eq_some_iff.mp answered
      obtain ⟨own, visible⟩ := (exists_run_iff distinct).mp ⟨schedule, reached⟩
      exact ⟨s, row, own, visible, rfl⟩
    · rintro ⟨s, row, own, visible, rfl⟩
      obtain ⟨schedule, reached⟩ := (exists_run_iff distinct).mpr ⟨own, visible⟩
      exact ⟨schedule, Reader.answer?_eq_some_iff.mpr ⟨s, row, reached, rfl⟩⟩
  refine ⟨answers, fun sameMode steady answered => ?_⟩
  obtain ⟨s, row, own, visible, rfl⟩ := answers.mp answered
  have kept : (r.updateFrom d).2.selector = r.selector := by simp [Record.updateFrom, sameMode]
  obtain rfl : s = r.selector := by
    rw [Record.Asked, kept, or_self] at own
    exact own
  obtain rfl | rfl := steady.visible distinct visible
  · exact .inl rfl
  · refine .inr ?_
    rw [Record.select, kept]

/-- Two backends with these priorities. -/
def ranked (first second : Int) : RecordDefinition :=
  .ofBackends "a.example.org." [{ address := .v4 0x0a000001#32, priority := first },
    { address := .v4 0x0a000002#32, priority := second }]

/-- The record of that definition with all backends alive. -/
def rankedAlive (first second : Int) : Record :=
  let r := Record.ofDefinition "example.org." (ranked first second) false
  { r with backends := r.backends.map fun b => { b with health := { alive := true } } }

/-- The second of two priorities is read after an update that swaps them, the first before. -/
theorem overlap_answers_torn : ∃ schedule,
    ((Race.start (rankedAlive 1 2) (ranked 2 1)).run schedule).reader.answer? default .ipv4
      (.v4 0xc6336407#32) {} {} = some (.ok [.v4 0x0a000001#32, .v4 0x0a000002#32]) := by
  have both : (rankedAlive 1 2).Visible (ranked 2 1)
      [{ address := .v4 0x0a000001#32, priority := 1 },
        { address := .v4 0x0a000002#32, priority := 1 }] := by
    refine .inr ⟨fun i => 2 * i, fun i j le => Nat.mul_le_mul_left 2 le, fun i => ?_⟩
    match i with
    | 0 => rfl
    | 1 => rfl
    | i + 2 =>
      have short : (rankedAlive 1 2).backends.length ≤ i + 2 := Nat.le_add_left 2 i
      rw [List.getElem?_eq_none (by simp), List.getElem?_eq_none (by simpa using short)]
      rfl
  exact (overlap_answers_iff (rankedAlive 1 2) (ranked 2 1) (by decide) default .ipv4 _ {} {}
    (.ok _)).1.mpr ⟨_, _, .inl rfl, both, rfl⟩

/-- Neither the answer before the update nor the one after it. -/
theorem overlap_answers_neither : ¬ ∀ (r : Record) (d : RecordDefinition) (chance : Chance)
    (family : Family) (client : Address) (geo : GeoSources) (locations : LocationTable)
    (schedule : List Party) (answer : Except SelectionError (List Address)),
    r.settings.mode = .failover → (d.backends.map (·.address)).Nodup →
    ((Race.start r d).run schedule).reader.answer? chance family client geo locations =
      some answer →
    answer = (r.select family client geo locations chance).1 ∨
      answer = ((r.updateFrom d).2.select family client geo locations chance).1 := by
  intro consistent
  have torn := consistent (rankedAlive 1 2) (ranked 2 1) default .ipv4 (.v4 0xc6336407#32) {} {}
    [.reader, .reader, .reader, .writer, .writer, .writer, .writer, .reader]
    (.ok [.v4 0x0a000001#32, .v4 0x0a000002#32]) rfl (by decide) rfl
  have before : ((rankedAlive 1 2).select .ipv4 (.v4 0xc6336407#32) {} {} default).1 =
    .ok [.v4 0x0a000001#32] := rfl
  have after : (((rankedAlive 1 2).updateFrom (ranked 2 1)).2.select .ipv4 (.v4 0xc6336407#32) {} {}
    default).1 = .ok [.v4 0x0a000002#32] := rfl
  rw [before, after] at torn
  simp at torn

end

end DnsBalancer
