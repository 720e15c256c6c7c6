import DnsBalancer.Proofs.Registry.Record
import Mathlib.Data.List.Induction

/-!
# An update and a selection in turns

A record is read and rewritten under several locks, one for its settings and its selector, one
for its list of backends and one for each backend. Here a selection and an update of one record
take turns in any way, one lock at a time. How far the update has come depends on the number of
its turns alone, and where it ends is the record that `updateFrom` gives.
-/
namespace DnsBalancer

/-- What both sides share. Backends are known by their place among all that were ever made: a
copy of the list leads to the backends themselves. -/
structure Memory where
  fqdn : String
  settings : RecordSettings
  selector : Selector
  cells : List Backend
  listed : List Nat

namespace Memory

def ofRecord (r : Record) : Memory where
  fqdn := r.fqdn
  settings := r.settings
  selector := r.selector
  cells := r.backends
  listed := List.range r.backends.length

/-- Writes the settings; the selector starts anew if the mode changes. -/
def writeSettings (m : Memory) (d : RecordDefinition) : Memory :=
  { m with
    settings := d.settings
    selector := if m.settings.mode == d.mode then m.selector else .ofMode d.mode }

def holds (m : Memory) (a : Address) (i : Nat) : Bool := m.cells[i]?.any (·.address == a)

/-- Updates the listed backend of the address in its place, or makes a new one that is not listed
yet. Tells the place. -/
def mergeBackend (m : Memory) (x : BackendDefinition) : Memory × Nat :=
  match m.listed.find? (m.holds x.address) with
  | some i => ({ m with cells := m.cells.modify i fun b => (b.updateFrom x).2 }, i)
  | none =>
    ({ m with cells := m.cells ++ [{ record := m.fqdn, definition := x }] }, m.cells.length)

/-- What a selection sees at a place. -/
def candidate? (m : Memory) (i : Nat) : Option Candidate := m.cells[i]?.map Backend.candidate

end Memory

/-- How far a selection has come. -/
inductive Reader where
  | fresh
  | asked (selector : Selector)
  | reading (selector : Selector) (pending : List Nat) (row : List Candidate)

def Reader.step (m : Memory) : Reader → Reader
  | .fresh => .asked m.selector
  | .asked s => .reading s m.listed []
  | .reading s (i :: pending) row =>
    .reading s pending (row ++ (m.candidate? i).toList)
  | .reading s [] row => .reading s [] row

/-- What the policy answers once all backends were seen. -/
def Reader.answer? (chance : Chance) (family : Family) (client : Address) (geo : GeoSources)
    (locations : LocationTable) : Reader → Option (Except SelectionError (List Address))
  | .reading s [] row =>
    some (s.select chance { family, client, candidates := row, geo, locations }).1
  | _ => none

/-- How far an update has come. -/
inductive Writer where
  | fresh (d : RecordDefinition)
  | merging (pending : List BackendDefinition) (places : List Nat)
  | done

def Writer.step (m : Memory) : Writer → Memory × Writer
  | .fresh d => (m.writeSettings d, .merging d.backends [])
  | .merging (x :: pending) places =>
    let (m, place) := m.mergeBackend x
    (m, .merging pending (places ++ [place]))
  | .merging [] places => ({ m with listed := places }, .done)
  | .done => (m, .done)

inductive Party where
  | reader
  | writer
  deriving DecidableEq

/-- A selection and an update of one record, both under way. -/
structure Race where
  memory : Memory
  reader : Reader
  writer : Writer

namespace Race

def start (r : Record) (d : RecordDefinition) : Race where
  memory := .ofRecord r
  reader := .fresh
  writer := .fresh d

def step (c : Race) : Party → Race
  | .reader => { c with reader := c.reader.step c.memory }
  | .writer =>
    let (memory, writer) := c.writer.step c.memory
    { c with memory, writer }

def run (c : Race) (schedule : List Party) : Race := schedule.foldl step c

theorem run_append (c : Race) (first second : List Party) :
    c.run (first ++ second) = (c.run first).run second := List.foldl_append

theorem run_concat (c : Race) (schedule : List Party) (p : Party) :
    c.run (schedule ++ [p]) = (c.run schedule).step p := by
  rw [run_append]
  rfl

end Race

/-! ### Definitions merged one after the other -/

namespace Record

/-- Brings the first backend of the address up to date. -/
def mergeInto (x : BackendDefinition) : List Backend → List Backend
  | [] => []
  | b :: bs => if b.address == x.address then (b.updateFrom x).2 :: bs else b :: mergeInto x bs

/-- The backends listed before an update, when it has got through the first `k` definitions. -/
def partly (r : Record) (d : RecordDefinition) (k : Nat) : List Backend :=
  (d.backends.take k).foldl (fun bs x => mergeInto x bs) r.backends

section

variable {r : Record} {d : RecordDefinition}

theorem mergeInto_eq_modify (x : BackendDefinition) (bs : List Backend) : mergeInto x bs =
    bs.modify (bs.findIdx (·.address == x.address)) fun b => (b.updateFrom x).2 := by
  induction bs with
  | nil => rfl
  | cons b bs ih =>
    rw [mergeInto, List.findIdx_cons]
    cases b.address == x.address with
    | true => rfl
    | false => simp [ih]

theorem find?_mergeInto {x : BackendDefinition} {a : Address} (other : x.address ≠ a)
    (bs : List Backend) :
    (mergeInto x bs).find? (·.address == a) = bs.find? (·.address == a) := by
  induction bs with
  | nil => rfl
  | cons b bs ih =>
    rw [mergeInto]
    split
    · rename_i own
      have different : (b.address == a) = false := by
        rw [beq_iff_eq.mp own]
        exact beq_false_of_ne other
      have kept : ((b.updateFrom x).2.address == a) = false := different
      rw [List.find?_cons, List.find?_cons, different, kept]
    · rw [List.find?_cons, List.find?_cons, ih]

theorem partly_succ {k : Nat} {x : BackendDefinition} (next : d.backends[k]? = some x) :
    r.partly d (k + 1) = mergeInto x (r.partly d k) := by
  rw [partly, partly, List.take_add_one, next, List.foldl_append]
  rfl

@[simp] theorem length_partly (r : Record) (d : RecordDefinition) (k : Nat) :
    (r.partly d k).length = r.backends.length := by
  have each (xs : List BackendDefinition) (bs : List Backend) :
      (xs.foldl (fun bs x => mergeInto x bs) bs).length = bs.length := by
    induction xs generalizing bs with
    | nil => rfl
    | cons x xs ih => rw [List.foldl_cons, ih, mergeInto_eq_modify, List.length_modify]
  exact each _ _

theorem address_ne_of_mem_take {k : Nat} {x y : BackendDefinition}
    (distinct : (d.backends.map (·.address)).Nodup) (next : d.backends[k]? = some x)
    (earlier : y ∈ d.backends.take k) : y.address ≠ x.address := by
  rw [← List.take_append_drop k d.backends, List.map_append, List.nodup_append] at distinct
  have later : x ∈ d.backends.drop k := by
    obtain ⟨inside, rfl⟩ := List.getElem?_eq_some_iff.mp next
    rw [List.drop_eq_getElem_cons inside]
    exact List.mem_cons_self
  exact distinct.2.2 _ (List.mem_map_of_mem earlier) _ (List.mem_map_of_mem later)

/-- A definition finds its backend as it was before the update. -/
theorem find?_partly {k : Nat} {x : BackendDefinition}
    (distinct : (d.backends.map (·.address)).Nodup) (next : d.backends[k]? = some x) :
    (r.partly d k).find? (·.address == x.address) = r.backend? x.address := by
  have each (xs : List BackendDefinition) (bs : List Backend)
      (others : ∀ y ∈ xs, y.address ≠ x.address) :
      (xs.foldl (fun bs x => mergeInto x bs) bs).find? (·.address == x.address) =
        bs.find? (·.address == x.address) := by
    induction xs generalizing bs with
    | nil => rfl
    | cons y ys ih =>
      obtain ⟨first, rest⟩ := List.forall_mem_cons.mp others
      rw [List.foldl_cons, ih _ rest, find?_mergeInto first]
  exact each _ _ fun y earlier => address_ne_of_mem_take distinct next earlier

end

end Record

/-! ### The update, turn by turn -/

/-- What the memory and the update come to after so many turns of the update. -/
def Memory.after (r : Record) (d : RecordDefinition) : Nat → Memory × Writer
  | 0 => (.ofRecord r, .fresh d)
  | p + 1 => (after r d p).2.step (after r d p).1

/-- The update has got through the first `k` definitions and has not touched the list. -/
structure Midway (r : Record) (d : RecordDefinition) (k : Nat) (m : Memory) (places : List Nat) :
    Prop where
  fqdn : m.fqdn = r.fqdn
  settings : m.settings = d.settings
  selector : m.selector = (r.updateFrom d).2.selector
  listed : m.listed = List.range r.backends.length
  cells : ∀ i < r.backends.length, m.cells[i]? = (r.partly d k)[i]?
  places : places.map (m.cells[·]?) =
    (d.backends.take k).map fun x => some (r.mergeBackend x).2

section

variable {r : Record} {d : RecordDefinition} {k : Nat} {m : Memory} {places : List Nat}

theorem find?_range {α : Type} {q : α → Bool} {as : List α} {p : Nat → Bool}
    (same : ∀ i < as.length, p i = as[i]?.any q) :
    (List.range as.length).find? p = as.findIdx? q := by
  refine Option.ext fun i => ?_
  rw [List.find?_range_eq_some, List.findIdx?_eq_some_iff_getElem]
  constructor
  · rintro ⟨own, inside, before⟩
    have inside := List.mem_range.mp inside
    refine ⟨inside, by simpa [same i inside, inside] using own, fun j below => ?_⟩
    have later := before j below
    have bound : j < as.length := Nat.lt_trans below inside
    simpa [same j bound, bound] using later
  · rintro ⟨inside, own, before⟩
    refine ⟨by simpa [same i inside, inside] using own, List.mem_range.mpr inside,
      fun j below => ?_⟩
    have bound : j < as.length := Nat.lt_trans below inside
    simpa [same j bound, bound] using before j below

/-- An update looks for backends among those that were there when it began. -/
theorem Midway.find?_listed (midway : Midway r d k m places) (a : Address) :
    m.listed.find? (m.holds a) = (r.partly d k).findIdx? (·.address == a) := by
  rw [midway.listed, ← Record.length_partly r d k]
  refine find?_range fun i inside => ?_
  rw [Record.length_partly] at inside
  rw [Memory.holds, midway.cells i inside]

/-- Where the definitions so far have put their backends, no backend of another address is. -/
theorem Midway.address_of_place {x : BackendDefinition} (midway : Midway r d k m places)
    (distinct : (d.backends.map (·.address)).Nodup) (next : d.backends[k]? = some x)
    {i : Nat} (placed : i ∈ places) : ∃ b, m.cells[i]? = some b ∧ b.address ≠ x.address := by
  have there : m.cells[i]? ∈ places.map (m.cells[·]?) := List.mem_map_of_mem placed
  rw [midway.places] at there
  obtain ⟨y, earlier, held⟩ := List.mem_map.mp there
  refine ⟨_, held.symm, ?_⟩
  rw [Record.address_mergeBackend]
  exact Record.address_ne_of_mem_take distinct next earlier

/-- A definition whose backend is new leaves those that there are alone. -/
theorem Midway.make {x : BackendDefinition} (midway : Midway r d k m places)
    (distinct : (d.backends.map (·.address)).Nodup) (next : d.backends[k]? = some x)
    (absent : (r.partly d k).findIdx? (·.address == x.address) = none) :
    Midway r d (k + 1) { m with cells := m.cells ++ [{ record := m.fqdn, definition := x }] }
      (places ++ [m.cells.length]) := by
  have unlisted : r.backend? x.address = none := by
    rw [← Record.find?_partly distinct next, List.find?_eq_none]
    simpa using List.findIdx?_eq_none_iff.mp absent
  have same : r.partly d (k + 1) = r.partly d k := by
    rw [Record.partly_succ next, Record.mergeInto_eq_modify]
    refine List.modify_eq_self (Nat.le_of_not_lt fun inside => ?_)
    obtain ⟨b, there, own⟩ := List.findIdx_lt_length.mp inside
    have other := List.findIdx?_eq_none_iff.mp absent b there
    rw [own] at other
    cases other
  refine { midway with cells := fun i inside => ?_, places := ?_ }
  · have held := midway.cells i inside
    rw [← Record.length_partly r d k] at inside
    rw [List.getElem?_eq_getElem inside] at held
    rw [same, List.getElem?_append_left (List.getElem?_eq_some_iff.mp held).1, held,
      List.getElem?_eq_getElem inside]
  · have kept : places.map ((m.cells ++ [{ record := m.fqdn, definition := x }])[·]?) =
        places.map (m.cells[·]?) := by
      refine List.map_congr_left fun i placed => ?_
      obtain ⟨b, held, _⟩ := midway.address_of_place distinct next placed
      exact List.getElem?_append_left (List.getElem?_eq_some_iff.mp held).1
    rw [List.take_add_one, next, List.map_append, List.map_append, kept, midway.places]
    simp [Record.mergeBackend_new unlisted, midway.fqdn]

/-- A definition whose backend is listed changes that backend alone. -/
theorem Midway.update {x : BackendDefinition} (midway : Midway r d k m places)
    (distinct : (d.backends.map (·.address)).Nodup) (next : d.backends[k]? = some x) {i : Nat}
    (place : (r.partly d k).findIdx? (·.address == x.address) = some i) :
    Midway r d (k + 1) { m with cells := m.cells.modify i fun b => (b.updateFrom x).2 }
      (places ++ [i]) := by
  obtain ⟨inside, own, before⟩ := List.findIdx?_eq_some_iff_getElem.mp place
  have live : r.backend? x.address = some (r.partly d k)[i] := by
    rw [← Record.find?_partly distinct next, List.find?_eq_some_iff_getElem]
    exact ⟨own, i, inside, rfl, by simpa using before⟩
  have held : m.cells[i]? = some (r.partly d k)[i] := by
    rw [midway.cells i (by simpa using inside), List.getElem?_eq_getElem inside]
  refine { midway with cells := fun j there => ?_, places := ?_ }
  · have first : (r.partly d k).findIdx (·.address == x.address) = i := by
      rw [List.findIdx_eq_getD_findIdx?, place]
      rfl
    rw [Record.partly_succ next, Record.mergeInto_eq_modify, first, List.getElem?_modify,
      List.getElem?_modify, midway.cells j there]
  · have kept : places.map ((m.cells.modify i fun b => (b.updateFrom x).2)[·]?) =
        places.map (m.cells[·]?) := by
      -- The place is of this address, and those taken before are of others.
      refine List.map_congr_left fun j placed => ?_
      obtain ⟨b, other, different⟩ := midway.address_of_place distinct next placed
      refine List.getElem?_modify_ne _ _ fun same => different ?_
      rw [← same, held] at other
      rw [← Option.some.inj other]
      exact beq_iff_eq.mp own
    rw [List.take_add_one, next, List.map_append, List.map_append, kept, midway.places]
    simp [Record.mergeBackend_live live, List.getElem?_modify, held]

theorem Midway.mergeBackend {x : BackendDefinition} (midway : Midway r d k m places)
    (distinct : (d.backends.map (·.address)).Nodup) (next : d.backends[k]? = some x) :
    Midway r d (k + 1) (m.mergeBackend x).1 (places ++ [(m.mergeBackend x).2]) := by
  rw [Memory.mergeBackend, midway.find?_listed]
  cases place : (r.partly d k).findIdx? (·.address == x.address) with
  | none => exact midway.make distinct next place
  | some i => exact midway.update distinct next place

/-- The memory after the settings were written and `k` definitions merged. -/
theorem after_merging (distinct : (d.backends.map (·.address)).Nodup) (k : Nat)
    (within : k ≤ d.backends.length) : ∃ m places,
    Memory.after r d (k + 1) = (m, .merging (d.backends.drop k) places) ∧
      Midway r d k m places := by
  induction k with
  | zero =>
    refine ⟨_, _, rfl, ?_⟩
    constructor <;> first | rfl | exact fun _ _ => rfl
  | succ k ih =>
    obtain ⟨m, places, reached, midway⟩ := ih (Nat.le_of_succ_le within)
    rw [List.drop_eq_getElem_cons within] at reached
    refine ⟨_, _, ?_, midway.mergeBackend distinct (List.getElem?_eq_getElem within)⟩
    rw [Memory.after, reached]
    rfl

/-- The memory after the update. -/
theorem after_update (distinct : (d.backends.map (·.address)).Nodup) : ∃ m places,
    Midway r d d.backends.length m places ∧ ∀ p,
      Memory.after r d (d.backends.length + 2 + p) = ({ m with listed := places }, .done) := by
  obtain ⟨m, places, reached, midway⟩ :=
    after_merging distinct d.backends.length (Nat.le_refl _) (r := r)
  refine ⟨m, places, midway, fun p => ?_⟩
  induction p with
  | zero =>
    rw [List.drop_length] at reached
    rw [Nat.add_zero, Memory.after, reached]
    rfl
  | succ p ih =>
    rw [← Nat.add_assoc, Memory.after, ih]
    rfl

theorem Record.partly_of_le {k : Nat} (through : d.backends.length ≤ k) :
    r.partly d k = r.partly d d.backends.length := by
  rw [partly, partly, List.take_of_length_le through, List.take_length]

theorem after_cases (distinct : (d.backends.map (·.address)).Nodup) (p : Nat) : p = 0 ∨
    (∃ m places, p < d.backends.length + 2 ∧ Midway r d (p - 1) m places ∧
      (Memory.after r d p).1 = m) ∨
    ∃ m places, d.backends.length + 2 ≤ p ∧ Midway r d d.backends.length m places ∧
      (Memory.after r d p).1 = { m with listed := places } := by
  cases p with
  | zero => exact .inl rfl
  | succ k =>
    by_cases within : k ≤ d.backends.length
    · obtain ⟨m, places, reached, midway⟩ := after_merging distinct k within (r := r)
      exact .inr (.inl ⟨m, places, by omega, midway, by rw [reached]⟩)
    · obtain ⟨m, places, midway, reached⟩ := after_update distinct (r := r)
      obtain ⟨q, late⟩ := Nat.exists_eq_add_of_le (show d.backends.length + 2 ≤ k + 1 by omega)
      exact .inr (.inr ⟨m, places, by omega, midway, by rw [late, reached]⟩)

/-- A backend that was there before the update, at any time. -/
theorem candidate?_after (distinct : (d.backends.map (·.address)).Nodup) (p : Nat) {i : Nat}
    (inside : i < r.backends.length) : (Memory.after r d p).1.candidate? i =
      ((r.partly d (p - 1))[i]?).map Backend.candidate := by
  rw [Memory.candidate?]
  obtain rfl | ⟨m, places, _, midway, reached⟩ | ⟨m, places, late, midway, reached⟩ :=
    after_cases distinct p (r := r)
  · rfl
  · rw [reached, midway.cells i inside]
  · rw [reached, midway.cells i inside, Record.partly_of_le (by omega : _ ≤ p - 1)]

theorem selector_after (distinct : (d.backends.map (·.address)).Nodup) {p : Nat} (begun : 0 < p) :
    (Memory.after r d p).1.selector = (r.updateFrom d).2.selector := by
  obtain rfl | ⟨m, places, _, midway, reached⟩ | ⟨m, places, _, midway, reached⟩ :=
    after_cases distinct p (r := r)
  · cases begun
  · rw [reached, midway.selector]
  · rw [reached, midway.selector]

theorem listed_after (distinct : (d.backends.map (·.address)).Nodup) {p : Nat}
    (early : p < d.backends.length + 2) :
    (Memory.after r d p).1.listed = List.range r.backends.length := by
  obtain rfl | ⟨m, places, _, midway, reached⟩ | ⟨_, _, late, _⟩ := after_cases distinct p (r := r)
  · rfl
  · rw [reached, midway.listed]
  · omega

/-- After the update the list leads to the backends that the update is to leave. -/
theorem cells_after (distinct : (d.backends.map (·.address)).Nodup) {p : Nat}
    (late : d.backends.length + 2 ≤ p) :
    (Memory.after r d p).1.listed.map ((Memory.after r d p).1.cells[·]?) =
      (r.updateFrom d).2.backends.map some := by
  obtain rfl | ⟨_, _, early, _⟩ | ⟨m, places, _, midway, reached⟩ := after_cases distinct p (r := r)
  · omega
  · omega
  · rw [reached, Record.backends_updateFrom, List.map_map]
    have put := midway.places
    rw [List.take_length] at put
    exact put

/-- Who holds the places of these backends sees them. -/
theorem Memory.filterMap_candidate? {m : Memory} {bs : List Backend}
    (held : m.listed.map (m.cells[·]?) = bs.map some) :
    m.listed.filterMap m.candidate? = bs.map Backend.candidate := by
  have seen := congrArg (List.filterMap (Option.map Backend.candidate)) held
  rw [List.filterMap_map, List.filterMap_map] at seen
  refine seen.trans ?_
  rw [← List.filterMap_eq_map]
  rfl

theorem after_of_late (distinct : (d.backends.map (·.address)).Nodup)
    (late : d.backends.length + 2 ≤ p) : Memory.after r d (p + 1) = Memory.after r d p := by
  obtain ⟨m, places, _, reached⟩ := after_update distinct (r := r)
  obtain ⟨q, rfl⟩ := Nat.exists_eq_add_of_le late
  rw [reached, Nat.add_assoc, reached]

/-- The memory and the update depend on no turn of the selection. -/
theorem Race.run_shared (r : Record) (d : RecordDefinition) (schedule : List Party) :
    ((Race.start r d).run schedule).memory = (Memory.after r d (schedule.count .writer)).1 ∧
      ((Race.start r d).run schedule).writer = (Memory.after r d (schedule.count .writer)).2 := by
  induction schedule using List.reverseRecOn with
  | nil => exact ⟨rfl, rfl⟩
  | append_singleton schedule p ih =>
    obtain ⟨memory, writer⟩ := ih
    rw [Race.run_concat, List.count_append]
    cases p with
    | reader => exact ⟨memory, writer⟩
    | writer =>
      rw [Race.step, memory, writer]
      exact ⟨rfl, rfl⟩

/-- An update that nothing overlaps is `updateFrom`. -/
theorem run_update_alone (distinct : (d.backends.map (·.address)).Nodup) :
    let c := (Race.start r d).run (List.replicate (d.backends.length + 2) .writer)
    c.writer = .done ∧ c.memory.settings = (r.updateFrom d).2.settings ∧
      c.memory.selector = (r.updateFrom d).2.selector ∧
      c.memory.listed.map (c.memory.cells[·]?) = (r.updateFrom d).2.backends.map some := by
  have turns := Race.run_shared r d (List.replicate (d.backends.length + 2) .writer)
  rw [List.count_replicate_self] at turns
  obtain ⟨m, places, midway, reached⟩ := after_update distinct (r := r)
  have last := reached 0
  rw [Nat.add_zero] at last
  dsimp only
  rw [turns.1, turns.2, cells_after distinct (Nat.le_refl _), last]
  exact ⟨rfl, midway.settings, midway.selector, rfl⟩

end

end DnsBalancer
