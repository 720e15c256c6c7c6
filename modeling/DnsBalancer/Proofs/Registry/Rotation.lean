import DnsBalancer.Proofs.Registry.Serving
import DnsBalancer.Proofs.Selection.Rotation
import Mathlib.Data.List.Rotate

/-!
# Rotation over reloads and changes of health

Between selections cycles begin and end on the backends of a record, and definitions are merged
into it. Neither touches the cursor while the mode stays, so that selections which find the same
addresses go on round them from wherever the cursor happens to point. A change of the mode starts
the rotation anew.
-/
namespace DnsBalancer

/-- What happens to a record. -/
inductive RecordEvent where
  | asked (q : Ask)
  | merged (d : RecordDefinition)
  /-- A step of probing on the backend at a place of the list. -/
  | probed (place : Nat) (step : ProbeStep)

/-- The event is a selection for the family, or it leaves the mode at rotation. -/
def RecordEvent.Keeps (family : Family) : RecordEvent → Prop
  | .asked q => q.family = family
  | .merged d => d.mode = .roundRobin
  | .probed .. => True

namespace Record

/-- The record after an event. -/
def happen (r : Record) : RecordEvent → Record
  | .asked q => (r.turn q).2
  | .merged d => (r.updateFrom d).2
  | .probed place step => { r with backends := r.backends.modify place (·.probed step) }

def after (r : Record) (es : List RecordEvent) : Record := es.foldl happen r

/-- The selections among the events, one after another. -/
def selections (r : Record) : List RecordEvent → List Turn
  | [] => []
  | .asked q :: es => (r.turn q).1 :: (r.happen (.asked q)).selections es
  | e :: es => (r.happen e).selections es

/-- The record is in rotation, and so is its selector. -/
structure Rotates (r : Record) : Prop where
  settings : r.settings.mode = .roundRobin
  selector : r.selector.mode = .roundRobin

/-- The addresses that are eligible stay the same. -/
def Retains (r : Record) (family : Family) (pool : List Address) (es : List RecordEvent) : Prop :=
  ∀ past, past <+: es → (r.after past).pool family = pool

/-- The selections go round the addresses from the place `k` on. -/
def Tours (ts : List Turn) (pool : List Address) (k : Nat) : Prop :=
  ∀ i t, ts[i]? = some t → ∃ a, pool[(k + i) % pool.length]? = some a ∧ t.answer = .ok [a]

variable {r : Record} {family : Family} {e : RecordEvent} {es : List RecordEvent}
  {pool : List Address}

theorem rotates_ofDefinition {d : RecordDefinition} (rotation : d.mode = .roundRobin)
    (zone : String) (cancelled : Bool) : (ofDefinition zone d cancelled).Rotates :=
  ⟨rotation, rotation⟩

theorem after_append (r : Record) (past es : List RecordEvent) :
    r.after (past ++ es) = (r.after past).after es := List.foldl_append

theorem length_pool_le (r : Record) (family : Family) :
    (r.pool family).length ≤ r.backends.length := by
  rw [pool, List.length_map]
  exact List.length_filter_le ..

/-! ### One event -/

/-- While the mode stays, the cursor is moved by selections alone. -/
theorem cursor_happen (rotates : r.Rotates) (keeps : e.Keeps family) :
    (r.happen e).selector.cursor = match e with
      | .asked _ => r.following family r.selector.cursor
      | _ => r.selector.cursor := by
  cases e with
  | asked q =>
    have own : q.family = family := keeps
    rw [happen, turn_eq rotates.selector, own]
    rfl
  | merged d =>
    have same : r.settings.mode = d.mode := rotates.settings.trans keeps.symm
    simp [happen, updateFrom, same]
  | probed place step => rfl

theorem rotates_happen (rotates : r.Rotates) (keeps : e.Keeps family) :
    (r.happen e).Rotates := by
  cases e with
  | asked q =>
    rw [happen, turn_eq rotates.selector]
    exact ⟨rotates.settings, rotates.selector⟩
  | merged d =>
    have same : r.settings.mode = d.mode := rotates.settings.trans keeps.symm
    refine ⟨keeps, ?_⟩
    simp [happen, updateFrom, same, rotates.selector]
  | probed place step => exact ⟨rotates.settings, rotates.selector⟩

theorem rotates_after (rotates : r.Rotates) (keeps : ∀ e ∈ es, e.Keeps family) :
    (r.after es).Rotates := by
  induction es generalizing r with
  | nil => exact rotates
  | cons e es ih =>
    obtain ⟨first, rest⟩ := List.forall_mem_cons.mp keeps
    exact ih (rotates_happen rotates first) rest

/-- What a selection in rotation does. Without an address to choose it fails and leaves the
selector alone. Otherwise it finds one where the cursor points, and leaves the cursor at a place
of the pool. -/
structure Advances (r : Record) (q : Ask) : Prop where
  refused : r.pool q.family = [] →
    (r.turn q).1.answer = .error (.noHealthyBackend .roundRobin q.family) ∧
    (r.turn q).2.selector = r.selector
  chosen : r.pool q.family ≠ [] →
    (∃ a, (r.pool q.family)[r.selector.cursor % (r.pool q.family).length]? = some a ∧
      (r.turn q).1.answer = .ok [a]) ∧
    (r.turn q).2.selector.cursor < (r.pool q.family).length

theorem advances (rotates : r.Rotates) (q : Ask) : r.Advances q where
  refused empty := by
    rw [turn_eq rotates.selector]
    simp [pointed, following, atCursor, empty]
  chosen nonempty := by
    rw [turn_eq rotates.selector]
    refine ⟨pointed_eq nonempty r.selector.cursor, ?_⟩
    rw [cursor_atCursor, following, if_neg nonempty]
    exact Nat.mod_lt _ (List.length_pos_iff.mpr nonempty)

/-! ### Runs -/

/-- The cursor stays below every bound on the numbers of backends. -/
theorem cursor_after_lt {size : Nat} (rotates : r.Rotates) (start : r.selector.cursor < size)
    (keeps : ∀ e ∈ es, e.Keeps family)
    (few : ∀ past, past <+: es → (r.after past).backends.length ≤ size) :
    (r.after es).selector.cursor < size := by
  induction es using List.reverseRecOn with
  | nil => exact start
  | append_singleton past e ih =>
    obtain ⟨before, last⟩ := List.forall_mem_append.mp keeps
    have below := ih before fun older part => few older (part.trans (List.prefix_append _ _))
    rw [after_append, after, List.foldl_cons, List.foldl_nil,
      cursor_happen (rotates_after rotates before) (last e (List.mem_singleton_self e))]
    cases e with
    | asked q =>
      dsimp only [following]
      split
      · exact below
      · rename_i nonempty
        have inside := Nat.mod_lt ((r.after past).selector.cursor + 1)
          (List.length_pos_iff.mpr nonempty)
        exact inside.trans_le ((length_pool_le _ family).trans (few past (List.prefix_append _ _)))
    | merged d => exact below
    | probed place step => exact below

theorem retains_happen (retains : r.Retains family pool (e :: es)) :
    (r.happen e).Retains family pool es := fun past part =>
  retains (e :: past) (List.cons_prefix_cons.mpr ⟨rfl, part⟩)

theorem Tours.cons {t : Turn} {ts : List Turn} {k : Nat}
    (first : ∃ a, pool[k % pool.length]? = some a ∧ t.answer = .ok [a])
    (rest : Tours ts pool ((k + 1) % pool.length)) : Tours (t :: ts) pool k := by
  intro i u placed
  cases i with
  | zero =>
    obtain rfl : t = u := by simpa using placed
    exact first
  | succ i =>
    obtain ⟨a, here, answer⟩ := rest i u (by simpa using placed)
    rw [Nat.mod_add_mod, Nat.add_assoc, Nat.add_comm 1] at here
    exact ⟨a, here, answer⟩

/-- The place counts round and round. -/
theorem Tours.mod {ts : List Turn} {k : Nat} (tours : Tours ts pool k) :
    Tours ts pool (k % pool.length) := by
  simpa only [Tours, Nat.mod_add_mod] using tours

/-- A stretch of events with one pool goes round the pool from where the cursor points. -/
theorem tours_selections (rotates : r.Rotates) (keeps : ∀ e ∈ es, e.Keeps family)
    (retains : r.Retains family pool es) (nonempty : pool ≠ []) :
    Tours (r.selections es) pool r.selector.cursor := by
  induction es generalizing r with
  | nil => simp [Tours, selections]
  | cons e es ih =>
    obtain ⟨first, rest⟩ := List.forall_mem_cons.mp keeps
    have later := ih (rotates_happen rotates first) rest (retains_happen retains)
    rw [cursor_happen rotates first] at later
    cases e with
    | asked q =>
      have own : q.family = family := first
      have now : r.pool family = pool := retains [] (List.nil_prefix ..)
      have chosen := ((advances rotates q).chosen (own ▸ now ▸ nonempty)).1
      rw [own, now] at chosen
      simp only [following, now, if_neg nonempty] at later
      exact later.cons chosen
    | merged d => exact later
    | probed place step => exact later

/-- As many selections on the way round as there are addresses give each once. -/
theorem Tours.perm {ts round : List Turn} {k : Nat} (tours : Tours ts pool k)
    (part : round <:+: ts) (full : round.length = pool.length) :
    (round.map (·.answer)).Perm (pool.map fun a => .ok [a]) := by
  obtain ⟨before, behind, rfl⟩ := part
  -- The answers are the pool, turned to where the round begins.
  have turned : round.map (·.answer) =
      (pool.rotate (k + before.length)).map fun a => .ok [a] := by
    apply List.ext_getElem
    · simp [full]
    · intro i inside _
      have bound : i < round.length := by simpa using inside
      obtain ⟨a, here, answer⟩ := tours (before.length + i) round[i] (by
        rw [List.append_assoc, List.getElem?_append_right (Nat.le_add_right ..),
          Nat.add_sub_cancel_left, List.getElem?_append_left bound,
          List.getElem?_eq_getElem bound])
      rw [← Nat.add_assoc, Nat.add_comm, ← List.getElem?_rotate (full ▸ bound)] at here
      obtain ⟨_, placed⟩ := List.getElem?_eq_some_iff.mp here
      simp only [List.getElem_map, answer, placed]
  rw [turned]
  exact (List.rotate_perm ..).map _

/-- Selections that fail leave the cursor where it is. -/
theorem cursor_after_of_failed (rotates : r.Rotates) (keeps : ∀ e ∈ es, e.Keeps family)
    (failed : ∀ t ∈ r.selections es, ∀ found, t.answer ≠ .ok found) :
    (r.after es).selector.cursor = r.selector.cursor := by
  induction es generalizing r with
  | nil => rfl
  | cons e es ih =>
    obtain ⟨first, rest⟩ := List.forall_mem_cons.mp keeps
    have next := rotates_happen rotates first
    cases e with
    | asked q =>
      obtain ⟨now, later⟩ := List.forall_mem_cons.mp failed
      -- It fails for want of an address only.
      have empty : r.pool q.family = [] := by
        by_contra nonempty
        obtain ⟨⟨a, _, answer⟩, _⟩ := (advances rotates q).chosen nonempty
        exact now [a] answer
      rw [after, List.foldl_cons, ← after, ih next rest later]
      exact congrArg _ ((advances rotates q).refused empty).2
    | merged d =>
      rw [after, List.foldl_cons, ← after, ih next rest failed, cursor_happen rotates first]
    | probed place step => exact ih next rest failed

/-! ### A change of the mode -/

/-- Nothing but a definition brings the mode back. -/
theorem mode_after_ne (other : r.settings.mode ≠ .roundRobin)
    (never : ∀ d, .merged d ∈ es → d.mode ≠ .roundRobin) :
    (r.after es).settings.mode ≠ .roundRobin := by
  induction es generalizing r with
  | nil => exact other
  | cons e es ih =>
    refine ih ?_ fun d member => never d (List.mem_cons_of_mem _ member)
    cases e with
    | asked q => exact other
    | merged d => exact never d (List.mem_cons_self ..)
    | probed place step => exact other

theorem restarts {d : RecordDefinition} (other : r.settings.mode ≠ .roundRobin)
    (back : d.mode = .roundRobin) :
    (r.happen (.merged d)).Rotates ∧ (r.happen (.merged d)).selector.cursor = 0 := by
  have anew : (r.happen (.merged d)).selector = .ofMode .roundRobin := by
    simp [happen, updateFrom, back, other]
  exact ⟨⟨back, congrArg Selector.mode anew⟩, congrArg Selector.cursor anew⟩

/-- A record in rotation is asked for one family, while definitions that keep the mode are merged
into it and probing goes on. The cursor stays below what bounds the number of backends. While the
pool stays the same, the selections go round it, and each round of them gives every address once.
When the mode has been changed and is changed back, they start with the first address. -/
theorem rotation_survives (rotates : r.Rotates) (keeps : ∀ e ∈ es, e.Keeps family) :
    (∀ past q rest, es = past ++ .asked q :: rest → (r.after past).Advances q) ∧
    (∀ size, r.selector.cursor < size →
      (∀ past, past <+: es → (r.after past).backends.length ≤ size) →
      ∀ past, past <+: es → (r.after past).selector.cursor < size) ∧
    (∀ past stretch rest pool, es = past ++ stretch ++ rest →
      (r.after past).Retains family pool stretch → pool ≠ [] →
      ∃ k < pool.length, Tours ((r.after past).selections stretch) pool k ∧
        ∀ round, round <:+: (r.after past).selections stretch → round.length = pool.length →
          (round.map (·.answer)).Perm (pool.map fun a => .ok [a])) ∧
    (∀ away between back, away.mode ≠ .roundRobin →
      (∀ d, .merged d ∈ between → d.mode ≠ .roundRobin) → back.mode = .roundRobin →
      ∀ s, s = r.after (es ++ .merged away :: between ++ [.merged back]) →
      ∀ failing stretch pool, (∀ e ∈ failing ++ stretch, e.Keeps family) →
        (∀ t ∈ s.selections failing, ∀ found, t.answer ≠ .ok found) →
        (s.after failing).Retains family pool stretch → pool ≠ [] →
        Tours ((s.after failing).selections stretch) pool 0) := by
  refine ⟨?_, ?_, ?_, ?_⟩
  · rintro past q rest rfl
    exact advances (rotates_after rotates (List.forall_mem_append.mp keeps).1) q
  · intro size start few past part
    refine cursor_after_lt rotates start (fun e member => keeps e (part.subset member)) ?_
    exact fun older before => few older (before.trans part)
  · rintro past stretch rest pool rfl retains nonempty
    obtain ⟨before, during⟩ := List.forall_mem_append.mp (List.forall_mem_append.mp keeps).1
    have tours := (tours_selections (rotates_after rotates before) during retains nonempty).mod
    exact ⟨_, Nat.mod_lt _ (List.length_pos_iff.mpr nonempty), tours,
      fun round part full => tours.perm part full⟩
  · rintro away between back other never same s rfl failing stretch pool kept failed retains
      nonempty
    obtain ⟨before, during⟩ := List.forall_mem_append.mp kept
    -- The selector is a new one when the mode comes back, whatever has been done with the old one.
    have left : (r.after (es ++ .merged away :: between)).settings.mode ≠ .roundRobin := by
      rw [after_append]
      exact mode_after_ne (r := (r.after es).happen (.merged away)) other never
    obtain ⟨anew, start⟩ := restarts left same
    rw [after_append] at failed retains ⊢
    have tours := tours_selections (rotates_after anew before) during retains nonempty
    rwa [cursor_after_of_failed anew before failed, start] at tours

/-- Three backends in rotation. -/
def threefold : RecordDefinition where
  fqdn := "a.example.org."
  mode := .roundRobin
  backends := [0x0a000001#32, 0x0a000002#32, 0x0a000003#32].map fun bits => { address := .v4 bits }

/-- All come up, two selections are made, and the last backend goes down. -/
def shrinking : List RecordEvent :=
  let up place := [.probed place .begins, .probed place (.ends 1 { alive := true })]
  let asked := .asked { family := .ipv4, client := .v4 0#32 }
  up 0 ++ up 1 ++ up 2 ++ [asked, asked, .probed 2 .begins, .probed 2 (.ends 2 {})]

/-- The cursor stands behind the two addresses that are left. A selection after a reload goes on
where the one before it stopped. -/
theorem rotation_survives_shrinking :
    let r := ofDefinition "example.org." threefold false
    let asked := .asked { family := .ipv4, client := .v4 0#32 }
    let stretch := [asked, .merged { threefold with ttl := 60 }, asked]
    r.Rotates ∧ (∀ e ∈ shrinking ++ stretch, e.Keeps .ipv4) ∧
      (r.after shrinking).selector.cursor = 2 ∧
      (((r.after shrinking).selections stretch).map (·.answer)).Perm
        [.ok [.v4 0x0a000001#32], .ok [.v4 0x0a000002#32]] := by
  intro r asked stretch
  have rotates : r.Rotates := rotates_ofDefinition rfl _ _
  have keeps : ∀ e ∈ shrinking ++ stretch, e.Keeps .ipv4 := by
    simp [shrinking, stretch, asked, threefold, RecordEvent.Keeps]
  refine ⟨rotates, keeps, by decide, ?_⟩
  obtain ⟨_, _, rounds, _⟩ := rotation_survives rotates keeps
  have retains :
      (r.after shrinking).Retains .ipv4 [.v4 0x0a000001#32, .v4 0x0a000002#32] stretch := by
    intro past part
    have early := (List.mem_inits _ _).mpr part
    simp only [stretch, List.inits, List.mem_cons, List.map_cons, List.map_nil,
      List.not_mem_nil, or_false] at early
    obtain rfl | rfl | rfl | rfl := early <;> decide
  obtain ⟨_, _, _, once⟩ := rounds shrinking stretch [] _ (by simp) retains (by simp)
  exact once _ (List.infix_refl _) (by decide)

end Record

end DnsBalancer
