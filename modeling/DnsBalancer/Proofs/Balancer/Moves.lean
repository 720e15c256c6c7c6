import DnsBalancer.Proofs.Balancer.Answer
import DnsBalancer.Proofs.Balancer.Reload
import DnsBalancer.Proofs.Registry.Persistence
import DnsBalancer.Proofs.Registry.Serving

/-!
# What can happen to a balancer

Loops go on one at a time and in any order; between two of their polls anything else may
happen. A run is any sequence of such moves, and letting time pass is one of them. Which loops
there are, whose they are and whether they are cancelled does not depend on what probing finds
or on what is asked for.
-/
namespace DnsBalancer

inductive Move where
  /-- The clocks show another time. -/
  | tick (now : Instant) (date : Timestamp)
  /-- A loop goes on. -/
  | poll (number : Nat)
  /-- Attempts that nobody waits for go on. -/
  | attempts
  /-- From now on the network gives this, and zones are gone through in this order. -/
  | surroundings (network : Network) (order : ZoneOrder)
  | start
  | shutdown
  | reload (z : ZoneDefinition)
  | pick (name : String) (family : Family) (client : Address) (chance : Chance)
  | answer (name : String) (family : Family) (client : Address) (chance : Chance)

/-- The clocks go on, or something that waited for them does. -/
def Move.isPassive : Move → Bool
  | .tick .. | .poll _ | .attempts => true
  | _ => false

/-- Whose a loop is, and whether its record's token was cancelled. -/
structure Ticket where
  number : Nat
  zone : String
  fqdn : String
  cancelled : Bool
  deriving DecidableEq, Repr

def ProbeLoop.ticket (l : ProbeLoop) : Ticket := ⟨l.number, l.zone, l.fqdn, l.cancelled⟩

namespace Balancer

/-- A balancer as it is built, with nothing started yet. Its metrics know rows by the key. -/
def built (zs : List ZoneDefinition) (profiles : Profiles) (locations : LocationTable)
    (geo : GeoSources) (pacing : Pacing) (key : RowKey := .joined) : Balancer :=
  { ofDefinitions zs with profiles, locations, geo, pacing, metrics := .keyed key }

def move (b : Balancer) : Move → Balancer
  | .tick now date => { b with now, date }
  | .poll number => b.poll number
  | .attempts => b.resumeStrays
  | .surroundings network order => { b with network, order }
  | .start => b.start
  | .shutdown => b.shutdown
  | .reload z => (b.reloadZone z).2
  | .pick name family client chance => (b.pick name family client chance).2
  | .answer name family client chance => (b.answer name family client chance).2

def moves (b : Balancer) (ms : List Move) : Balancer := ms.foldl move b

@[simp] theorem moves_nil (b : Balancer) : b.moves [] = b := rfl

@[simp] theorem moves_cons (b : Balancer) (m : Move) (ms : List Move) :
    b.moves (m :: ms) = (b.move m).moves ms := rfl

theorem moves_append (b : Balancer) (ms rest : List Move) :
    b.moves (ms ++ rest) = (b.moves ms).moves rest := List.foldl_append

theorem moves_concat (b : Balancer) (ms : List Move) (m : Move) :
    b.moves (ms ++ [m]) = (b.moves ms).move m := List.foldl_concat ..

def tickets (b : Balancer) : List Ticket := b.loops.map ProbeLoop.ticket

/-! ### Time that passes -/

theorem settle_eq (now : Instant) (b : Balancer) : b.settle now =
    b.moves (.tick now b.date :: .attempts :: b.loops.map (.poll ·.number)) := by
  rw [settle, moves_cons, moves_cons, moves, List.foldl_map, List.foldl_map]
  rfl

theorem isPassive_settle (now : Instant) (b : Balancer) :
    ∀ m ∈ Move.tick now b.date :: .attempts :: b.loops.map (.poll ·.number),
      m.isPassive = true := by
  intro m member
  rcases List.mem_cons.mp member with rfl | member
  · rfl
  rcases List.mem_cons.mp member with rfl | member
  · rfl
  · obtain ⟨l, _, rfl⟩ := List.mem_map.mp member
    rfl

theorem exists_moves_runTo (target now : Instant) (b : Balancer) :
    ∃ ms : List Move, (∀ m ∈ ms, m.isPassive = true) ∧ runTo target now b = b.moves ms := by
  have last (b : Balancer) : ∃ ms : List Move, (∀ m ∈ ms, m.isPassive = true) ∧
      { b with now := target } = b.moves ms := by
    refine ⟨[.tick target b.date], ?_, rfl⟩
    intro m member
    rw [List.mem_singleton.mp member]
    rfl
  induction now, b using runTo.induct target with
  | case1 now b idle =>
    rw [runTo, idle]
    exact last b
  | case2 now b due found next reached ih =>
    obtain ⟨ms, passive, run⟩ := ih
    refine ⟨_ ++ ms, List.forall_mem_append.mpr ⟨isPassive_settle next b, passive⟩, ?_⟩
    rw [runTo, found, moves_append, ← settle_eq, ← run]
    exact dif_pos reached
  | case3 now b due found next late =>
    obtain ⟨ms, passive, run⟩ := last b
    refine ⟨ms, passive, ?_⟩
    rw [runTo, found, ← run]
    exact dif_neg late

/-- Letting time pass is a run in which nobody interferes. -/
theorem exists_moves_advance (d : Duration) (b : Balancer) :
    ∃ ms : List Move, (∀ m ∈ ms, m.isPassive = true) ∧ b.advance d = b.moves ms := by
  obtain ⟨ms, passive, run⟩ :=
    exists_moves_runTo ((b.settle b.now).now + d) (b.settle b.now).now (b.settle b.now)
  refine ⟨_ ++ ms, List.forall_mem_append.mpr ⟨isPassive_settle b.now b, passive⟩, ?_⟩
  rw [moves_append, ← settle_eq, ← run, advance]

/-! ### Who is probed, apart from what is found -/

/-- The two have the same loops and tasks, and the same records with the same tokens. -/
structure SameControl (b c : Balancer) : Prop where
  loops : c.loops = b.loops
  tasks : c.tasks = b.tasks
  nextLoop : c.nextLoop = b.nextLoop
  running : c.running = b.running
  stopped : c.stopped = b.stopped
  records : ∀ zone fqdn, (c.zones.record? zone fqdn).map Record.standing =
    (b.zones.record? zone fqdn).map Record.standing

namespace SameControl

theorem refl (b : Balancer) : b.SameControl b := ⟨rfl, rfl, rfl, rfl, rfl, fun _ _ => rfl⟩

theorem trans {b c d : Balancer} (first : b.SameControl c) (second : c.SameControl d) :
    b.SameControl d where
  loops := second.loops.trans first.loops
  tasks := second.tasks.trans first.tasks
  nextLoop := second.nextLoop.trans first.nextLoop
  running := second.running.trans first.running
  stopped := second.stopped.trans first.stopped
  records zone fqdn := (second.records zone fqdn).trans (first.records zone fqdn)

/-- A record of the one is at the same place in the other. -/
theorem exists_record {b c : Balancer} (same : b.SameControl c) {zone fqdn : String}
    {r : Record} (found : c.zones.record? zone fqdn = some r) :
    ∃ old, b.zones.record? zone fqdn = some old ∧ old.standing = r.standing := by
  have records := same.records zone fqdn
  rw [found, Option.map_some] at records
  exact Option.map_eq_some_iff.mp records.symm

theorem placed {b c : Balancer} (same : b.SameControl c) (placed : b.zones.Placed) :
    c.zones.Placed := by
  intro zone fqdn r found
  obtain ⟨old, before, standing⟩ := same.exists_record found
  obtain ⟨inZone, named⟩ := placed zone fqdn old before
  simp only [Record.standing, Prod.mk.injEq] at standing
  exact ⟨standing.1 ▸ inZone, standing.2.1 ▸ named⟩

theorem isSome_record? {b c : Balancer} (same : b.SameControl c) (zone fqdn : String) :
    (c.zones.record? zone fqdn).isSome = (b.zones.record? zone fqdn).isSome := by
  have records := congrArg Option.isSome (same.records zone fqdn)
  simpa using records

end SameControl

section

variable {b : Balancer} {zone fqdn : String} {r new : Record}

/-- Putting a record back that still stands as it did. -/
theorem sameControl_put (placed : b.zones.Placed) (found : b.zones.record? zone fqdn = some r)
    (same : new.standing = r.standing) (strays : List Run) (tally : Tally) (metrics : Metrics)
    (tracker : QueryTracker) :
    b.SameControl { b with zones := b.zones.put new, strays, tally, metrics, tracker } where
  loops := rfl
  tasks := rfl
  nextLoop := rfl
  running := rfl
  stopped := rfl
  records := by
    intro otherZone other
    rw [Zones.record?_put_standing placed found same]
    split
    · rename_i own
      rw [← own.1, ← own.2, found, Option.map_some, Option.map_some, same]
    · rfl

theorem sameControl_landFlight (placed : b.zones.Placed) (zone fqdn : String) (f : Flight) :
    b.SameControl (landFlight zone fqdn b f) := by
  unfold landFlight
  cases f.detached with
  | some gone => exact ⟨rfl, rfl, rfl, rfl, rfl, fun _ _ => rfl⟩
  | none =>
    dsimp only
    split
    · exact ⟨rfl, rfl, rfl, rfl, rfl, fun _ _ => rfl⟩
    · rename_i r found
      split
      · exact ⟨rfl, rfl, rfl, rfl, rfl, fun _ _ => rfl⟩
      · exact sameControl_put placed found (by rfl) _ _ _ _

theorem sameControl_landAll (placed : b.zones.Placed) (zone fqdn : String)
    (flights : List Flight) : b.SameControl (flights.foldl (landFlight zone fqdn) b) := by
  induction flights generalizing b with
  | nil => exact .refl b
  | cons f flights ih =>
    have landed := sameControl_landFlight placed zone fqdn f
    exact landed.trans (ih (landed.placed placed))

/-- Cycles that are over are ended, the others stay. -/
theorem landFlights_eq (now started : Instant) (l : ProbeLoop) (flights : List Flight)
    (b : Balancer) :
    (landFlights now started l flights b).1 =
        (flights.filter (·.isOver now)).foldl (landFlight l.zone l.fqdn) b ∧
      ∃ phase, phase.flights = flights.filter (!·.isOver now) ∧
        (landFlights now started l flights b).2 = { l with phase } := by
  rw [landFlights, List.partition_eq_filter_filter]
  dsimp only
  split
  · rename_i none
    refine ⟨rfl, _, ?_, rfl⟩
    exact (List.isEmpty_iff.mp none).symm
  · exact ⟨rfl, _, rfl, rfl⟩

theorem sameControl_landFlights (placed : b.zones.Placed) (now started : Instant)
    (l : ProbeLoop) (flights : List Flight) :
    b.SameControl (landFlights now started l flights b).1 := by
  rw [(landFlights_eq now started l flights b).1]
  exact sameControl_landAll placed l.zone l.fqdn _

theorem sameControl_startRound (placed : b.zones.Placed) (now started : Instant)
    (l : ProbeLoop) : b.SameControl (startRound now started l b).1 := by
  unfold startRound
  split
  · exact .refl b
  · rename_i r found
    have begun : b.SameControl { b with
        zones := b.zones.put { r with backends := (startFlights b.network now
          r.settings.scrapeRetries r.settings.scrapeTimeout b.tally r.backends).1 }
        tally := (startFlights b.network now r.settings.scrapeRetries r.settings.scrapeTimeout
          b.tally r.backends).2.1 } := sameControl_put placed found (by rfl) _ _ _ _
    exact begun.trans (sameControl_landFlights (begun.placed placed) now started l _)

theorem sameControl_stepLoop (placed : b.zones.Placed) (now : Instant) (l : ProbeLoop) :
    b.SameControl (stepLoop now b l).1 := by
  unfold stepLoop
  split
  · split
    · exact sameControl_startRound placed now now l
    · exact .refl b
  · split
    · exact sameControl_startRound placed now _ l
    · exact .refl b
  · have resumed (tally : Tally) : b.SameControl { b with tally } :=
      ⟨rfl, rfl, rfl, rfl, rfl, fun _ _ => rfl⟩
    exact (resumed _).trans (sameControl_landFlights ((resumed _).placed placed) now _ l _)

end

/-! ### Polls -/

/-- A poll finds no loop, ends a cancelled one, or lets one go on. -/
theorem poll_cases (b : Balancer) (number : Nat) :
    (b.poll number = b ∧ ∀ l ∈ b.loops, l.number ≠ number) ∨
      ∃ l ∈ b.loops, l.number = number ∧
        (l.cancelled = true ∧ b.poll number = b.endLoops (·.number == number) ∨
          l.cancelled = false ∧ b.poll number = { (stepLoop b.now b l).1 with
            loops := (stepLoop b.now b l).1.loops.map fun k =>
              if k.number == number then (stepLoop b.now b l).2 else k }) := by
  unfold poll
  cases found : b.loops.find? (·.number == number) with
  | none =>
    refine Or.inl ⟨rfl, fun l member equal => ?_⟩
    have other := List.find?_eq_none.mp found l member
    simp [equal] at other
  | some l =>
    have number : l.number = number := by simpa using List.find?_some found
    refine Or.inr ⟨l, List.mem_of_find?_eq_some found, number, ?_⟩
    cases cancelled : l.cancelled with
    | true => exact Or.inl ⟨rfl, by simp [cancelled]⟩
    | false => exact Or.inr ⟨rfl, by simp [cancelled]⟩

theorem ticket_landFlights (now started : Instant) (l : ProbeLoop) (flights : List Flight)
    (b : Balancer) : (landFlights now started l flights b).2.ticket = l.ticket := by
  obtain ⟨_, phase, _, eq⟩ := landFlights_eq now started l flights b
  rw [eq]
  rfl

theorem ticket_startRound (now started : Instant) (l : ProbeLoop) (b : Balancer) :
    (startRound now started l b).2.ticket = l.ticket := by
  unfold startRound
  split
  · rfl
  · exact ticket_landFlights ..

theorem ticket_stepLoop (now : Instant) (b : Balancer) (l : ProbeLoop) :
    (stepLoop now b l).2.ticket = l.ticket := by
  unfold stepLoop
  split
  · split
    · exact ticket_startRound ..
    · rfl
  · split
    · exact ticket_startRound ..
    · rfl
  · exact ticket_landFlights ..

section

variable {b : Balancer}

/-- Loops are told apart by their numbers. -/
theorem ticket_of_number (distinct : (b.tickets.map (·.number)).Nodup) {t u : Ticket}
    (first : t ∈ b.tickets) (second : u ∈ b.tickets) (equal : t.number = u.number) : t = u :=
  List.inj_on_of_nodup_map distinct first second equal

theorem mem_tickets {l : ProbeLoop} (member : l ∈ b.loops) : l.ticket ∈ b.tickets :=
  List.mem_map_of_mem member

theorem loops_endLoops (ends : ProbeLoop → Bool) :
    (b.endLoops ends).loops = b.loops.filter fun l => !ends l := by
  rw [endLoops, List.partition_eq_filter_filter]
  rfl

theorem tickets_endLoops (ends : Ticket → Bool) :
    (b.endLoops (ends ·.ticket)).tickets = b.tickets.filter fun t => !ends t := by
  rw [tickets, loops_endLoops, tickets, List.filter_map]
  rfl

/-- A poll takes the loop away if its token is cancelled, and that is all. -/
theorem tickets_poll (placed : b.zones.Placed)
    (distinct : (b.tickets.map (·.number)).Nodup) (number : Nat) :
    (b.poll number).tickets =
      b.tickets.filter fun t => !(t.number == number && t.cancelled) := by
  have keep {p : Ticket → Bool} (all : ∀ t ∈ b.tickets, p t = true) :
      b.tickets = b.tickets.filter p := (List.filter_eq_self.mpr all).symm
  rcases poll_cases b number with
    ⟨idle, absent⟩ | ⟨l, member, rfl, ⟨cancelled, ended⟩ | ⟨uncancelled, went⟩⟩
  · rw [idle]
    refine keep fun t present => ?_
    obtain ⟨l, member, rfl⟩ := List.mem_map.mp present
    simp [ProbeLoop.ticket, absent l member]
  · rw [ended]
    refine (tickets_endLoops (·.number == l.number)).trans (List.filter_congr fun t present => ?_)
    by_cases equal : t.number = l.number
    · have own := ticket_of_number distinct present (mem_tickets member) equal
      simp [own, ProbeLoop.ticket, cancelled]
    · simp [equal]
  · rw [went, ← keep]
    · -- The loops of that number are this one, and its ticket is as it was.
      simp only [tickets, (sameControl_stepLoop placed b.now l).loops, List.map_map]
      refine List.map_congr_left fun k present => ?_
      by_cases equal : k.number = l.number
      · simp only [Function.comp_apply, equal, beq_self_eq_true, if_true, ticket_stepLoop]
        exact (ticket_of_number distinct (mem_tickets present) (mem_tickets member) equal).symm
      · simp [equal]
    · intro t present
      by_cases equal : t.number = l.number
      · have own := ticket_of_number distinct present (mem_tickets member) equal
        simp [own, ProbeLoop.ticket, uncancelled]
      · simp [equal]

/-- Apart from its loop a poll leaves everything as it stands. -/
theorem sameControl_poll (placed : b.zones.Placed) (number : Nat) :
    b.SameControl { b.poll number with loops := b.loops } := by
  rcases poll_cases b number with
    ⟨idle, _⟩ | ⟨l, _, _, ⟨_, ended⟩ | ⟨_, went⟩⟩
  · rw [idle]
    exact .refl b
  · rw [ended]
    exact ⟨rfl, rfl, rfl, rfl, rfl, fun _ _ => rfl⟩
  · rw [went]
    have same := sameControl_stepLoop placed b.now l
    exact { same with loops := rfl }

/-! ### Queries -/

theorem sameControl_pick (placed : b.zones.Placed) (name : String) (family : Family)
    (client : Address) (chance : Chance) :
    b.SameControl (b.pick name family client chance).2 := by
  unfold pick record
  cases found : b.findRecord name with
  | none => exact .refl b
  | some r =>
    obtain ⟨zone, present⟩ := Zones.exists_of_findRecord found
    exact sameControl_put placed present (by rfl) _ _ _ _

theorem sameControl_answer (placed : b.zones.Placed) (name : String) (family : Family)
    (client : Address) (chance : Chance) :
    b.SameControl (b.answer name family client chance).2 := by
  unfold answer
  cases b.record name with
  | error e => exact .refl b
  | ok r =>
    have noted : b.SameControl (b.noteQuery r.fqdn) := ⟨rfl, rfl, rfl, rfl, rfl, fun _ _ => rfl⟩
    have picked := sameControl_pick (noted.placed placed) r.fqdn family client chance
    have counted (c : Balancer) (outcome : String) :
        c.SameControl (c.countResolved r.fqdn outcome) := ⟨rfl, rfl, rfl, rfl, rfl, fun _ _ => rfl⟩
    dsimp only
    split
    · rename_i answered
      rw [answered] at picked
      exact (noted.trans picked).trans (counted _ _)
    · rename_i failed
      rw [failed] at picked
      exact (noted.trans picked).trans (counted _ _)

end

end Balancer

end DnsBalancer
