import DnsBalancer.Proofs.Balancer.Scheduling
import DnsBalancer.Proofs.Probing.Pace
import DnsBalancer.Proofs.Probing.Stagger

/-!
# When loops go on

A loop is started after the delay of its record's batch, and sleeps between rounds for as long as
the policy says at the end of a round. What is known of queries has no other effect on a round's
end, so that two loops that differ in nothing else are compared by their pauses.
-/
namespace DnsBalancer.Balancer

section

variable (b : Balancer)

/-! ### Pauses -/

theorem pacing_landFlight (zone fqdn : String) (f : Flight) :
    (landFlight zone fqdn b f).pacing = b.pacing := by
  unfold landFlight
  cases f.detached with
  | some gone => rfl
  | none =>
    dsimp only
    split
    · rfl
    · split <;> rfl

theorem landFlight_knowing (zone fqdn : String) (f : Flight) (known : QueryTracker) :
    landFlight zone fqdn { b with tracker := known } f =
      { landFlight zone fqdn b f with tracker := known } := by
  unfold landFlight
  cases f.detached with
  | some gone => rfl
  | none =>
    dsimp only
    split
    · rfl
    · split <;> rfl

theorem landAll_knowing (zone fqdn : String) (flights : List Flight) (known : QueryTracker) :
    flights.foldl (landFlight zone fqdn) { b with tracker := known } =
      { flights.foldl (landFlight zone fqdn) b with tracker := known } := by
  induction flights generalizing b with
  | nil => rfl
  | cons f flights ih => rw [List.foldl_cons, landFlight_knowing, ih, List.foldl_cons]

/-- The interval that the record of a loop asks for. -/
def intervalOf (l : ProbeLoop) : Duration :=
  ((b.zones.record? l.zone l.fqdn).map (·.settings.scrapeInterval)).getD .zero

/-- A loop whose cycles are all over sleeps for the time that the policy says, whatever is known
of queries. -/
theorem phase_landFlights (now started : Instant) (l : ProbeLoop) {flights : List Flight}
    (landed : ∀ f ∈ flights, f.isOver now = true) (known : QueryTracker) :
    (landFlights now started l flights { b with tracker := known }).2.phase =
      .sleeping started (now + b.pacing.policy.interval
        ((landFlights now started l flights b).1.intervalOf l) (known.last? l.fqdn)
        started now).nextMilli := by
  have ended : flights.filter (·.isOver now) = flights := List.filter_eq_self.mpr landed
  have rest : flights.filter (!·.isOver now) = [] := by simpa using landed
  have pacing : (flights.foldl (landFlight l.zone l.fqdn) b).pacing = b.pacing :=
    frame_foldl pacing (fun b f => pacing_landFlight b l.zone l.fqdn f) b flights
  rw [(landFlights_eq now started l flights b).1, landFlights, List.partition_eq_filter_filter]
  simp only [Function.comp_def, ended, rest, landAll_knowing, pacing]
  rfl

end

/-- The history of a record is added to, at any times before now. The pause that follows from the
longer history is no longer than the one that follows from the shorter, unless that has nothing
of the record, the last query in the other is from longer ago than the timeout, which the start
is not, and the multiple is more than the base. So it is no longer when the shorter history has
a query of the record, or the last one in the other is not from before the start. A loop that
differs in the history alone goes on no later then. -/
theorem pause_of_more_queries :
    (∀ (p : IdlePolicy) (base : Duration) (started now : Instant)
      (few many : List (String × Instant)) (fqdn : String),
      1 ≤ p.multiplier → base ≤ .longest → few.Sublist many → many.Pairwise (·.2 ≤ ·.2) →
      let pause (asked : List (String × Instant)) :=
        p.interval base ((QueryTracker.noting asked).last? fqdn) started now
      (pause many ≤ pause few ↔ ¬ (p.Overlooked (.noting few) (.noting many) fqdn started now ∧
        base < base.saturatingMul p.multiplier)) ∧
      ((∃ asked, (fqdn, asked) ∈ few) ∨
          (∀ last, (QueryTracker.noting many).last? fqdn = some last → started ≤ last) →
        pause many ≤ pause few)) ∧
    ∀ (b : Balancer) (l : ProbeLoop) (flights : List Flight) (started now : Instant)
      (few many : List (String × Instant)), (∀ f ∈ flights, f.isOver now = true) →
      1 ≤ b.pacing.policy.multiplier →
      (landFlights now started l flights b).1.intervalOf l ≤ .longest →
      few.Sublist many → many.Pairwise (·.2 ≤ ·.2) →
      ¬ b.pacing.policy.Overlooked (.noting few) (.noting many) l.fqdn started now →
      ∃ wakes wakes',
        (landFlights now started l flights { b with tracker := .noting few }).2.phase =
          .sleeping started wakes ∧
        (landFlights now started l flights { b with tracker := .noting many }).2.phase =
          .sleeping started wakes' ∧ wakes' ≤ wakes := by
  constructor
  · intro p base started now few many fqdn some bounded added ordered pause
    have exact : pause many ≤ pause few ↔
        ¬ (p.Overlooked (.noting few) (.noting many) fqdn started now ∧
          base < base.saturatingMul p.multiplier) :=
      IdlePolicy.interval_noting_le_iff bounded some added.subset ordered
    refine ⟨exact, fun fit => exact.mpr ?_⟩
    rintro ⟨overlooked, _⟩
    rcases fit with ⟨asked, member⟩ | later
    · obtain ⟨last, known, _⟩ :=
        QueryTracker.exists_last?_noting (ordered.sublist added) member
      rw [overlooked.unasked] at known
      cases known
    · obtain ⟨last, known, before⟩ := overlooked.before
      exact Nat.not_lt.mpr (later last known) before
  · intro b l flights started now few many landed some bounded added ordered heeded
    refine ⟨_, _, phase_landFlights b now started l landed _,
      phase_landFlights b now started l landed _,
      Duration.nextMilli_mono (Nat.add_le_add_left ?_ _)⟩
    exact (IdlePolicy.interval_noting_le_iff bounded some added.subset ordered).mpr
      fun overlooked => heeded overlooked.1

/-- Idle after a minute, and then probed ten times less often. -/
def minutely : IdlePolicy := ⟨.ofSeconds 60, 10⟩

theorem pause_of_more_queries_kept :
    let few := [("a.example.org.", Duration.ofSeconds 70)]
    let many := [("a.example.org.", Duration.ofSeconds 20), ("b.example.org.", .ofSeconds 30),
      ("a.example.org.", .ofSeconds 70), ("a.example.org.", .ofSeconds 90)]
    let pause (asked : List (String × Instant)) := minutely.interval (.ofSeconds 5)
      ((QueryTracker.noting asked).last? "a.example.org.") (.ofSeconds 50) (.ofSeconds 140)
    let b : Balancer := { pacing := { policy := minutely } }
    let l : ProbeLoop := ⟨0, "example.org.", "a.example.org.", .probing (.ofSeconds 50) [], false⟩
    pause few = .ofSeconds 50 ∧ pause many = .ofSeconds 5 ∧ pause many ≤ pause few ∧
      ∃ wakes wakes',
        (landFlights (.ofSeconds 140) (.ofSeconds 50) l []
            { b with tracker := .noting few }).2.phase = .sleeping (.ofSeconds 50) wakes ∧
        (landFlights (.ofSeconds 140) (.ofSeconds 50) l []
            { b with tracker := .noting many }).2.phase = .sleeping (.ofSeconds 50) wakes' ∧
        wakes' ≤ wakes := by
  intro few many pause b l
  have added : few.Sublist many := by decide
  have ordered : many.Pairwise (·.2 ≤ ·.2) := by decide
  refine ⟨by decide, by decide, ?_, ?_⟩
  · exact (pause_of_more_queries.1 minutely (.ofSeconds 5) (.ofSeconds 50) (.ofSeconds 140)
      few many "a.example.org." (by decide) (by decide) added ordered).2
      (.inl ⟨.ofSeconds 70, by decide⟩)
  · refine pause_of_more_queries.2 b l [] (.ofSeconds 50) (.ofSeconds 140) few many
      (by simp) (by decide) (by decide) added ordered fun overlooked => ?_
    have unasked := overlooked.unasked
    revert unasked
    decide

/-- Asked for once, more than a minute ago, before its probing began: it is probed less often than
if nobody had asked. -/
theorem pause_longer_of_query : ¬ ∀ (p : IdlePolicy) (base : Duration) (started now : Instant)
    (few many : List (String × Instant)) (fqdn : String),
    1 ≤ p.multiplier → base ≤ .longest → few.Sublist many → many.Pairwise (·.2 ≤ ·.2) →
    (∀ q ∈ many, q.2 ≤ now) → started ≤ now →
    p.interval base ((QueryTracker.noting many).last? fqdn) started now ≤
      p.interval base ((QueryTracker.noting few).last? fqdn) started now := by
  intro never
  have longer := never minutely (.ofSeconds 5) (.ofSeconds 100) (.ofSeconds 110) []
    [("a.example.org.", .zero)] "a.example.org." (by decide) (by decide) (by decide) (by decide)
    (by decide) (by decide)
  revert longer
  decide

/-! ### Starts -/

/-- No record that its zone lists is left out by a start, and each has the delay of its place. -/
theorem roster_complete (b : Balancer) :
    b.roster.map (fun e => (e.1, e.2.1)) = b.zones.listed.map (fun r => (r.zone, r.fqdn)) ∧
      b.roster.map (·.2.2) = staggerDelays b.zones.listed.length b.pacing.batchSize
        b.pacing.maxStagger := by
  have length := (staggered b.zones.listed.length b.pacing.batchSize b.pacing.maxStagger).length
  constructor
  · have front := List.map_fst_zip (Nat.le_of_eq length.symm)
    calc b.roster.map (fun e => (e.1, e.2.1))
      _ = ((b.zones.listed.zip (staggerDelays b.zones.listed.length b.pacing.batchSize
            b.pacing.maxStagger)).map Prod.fst).map (fun r => (r.zone, r.fqdn)) := by
        rw [roster, List.map_map, List.map_map]
        rfl
      _ = b.zones.listed.map (fun r => (r.zone, r.fqdn)) := by rw [front]
  · rw [roster, List.map_map]
    exact List.map_snd_zip (Nat.le_of_eq length)

/-- The delays spread the batches of a start evenly over the window. None of the products that
they are made of passes 128 bits, while the window times the number of batches does not. A start
begins one loop for every record that its zone lists, which is every record if zones go by names
in normal form, each after the delay of its place. In every run the loop of a record waits for that
delay when it is started, unless a later record has the name. -/
theorem start_staggered :
    (∀ (count batchSize : Nat) (window : Duration),
      window.nanos * (count ⌈/⌉ max batchSize 1) < 2 ^ 128 →
      Staggered count (max batchSize 1) window (staggerDelays count batchSize window) ∧
      ∀ i < count, window.nanos * (i / max batchSize 1) < 2 ^ 128) ∧
    (∀ b : Balancer, b.running = false →
      b.roster.map (fun e => (e.1, e.2.1)) = b.zones.listed.map (fun r => (r.zone, r.fqdn)) ∧
      ((∀ zone ∈ b.zoneNames, DomainName.Normal zone) → b.zones.listed = b.zones.allRecords) ∧
      b.roster.map (·.2.2) = staggerDelays b.zones.listed.length b.pacing.batchSize
        b.pacing.maxStagger ∧
      b.start = ({ b with running := true }.spawnAll b.roster).countInventory ∧
      b.start.nextLoop = b.nextLoop + b.zones.listed.length) ∧
    ∀ (zs : List ZoneDefinition) (profiles : Profiles) (locations : LocationTable)
      (geo : GeoSources) (pacing : Pacing) (ms : List Move),
      let b := (built zs profiles locations geo pacing).moves ms
      b.running = false → ∀ front zone fqdn delay back,
        b.roster = front ++ (zone, fqdn, delay) :: back → (∀ e ∈ back, e.2.1 ≠ fqdn) →
        { number := b.nextLoop + front.length, zone, fqdn,
          phase := .waiting (b.now + delay).nextMilli, cancelled := b.stopped } ∈
          b.start.loops := by
  refine ⟨fun count batchSize window fits => ?_, fun b still => ?_, ?_⟩
  · refine ⟨staggered count batchSize window, fun i within => lt_of_le_of_lt ?_ fits⟩
    exact Nat.mul_le_mul_left _ (Nat.le_of_lt (batch_lt (Nat.le_max_right batchSize 1) within))
  · obtain ⟨names, delays⟩ := roster_complete b
    have begun : b.start = ({ b with running := true }.spawnAll b.roster).countInventory := by
      rw [start_eq, still]
      rfl
    have length : b.roster.length = b.zones.listed.length := by
      simpa using congrArg List.length names
    refine ⟨names, Zones.listed_eq_allRecords, delays, begun, ?_⟩
    rw [begun, ← length]
    exact nextLoop_spawnAll { b with running := true } b.roster
  · intro zs profiles locations geo pacing ms b still front zone fqdn delay back split last
    have start := coherent_built zs profiles locations geo pacing
    exact waiting_start (coherent_moves start ms) still split last

/-- Three records, two of which are started at once. -/
def threeInPairs : Balancer :=
  built [{
      zone := "example.org."
      records := ["a.example.org.", "b.example.org.", "c.example.org."].map
        fun fqdn => { fqdn, backends := [{ address := .v4 0x0a000001#32 }] } }] [] {} {}
    { maxStagger := .ofSeconds 30, batchSize := 2 }

theorem start_staggered_pairs :
    staggerDelays 5 2 (.ofSeconds 30) =
      [.zero, .zero, .ofSeconds 10, .ofSeconds 10, .ofSeconds 20] ∧
    Staggered 5 2 (.ofSeconds 30) (staggerDelays 5 2 (.ofSeconds 30)) ∧
    threeInPairs.running = false ∧
    threeInPairs.roster = [("example.org.", "a.example.org.", .zero),
      ("example.org.", "b.example.org.", .zero),
      ("example.org.", "c.example.org.", .ofSeconds 15)] ∧
    threeInPairs.start.nextLoop = 3 ∧
    { number := 2, zone := "example.org.", fqdn := "c.example.org.",
      phase := .waiting (.ofSeconds 15), cancelled := false } ∈ threeInPairs.start.loops := by
  have roster : threeInPairs.roster = [("example.org.", "a.example.org.", .zero),
      ("example.org.", "b.example.org.", .zero),
      ("example.org.", "c.example.org.", .ofSeconds 15)] := by decide +kernel
  obtain ⟨delays, starts, waits⟩ := start_staggered
  refine ⟨by decide, (delays 5 2 (.ofSeconds 30) (by decide)).1, rfl, roster, ?_, ?_⟩
  · rw [(starts threeInPairs rfl).2.2.2.2]
    decide +kernel
  · have wakes : (Duration.zero + .ofSeconds 15).nextMilli = .ofSeconds 15 := by decide
    exact wakes ▸ waits _ [] {} {} _ [] rfl [_, _] _ _ _ [] roster (List.forall_mem_nil _)

end DnsBalancer.Balancer
