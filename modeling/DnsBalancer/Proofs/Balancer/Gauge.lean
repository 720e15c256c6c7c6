import DnsBalancer.Proofs.Balancer.Tokens
import DnsBalancer.Proofs.Balancer.Upkeep
import DnsBalancer.Proofs.Registry.Names

/-!
# The gauge of health

A row of the gauge says whether a backend was found alive. Cycles and reloads keep the rows in
accord with the registry, with one exception: a cycle that is in flight while its backend is
taken off a record that stays ends later and writes a row nobody takes back.
-/
namespace DnsBalancer

open DomainName (Normal)

namespace Flight

/-- The labels are those of the backend that was taken off while the cycle was in flight. -/
def OfGone (f : Flight) (labels : List String) : Prop :=
  ∃ gone, f.detached = some gone ∧ labels = [gone.record, gone.address.render]

def Named (f : Flight) : Prop := ∀ gone, f.detached = some gone → Normal gone.record

end Flight

namespace Balancer

/-- The gauge has this row. -/
def Tells (b : Balancer) (labels : List String) (alive : Bool) : Prop :=
  (labels, alive) ∈ b.metrics.healthy.rows

/-- Rows of the second state are backed there, or they are exempt, or they stood in the first
and were not backed there. -/
def Tracks (exempt : List String → Prop) (b c : Balancer) : Prop :=
  ∀ labels alive, c.Tells labels alive → c.zones.Backs labels alive ∨ exempt labels ∨
    b.Tells labels alive ∧ ¬ b.zones.Backs labels alive

section

variable {b c d : Balancer} {exempt more : List String → Prop}

theorem Tracks.trans (first : b.Tracks exempt c) (second : c.Tracks exempt d) :
    b.Tracks exempt d := by
  intro labels alive told
  rcases second labels alive told with backed | free | ⟨before, unbacked⟩
  · exact Or.inl backed
  · exact Or.inr (Or.inl free)
  · exact (first labels alive before).resolve_left unbacked |> Or.inr

theorem Tracks.mono (tracks : b.Tracks exempt c) (weaker : ∀ labels, exempt labels → more labels) :
    b.Tracks more c := by
  intro labels alive told
  exact (tracks labels alive told).imp_right (Or.imp_left (weaker labels))

theorem tracks_of_backs (rows : ∀ labels alive, c.Tells labels alive → b.Tells labels alive)
    (backs : ∀ labels alive, c.Tells labels alive → b.zones.Backs labels alive →
      c.zones.Backs labels alive) : b.Tracks exempt c := by
  intro labels alive told
  by_cases backed : b.zones.Backs labels alive
  · exact Or.inl (backs labels alive told backed)
  · exact Or.inr (Or.inr ⟨rows labels alive told, backed⟩)

/-- Nothing that the gauge or the registry shows has changed. -/
theorem tracks_of_eq (zones : c.zones = b.zones)
    (healthy : c.metrics.healthy = b.metrics.healthy) : b.Tracks exempt c :=
  tracks_of_backs (fun _ _ told => by rwa [Tells, ← healthy])
    fun _ _ _ backed => by rwa [zones]

end

end Balancer

/-! ### Cycles that end -/

theorem Metrics.healthy_probed (m : Metrics) (record address : String)
    (results : List (String × Completion)) :
    (m.probed record address results).healthy = m.healthy := by
  unfold probed
  induction results generalizing m with
  | nil => rfl
  | cons result results ih =>
    rw [List.foldl_cons, ih]
    dsimp only
    split <;> rfl

/-- A finding that is taken over is what the gauge then tells; any other changes neither. -/
theorem Flight.land_cases (f : Flight) (date : Timestamp) (x : Backend) (m : Metrics) :
    (f.land date x m).backend.address = x.address ∧
      (f.land date x m).backend.record = x.record ∧
      ((f.land date x m).backend = x ∧ (f.land date x m).metrics.healthy = m.healthy ∨
        (f.land date x m).metrics.healthy = m.healthy.insert [x.record, x.address.render]
          (f.land date x m).backend.health.alive) := by
  unfold land Backend.recordCycle
  by_cases late : f.cycle ≤ x.applied
  · simp [late, Metrics.healthy_probed]
  · simp [late, Metrics.healthy_probed, Metrics.setHealthy, Backend.address]

namespace Balancer

/-- Records are in their places, and everything goes by names in normal form. -/
structure Legible (b : Balancer) : Prop where
  placed : b.zones.Placed
  records : b.zones.Named
  rows : b.metrics.healthy.Named

section

variable {b : Balancer}

theorem tracks_landFlight (legible : b.Legible) (zone fqdn : String) {f : Flight}
    (named : f.Named) : (landFlight zone fqdn b f).Legible ∧
      b.Tracks f.OfGone (landFlight zone fqdn b f) := by
  obtain ⟨placed, records, rows⟩ := legible
  unfold landFlight
  cases gone : f.detached with
  | some x =>
    have normal := named x gone
    obtain ⟨_, _, ⟨_, same⟩ | told⟩ := f.land_cases b.date x b.metrics
    · exact ⟨⟨placed, records, by rw [same]; exact rows⟩, tracks_of_eq rfl same⟩
    · refine ⟨⟨placed, records, by rw [told]; exact Series.named_insert rows normal⟩, ?_⟩
      intro labels alive member
      rw [Tells, told] at member
      rcases Series.mem_insert rows normal member with ⟨own, _⟩ | ⟨_, before⟩
      · exact Or.inr (Or.inl ⟨x, gone, own⟩)
      · exact (em (b.zones.Backs labels alive)).imp id fun unbacked => Or.inr ⟨before, unbacked⟩
  | none =>
    dsimp only
    split
    · exact ⟨⟨placed, records, rows⟩, tracks_of_eq rfl rfl⟩
    rename_i r found
    split
    · exact ⟨⟨placed, records, rows⟩, tracks_of_eq rfl rfl⟩
    rename_i x held
    obtain ⟨normal, _, members⟩ := records zone fqdn r found
    obtain ⟨present, own⟩ := Record.mem_of_backend? held
    have record := members x present
    obtain ⟨address, sameRecord, landed⟩ := f.land_cases b.date x b.metrics
    generalize f.land b.date x b.metrics = landing at address sameRecord landed ⊢
    have there : r.backend? landing.backend.address = some x := by rw [address, own, held]
    have after : (b.zones.put (r.setBackend landing.backend)).Placed :=
      (sameControl_put placed found (by rfl) b.strays b.tally b.metrics b.tracker).placed placed
    have names : (b.zones.put (r.setBackend landing.backend)).Named := by
      refine Zones.named_put records placed found rfl fun w member => ?_
      rcases Record.mem_setBackend member with rfl | before
      · exact sameRecord.trans record
      · exact members w before
    rcases landed with ⟨unchanged, same⟩ | told
    · refine ⟨⟨after, names, by rw [same]; exact rows⟩, tracks_of_backs ?_ ?_⟩
      · exact fun labels alive member => by rwa [Tells, same] at member
      · exact fun labels alive _ backs =>
          Zones.backs_setBackend placed found there (fun _ => by rw [unchanged]) backs
    · rw [record, ← address] at told
      refine ⟨⟨after, names, by rw [told]; exact Series.named_insert rows normal⟩, ?_⟩
      intro labels alive member
      rw [Tells, told] at member
      rcases Series.mem_insert rows normal member with ⟨rfl, rfl⟩ | ⟨other, before⟩
      · exact Or.inl (Zones.backs_setBackend_self placed found there)
      · by_cases backs : b.zones.Backs labels alive
        · exact Or.inl (Zones.backs_setBackend placed found there (absurd · other) backs)
        · exact Or.inr (Or.inr ⟨before, backs⟩)

theorem tracks_landAll (legible : b.Legible) (zone fqdn : String) (flights : List Flight)
    (named : ∀ f ∈ flights, f.Named) : (flights.foldl (landFlight zone fqdn) b).Legible ∧
      b.Tracks (fun labels => ∃ f ∈ flights, f.OfGone labels)
        (flights.foldl (landFlight zone fqdn) b) := by
  induction flights generalizing b with
  | nil => exact ⟨legible, tracks_of_eq rfl rfl⟩
  | cons f flights ih =>
    obtain ⟨own, others⟩ := List.forall_mem_cons.mp named
    obtain ⟨landed, first⟩ := tracks_landFlight legible zone fqdn own
    obtain ⟨after, rest⟩ := ih landed others
    refine ⟨after, Tracks.trans (first.mono fun labels gone => ?_) (rest.mono fun labels => ?_)⟩
    · exact ⟨f, List.mem_cons_self, gone⟩
    · rintro ⟨g, member, gone⟩
      exact ⟨g, List.mem_cons_of_mem f member, gone⟩

theorem tracks_landFlights (legible : b.Legible) (now started : Instant) (l : ProbeLoop)
    (flights : List Flight) (named : ∀ f ∈ flights, f.Named) :
    (landFlights now started l flights b).1.Legible ∧
      (∀ f ∈ (landFlights now started l flights b).2.flights, f.Named) ∧
      b.Tracks (fun labels => ∃ f ∈ flights.filter (·.isOver now), f.OfGone labels)
        (landFlights now started l flights b).1 := by
  obtain ⟨landed, phase, left, eq⟩ := landFlights_eq now started l flights b
  obtain ⟨after, tracks⟩ := tracks_landAll legible l.zone l.fqdn
    (flights.filter (·.isOver now)) fun f member => named f (List.mem_filter.mp member).1
  rw [landed, eq]
  refine ⟨after, fun f member => ?_, tracks⟩
  rw [ProbeLoop.flights, left] at member
  exact named f (List.mem_filter.mp member).1

/-- A round begins a cycle on each backend and ends those that take no time. -/
theorem tracks_startRound (legible : b.Legible) (now started : Instant) (l : ProbeLoop)
    (resting : l.flights = []) : (startRound now started l b).1.Legible ∧
      (∀ f ∈ (startRound now started l b).2.flights, f.Named) ∧
      b.Tracks (fun _ => False) (startRound now started l b).1 := by
  unfold startRound
  split
  · refine ⟨legible, fun f member => ?_, tracks_of_eq rfl rfl⟩
    rw [resting] at member
    cases member
  rename_i r found
  obtain ⟨placed, records, rows⟩ := legible
  obtain ⟨backends, began⟩ := startFlights_each b.network now r.settings.scrapeRetries
    r.settings.scrapeTimeout b.tally r.backends
  generalize startFlights b.network now r.settings.scrapeRetries r.settings.scrapeTimeout b.tally
    r.backends = begun at backends began ⊢
  obtain ⟨news, tally, flights⟩ := begun
  dsimp only at backends began ⊢
  have attached {f : Flight} (member : f ∈ flights) {gone : Backend} :
      f.detached ≠ some gone := by
    obtain ⟨x, _, t, rfl⟩ := began f member
    exact fun taken => nomatch taken
  have after : { b with zones := b.zones.put { r with backends := news }, tally }.Legible := by
    refine ⟨?_, ?_, rows⟩
    · exact (sameControl_put placed found (by rfl) b.strays tally b.metrics b.tracker).placed placed
    · refine Zones.named_put records placed found rfl fun x member => ?_
      obtain ⟨y, before, rfl⟩ := List.mem_map.mp (show x ∈ r.backends.map _ from backends ▸ member)
      exact (records l.zone l.fqdn r found).backends y before
  have counted : b.Tracks (fun _ => False)
      { b with zones := b.zones.put { r with backends := news }, tally } := by
    refine tracks_of_backs (fun _ _ told => told) fun labels alive _ backs => ?_
    refine Zones.backs_put placed found rfl (fun x held _ => ⟨x.beginCycle.2, ?_, rfl⟩) backs
    rw [Record.backend?] at held ⊢
    rw [backends, List.find?_map]
    exact congrArg (Option.map _) held
  obtain ⟨landed, named, tracks⟩ := tracks_landFlights after now started l flights
    fun f member gone taken => absurd taken (attached member)
  refine ⟨landed, named, counted.trans (tracks.mono ?_)⟩
  rintro labels ⟨f, member, gone, taken, _⟩
  exact attached (List.mem_filter.mp member).1 taken

/-- The cycles in flight that the loop ends when it goes on. -/
def ending (b : Balancer) (now : Instant) (l : ProbeLoop) : List Flight :=
  (resumeFlights b.network now b.tally l.flights).2.filter (·.isOver now)

theorem tracks_stepLoop (legible : b.Legible) (now : Instant) {l : ProbeLoop}
    (named : ∀ f ∈ l.flights, f.Named) : (stepLoop now b l).1.Legible ∧
      (∀ f ∈ (stepLoop now b l).2.flights, f.Named) ∧
      b.Tracks (fun labels => ∃ f ∈ b.ending now l, f.OfGone labels)
        (stepLoop now b l).1 := by
  have idle : b.Tracks (fun labels => ∃ f ∈ b.ending now l, f.OfGone labels) b :=
    tracks_of_eq rfl rfl
  have round (started : Instant) (resting : l.flights = []) :
      (startRound now started l b).1.Legible ∧
        (∀ f ∈ (startRound now started l b).2.flights, f.Named) ∧
        b.Tracks (fun labels => ∃ f ∈ b.ending now l, f.OfGone labels)
          (startRound now started l b).1 := by
    obtain ⟨after, fresh, tracks⟩ := tracks_startRound legible now started l resting
    exact ⟨after, fresh, tracks.mono fun _ => False.elim⟩
  unfold stepLoop
  cases phase : l.phase with
  | waiting wakes =>
    dsimp only
    split
    · exact round now (by rw [ProbeLoop.flights, phase]; rfl)
    · exact ⟨legible, named, idle⟩
  | sleeping started wakes =>
    dsimp only
    split
    · exact round started (by rw [ProbeLoop.flights, phase]; rfl)
    · exact ⟨legible, named, idle⟩
  | probing started flights =>
    have own : l.flights = flights := by rw [ProbeLoop.flights, phase]; rfl
    have tallied : { b with tally := (resumeFlights b.network now b.tally flights).1 }.Legible :=
      ⟨legible.placed, legible.records, legible.rows⟩
    obtain ⟨after, left, tracks⟩ := tracks_landFlights tallied now started l
      (resumeFlights b.network now b.tally flights).2 fun f member gone taken => by
        obtain ⟨g, before, t, rfl⟩ := resumeFlights_each b.network now b.tally flights f member
        exact named g (own ▸ before) gone taken
    refine ⟨after, left, tracks.mono fun labels gone => ?_⟩
    rw [ending, own]
    exact gone

end

/-! ### Polls -/

/-- Besides, the cycles in flight go by names in normal form. -/
structure Labelled (b : Balancer) : Prop extends Legible b where
  flights : ∀ l ∈ b.loops, ∀ f ∈ l.flights, f.Named

/-- The loop of this number is about to end a cycle on a backend that was taken off, whose labels
these are. -/
def EndsGone (b : Balancer) (number : Nat) (labels : List String) : Prop :=
  ∃ l ∈ b.loops, l.number = number ∧ l.cancelled = false ∧
    ∃ f ∈ b.ending b.now l, f.OfGone labels

section

variable {b : Balancer}

theorem tracks_poll (labelled : b.Labelled) (number : Nat) : (b.poll number).Labelled ∧
    b.Tracks (b.EndsGone number) (b.poll number) := by
  rcases poll_cases b number with
    ⟨idle, _⟩ | ⟨l, member, same, ⟨_, ended⟩ | ⟨uncancelled, went⟩⟩
  · rw [idle]
    exact ⟨labelled, tracks_of_eq rfl rfl⟩
  · rw [ended, endLoops, List.partition_eq_filter_filter]
    refine ⟨⟨⟨labelled.placed, labelled.records, labelled.rows⟩, fun k there => ?_⟩,
      tracks_of_eq rfl rfl⟩
    exact labelled.flights k (List.mem_filter.mp there).1
  · obtain ⟨after, left, tracks⟩ :=
      tracks_stepLoop labelled.toLegible b.now (labelled.flights l member)
    rw [went]
    refine ⟨⟨⟨after.placed, after.records, after.rows⟩, ?_⟩, ?_⟩
    · intro k there
      obtain ⟨j, before, rfl⟩ := List.mem_map.mp there
      rw [(sameControl_stepLoop labelled.placed b.now l).loops] at before
      split
      · exact left
      · exact labelled.flights j before
    · exact tracks.mono fun labels gone => ⟨l, member, same, uncancelled, gone⟩

/-! ### Reloads -/

@[simp] theorem key_forgetHealth (m : Metrics) (fqdn : String) (xs : List Backend) :
    (forgetHealth m fqdn xs).healthy.key = m.healthy.key := by
  unfold forgetHealth
  induction xs generalizing m with
  | nil => rfl
  | cons x xs ih => exact ih (m.removeBackend fqdn x.address.render)

theorem key_merged (b : Balancer) (z : ZoneDefinition) :
    (b.merged z).metrics.healthy.key = b.metrics.healthy.key := by
  rw [merged, frame_foldl (·.metrics.healthy.key) fun b r => key_forgetHealth b.metrics r.fqdn _,
    frame_foldl (·.metrics.healthy.key) fun b d => key_forgetHealth b.metrics d.fqdn _]

theorem mem_forgetHealth {m : Metrics} {fqdn : String} {xs : List Backend}
    {e : List String × Bool} : e ∈ (forgetHealth m fqdn xs).healthy.rows ↔
      e ∈ m.healthy.rows ∧
        ∀ x ∈ xs, m.healthy.key e.1 ≠ m.healthy.key [fqdn, x.address.render] := by
  unfold forgetHealth
  induction xs generalizing m with
  | nil => simp
  | cons x xs ih =>
    rw [List.foldl_cons, ih, Metrics.removeBackend, Series.mem_erase, List.forall_mem_cons,
      and_assoc]
    rfl

theorem rows_dropAll (zone : String) (ds : List Zones.Dropped) (b : Balancer)
    {e : List String × Bool} : e ∈ (ds.foldl (dropBackends zone) b).metrics.healthy.rows ↔
      e ∈ b.metrics.healthy.rows ∧ ∀ d ∈ ds, ∀ x ∈ d.backends,
        b.metrics.healthy.key e.1 ≠ b.metrics.healthy.key [d.fqdn, x.address.render] := by
  induction ds generalizing b with
  | nil => simp
  | cons d ds ih =>
    rw [List.foldl_cons, ih, dropBackends, mem_forgetHealth, List.forall_mem_cons, and_assoc,
      key_forgetHealth]

theorem rows_removeAll (rs : List Record) (b : Balancer) {e : List String × Bool} :
    e ∈ (rs.foldl removeRecord b).metrics.healthy.rows ↔
      e ∈ b.metrics.healthy.rows ∧ ∀ r ∈ rs, ∀ x ∈ r.backends,
        b.metrics.healthy.key e.1 ≠ b.metrics.healthy.key [r.fqdn, x.address.render] := by
  induction rs generalizing b with
  | nil => simp
  | cons r rs ih =>
    rw [List.foldl_cons, ih, removeRecord, mem_forgetHealth, List.forall_mem_cons, and_assoc,
      key_forgetHealth]
    rfl

/-- Whatever a merge drops or removes takes its row along. -/
theorem tracks_merged (labelled : b.Labelled) (z : ZoneDefinition)
    (exempt : List String → Prop) : b.Tracks exempt (b.merged z) := by
  refine tracks_of_backs (fun labels alive told => ?_) fun labels alive told backs => ?_
  · rw [Tells, merged, rows_removeAll, rows_dropAll] at told
    exact told.1.1
  · obtain ⟨zone, fqdn, r, x, found, held, rfl, alive⟩ := backs
    rw [Tells, merged, rows_removeAll, rows_dropAll] at told
    by_cases own : zone = z.zone
    · subst own
      rcases @Zones.traces_reload b.zones (z.numberProbes b.nextProbe).2 b.stopped fqdn _ _ _
          found held with
        ⟨new, y, after, kept, same⟩ | ⟨d, dropped, rfl, y, member, address⟩ | removed
      · have address := (Record.mem_of_backend? kept).2
        refine ⟨z.zone, fqdn, new, y, ?_, address.symm ▸ kept, by rw [address], ?_⟩
        · rw [zones_merged]
          exact after
        · rw [same.1]
          exact alive
      · exact absurd (by rw [address]) (told.1.2 d dropped y member)
      · have name := (labelled.placed _ _ _ found).2
        exact absurd (by rw [name]) (told.2 r removed x (Record.mem_of_backend? held).1)
    · exact ⟨zone, fqdn, r, x, (record?_merged_other b z own fqdn).trans found, held, rfl, alive⟩

theorem labelled_merged (labelled : b.Labelled) (coherent : b.Coherent) {z : ZoneDefinition}
    (written : z.Named) : (b.merged z).Labelled := by
  have numbered := ZoneDefinition.normal_of_names written (ZoneDefinition.names_of_unnumbered
    (z.unnumbered_numberProbes b.nextProbe))
  have before : ∀ fqdn r, b.zones.record? z.zone fqdn = some r → r.Named fqdn :=
    labelled.records z.zone
  have dropped : ∀ d ∈ (b.zones.reload (z.numberProbes b.nextProbe).2 b.stopped).dropped,
      ∀ x ∈ d.backends, Normal x.record := by
    intro d member x inside
    obtain ⟨r, named, from_⟩ := Zones.forall_dropped_reload (P := Record.Named)
      (z := (z.numberProbes b.nextProbe).2) before
      (fun _ _ d _ named => Record.named_updateFrom named d)
      (fun d there => Record.named_ofDefinition _ (numbered d there) _) d member
    rw [named.backends x (from_ inside)]
    exact named.normal
  have tells : (b.merged z).metrics.healthy.key.TellsBackends := by
    rw [key_merged]
    exact labelled.rows.tells
  refine ⟨⟨(coherent_merged coherent z).placed, fun zone fqdn r found => ?_,
    tells, fun e told => ?_⟩, ?_⟩
  · by_cases own : zone = z.zone
    · subst own
      rw [zones_merged] at found
      exact Zones.forall_reload (P := Record.Named) (z := (z.numberProbes b.nextProbe).2) before
        (fun _ _ d _ named => Record.named_updateFrom named d)
        (fun d there => Record.named_ofDefinition _ (numbered d there) _) fqdn r found
    · exact labelled.records zone fqdn r (record?_merged_other b z own fqdn ▸ found)
  · rw [merged, rows_removeAll, rows_dropAll] at told
    exact labelled.rows.rows e told.1.1
  · refine eachFlight_merged labelled.flights z fun d member x inside f _ gone taken => ?_
    exact Option.some.inj taken ▸ dropped d member x inside

/-! ### Every move -/

theorem labelled_spawn (labelled : b.Labelled) (zone fqdn : String) (delay : Duration) :
    (b.spawn zone fqdn delay).Labelled := by
  refine ⟨⟨?_, ?_, ?_⟩, eachFlight_spawn labelled.flights zone fqdn delay⟩
  · rw [zones_spawn]
    exact labelled.placed
  · rw [zones_spawn]
    exact labelled.records
  · rw [metrics_spawn]
    exact labelled.rows

theorem labelled_spawnAll (labelled : b.Labelled) (es : List (String × String × Duration)) :
    (b.spawnAll es).Labelled := by
  induction es generalizing b with
  | nil => exact labelled
  | cons e es ih => exact ih (labelled_spawn labelled e.1 e.2.1 e.2.2)

theorem tracks_spawnAll (es : List (String × String × Duration)) (exempt : List String → Prop) :
    b.Tracks exempt (b.spawnAll es) :=
  tracks_of_eq (zones_spawnAll b es) (congrArg Metrics.healthy (metrics_spawnAll b es))

theorem tracks_shutdown (labelled : b.Labelled) (coherent : b.Coherent)
    (exempt : List String → Prop) : b.shutdown.Labelled ∧ b.Tracks exempt b.shutdown := by
  have record {zone fqdn : String} : b.shutdown.zones.record? zone fqdn =
      (b.zones.record? zone fqdn).map Record.cancel := Zones.record?_mapRecords ..
  refine ⟨⟨⟨(coherent_shutdown coherent).placed, ?_, labelled.rows⟩, ?_⟩, tracks_of_backs ?_ ?_⟩
  · intro zone fqdn r found
    rw [record] at found
    obtain ⟨old, before, rfl⟩ := Option.map_eq_some_iff.mp found
    have named := labelled.records zone fqdn old before
    exact ⟨named.normal, named.own, named.backends⟩
  · intro l member
    obtain ⟨k, before, rfl⟩ := List.mem_map.mp member
    exact labelled.flights k before
  · exact fun _ _ told => told
  · rintro labels alive _ ⟨zone, fqdn, r, x, found, held, own, told⟩
    exact ⟨zone, fqdn, r.cancel, x, by rw [record, found]; rfl, held, own, told⟩

theorem tracks_pick (labelled : b.Labelled) (name : String) (family : Family) (client : Address)
    (chance : Chance) : (b.pick name family client chance).2.Labelled ∧
      b.Tracks (fun _ => False) (b.pick name family client chance).2 := by
  unfold pick record
  cases found : b.findRecord name with
  | none => exact ⟨labelled, tracks_of_eq rfl rfl⟩
  | some r =>
    obtain ⟨zone, present⟩ := Zones.exists_of_findRecord found
    obtain ⟨placed, records, rows⟩ := labelled.toLegible
    have counted (answer : Except SelectionError (List Address)) :
        (countSelected b.metrics r.fqdn answer).healthy = b.metrics.healthy := by
      unfold countSelected
      split <;> rfl
    refine ⟨⟨⟨?_, ?_, ?_⟩, labelled.flights⟩, tracks_of_backs ?_ ?_⟩
    · exact (sameControl_put placed present (by rfl) b.strays b.tally b.metrics b.tracker).placed
        placed
    · exact Zones.named_put records placed present rfl (records _ _ r present).backends
    · exact (counted _).symm ▸ rows
    · exact fun labels alive told => by rwa [Tells, ← counted]
    · intro labels alive _ backs
      exact Zones.backs_put placed present rfl (fun x held _ => ⟨x, held, rfl⟩) backs

theorem tracks_answer (labelled : b.Labelled) (name : String) (family : Family)
    (client : Address) (chance : Chance) : (b.answer name family client chance).2.Labelled ∧
      b.Tracks (fun _ => False) (b.answer name family client chance).2 := by
  unfold answer
  cases b.record name with
  | error e => exact ⟨labelled, tracks_of_eq rfl rfl⟩
  | ok r =>
    have noted : (b.noteQuery r.fqdn).Labelled :=
      ⟨⟨labelled.placed, labelled.records, labelled.rows⟩, labelled.flights⟩
    have picked := tracks_pick noted r.fqdn family client chance
    have counted {c : Balancer} (outcome : String) (labelled : c.Labelled)
        (tracks : (b.noteQuery r.fqdn).Tracks (fun _ => False) c) :
        (c.countResolved r.fqdn outcome).Labelled ∧
          b.Tracks (fun _ => False) (c.countResolved r.fqdn outcome) :=
      ⟨⟨⟨labelled.placed, labelled.records, labelled.rows⟩, labelled.flights⟩, tracks⟩
    dsimp only
    split
    · rename_i answered
      rw [answered] at picked
      exact counted "success" picked.1 picked.2
    · rename_i failed
      rw [failed] at picked
      exact counted "fail" picked.1 picked.2

/-- Labels of a row that the move may write though their backend is gone. -/
def Exempt (b : Balancer) (m : Move) (labels : List String) : Prop :=
  ∃ number, m = .poll number ∧ b.EndsGone number labels

theorem tracks_move (labelled : b.Labelled) (coherent : b.Coherent) {m : Move}
    (named : ∀ z, m = .reload z → z.Named) :
    (b.move m).Labelled ∧ b.Tracks (b.Exempt m) (b.move m) := by
  have placed := labelled.placed
  have same (c : Balancer) (zones : c.zones = b.zones) (metrics : c.metrics = b.metrics)
      (loops : c.loops = b.loops) : c.Labelled ∧ b.Tracks (b.Exempt m) c :=
    ⟨⟨⟨zones ▸ placed, zones ▸ labelled.records, metrics ▸ labelled.rows⟩,
      loops ▸ labelled.flights⟩, tracks_of_eq zones (congrArg Metrics.healthy metrics)⟩
  cases m with
  | tick now date => exact same _ rfl rfl rfl
  | poll number =>
    obtain ⟨after, tracks⟩ := tracks_poll labelled number
    exact ⟨after, tracks.mono fun labels ends => ⟨number, rfl, ends⟩⟩
  | attempts => exact same _ rfl rfl rfl
  | surroundings network order => exact same _ rfl rfl rfl
  | start =>
    rw [move, start_eq]
    split
    · exact same b rfl rfl rfl
    · have running : { b with running := true }.Labelled :=
        ⟨⟨placed, labelled.records, labelled.rows⟩, labelled.flights⟩
      have started := labelled_spawnAll running b.roster
      exact ⟨⟨⟨started.placed, started.records, started.rows⟩, started.flights⟩,
        tracks_spawnAll (b := { b with running := true }) b.roster _⟩
  | shutdown => exact tracks_shutdown labelled coherent _
  | reload z =>
    have merged := labelled_merged labelled coherent (named z rfl)
    have tracks := tracks_merged labelled z (b.Exempt (.reload z))
    rw [move, reloadZone_eq]
    split
    · have started := labelled_spawnAll merged (b.additions z)
      exact ⟨⟨⟨started.placed, started.records, started.rows⟩, started.flights⟩,
        tracks.trans (tracks_spawnAll (b.additions z) _)⟩
    · exact ⟨⟨⟨merged.placed, merged.records, merged.rows⟩, merged.flights⟩, tracks⟩
  | pick name family client chance =>
    obtain ⟨after, tracks⟩ := tracks_pick labelled name family client chance
    exact ⟨after, tracks.mono fun _ => False.elim⟩
  | answer name family client chance =>
    obtain ⟨after, tracks⟩ := tracks_answer labelled name family client chance
    exact ⟨after, tracks.mono fun _ => False.elim⟩

theorem labelled_built {zs : List ZoneDefinition} (written : ∀ z ∈ zs, z.Named)
    {key : RowKey} (tells : key.TellsBackends) (profiles : Profiles) (locations : LocationTable)
    (geo : GeoSources) (pacing : Pacing) :
    (built zs profiles locations geo pacing key).Labelled := by
  have numbered : ∀ z ∈ (threadNat ZoneDefinition.numberProbes 0 zs).2,
      ∀ d ∈ z.records, Normal d.fqdn := by
    intro z member
    obtain ⟨w, there, _, same⟩ := ZoneDefinition.exists_of_mem_numbered member
    exact ZoneDefinition.normal_of_names (written w there)
      (ZoneDefinition.names_of_unnumbered same)
  have records := @Zones.forall_ofDefinitions (fun _ fqdn r => r.Named fqdn)
    (threadNat ZoneDefinition.numberProbes 0 zs).2
    fun z member d inside => Record.named_ofDefinition z.zone (numbered z member d inside) false
  exact ⟨⟨(coherent_built zs profiles locations geo pacing key).placed, records,
    ⟨tells, fun _ member => nomatch member⟩⟩, fun _ member => nomatch member⟩

/-! ### Whole runs -/

/-- A cycle on a backend that was taken off has written the row on its way, and the row has stood
ever since. -/
def LeftBehind (b : Balancer) (ms : List Move) (labels : List String) (alive : Bool) : Prop :=
  ∃ past number rest, ms = past ++ .poll number :: rest ∧
    (b.moves past).EndsGone number labels ∧
    ∀ mid, mid <+: rest → (b.moves (past ++ .poll number :: mid)).Tells labels alive

theorem leftBehind_concat {ms : List Move} {m : Move} {labels : List String} {alive : Bool}
    (left : b.LeftBehind ms labels alive) (told : (b.moves (ms ++ [m])).Tells labels alive) :
    b.LeftBehind (ms ++ [m]) labels alive := by
  obtain ⟨past, number, rest, rfl, ends, stands⟩ := left
  refine ⟨past, number, rest ++ [m], by simp, ends, fun mid before => ?_⟩
  rcases List.prefix_concat_iff.mp before with rfl | earlier
  · simpa using told
  · exact stands mid earlier

theorem labelled_moves (labelled : b.Labelled) (coherent : b.Coherent) {ms : List Move}
    (named : ∀ z, .reload z ∈ ms → z.Named) : (b.moves ms).Labelled := by
  induction ms generalizing b with
  | nil => exact labelled
  | cons m ms ih =>
    have step := tracks_move labelled coherent (m := m) fun z equal => named z (by simp [equal])
    exact ih step.1 (coherent_move coherent m)
      fun z member => named z (List.mem_cons_of_mem m member)

end

/-- In every run a row of the gauge is that of a live backend and tells what is held of it, or
the row was left behind: it has stood since a cycle ended whose backend had been taken off
while the cycle was in flight. -/
theorem gauge_tracked {key : RowKey} (tells : key.TellsBackends) {zs : List ZoneDefinition}
    (written : ∀ z ∈ zs, z.Named) (profiles : Profiles) (locations : LocationTable)
    (geo : GeoSources) (pacing : Pacing) {ms : List Move}
    (reloaded : ∀ z, .reload z ∈ ms → z.Named) (labels : List String) (alive : Bool) :
    let b := built zs profiles locations geo pacing key
    (labels, alive) ∈ (b.moves ms).metrics.healthy.rows →
      (b.moves ms).zones.Backs labels alive ∨ b.LeftBehind ms labels alive := by
  intro b
  have coherent := coherent_built zs profiles locations geo pacing key
  have labelled := labelled_built written tells profiles locations geo pacing
  induction ms using List.reverseRecOn with
  | nil => exact fun told => nomatch told
  | append_singleton ms m ih =>
    intro told
    have before : ∀ z, .reload z ∈ ms → z.Named :=
      fun z member => reloaded z (List.mem_append_left _ member)
    have step := tracks_move (labelled_moves labelled coherent before)
      (coherent_moves coherent ms) (m := m) fun z equal => reloaded z (by simp [equal])
    have row : ((b.moves ms).move m).Tells labels alive := moves_concat b ms m ▸ told
    rw [moves_concat]
    rcases step.2 labels alive row with backs | ⟨number, rfl, ends⟩ | ⟨earlier, unbacked⟩
    · exact Or.inl backs
    · refine Or.inr ⟨ms, number, [], rfl, ends, fun mid first => ?_⟩
      rw [List.prefix_nil.mp first]
      exact told
    · exact Or.inr (leftBehind_concat ((ih before earlier).resolve_left unbacked) told)

/-- Two backends, of which the first takes twenty milliseconds to probe. -/
def unevenZone : ZoneDefinition where
  zone := "example.org."
  records := [{ fqdn := "a.example.org.", backends := [
    { address := .v4 0x0a000001#32
      probes := [{ check := .scripted {
        tag := "up", delay := .ofMillis 20, outcomes := [.passed] } }] },
    { address := .v4 0x0a000002#32 }] }]

/-- The first backend is taken off. -/
def evenZone : ZoneDefinition where
  zone := "example.org."
  records := [{ fqdn := "a.example.org.", backends := [{ address := .v4 0x0a000002#32 }] }]

/-- The backend is taken off while its first cycle is in flight. -/
def droppedInFlight : List Move :=
  [.start, .poll 0, .reload evenZone, .tick (.ofMillis 20) ⟨0⟩, .poll 0]

theorem named_droppedInFlight : ∀ z, .reload z ∈ droppedInFlight → z.Named := by
  have named : evenZone.Named := by decide +kernel
  simpa [droppedInFlight] using named

theorem unbacked_droppedInFlight (alive : Bool) :
    ¬ ((built [unevenZone] [] {} {} {}).moves droppedInFlight).zones.Backs
      ["a.example.org.", "10.0.0.1"] alive := by
  rintro ⟨zone, fqdn, r, x, found, held, own, _⟩
  have others : ∀ r ∈ ((built [unevenZone] [] {} {} {}).moves droppedInFlight).zones.allRecords,
      ∀ x ∈ r.backends, x.address.render ≠ "10.0.0.1" := by decide +kernel
  have inside := (Record.mem_of_backend? held).1
  refine others r (Zones.mem_allRecords_iff.mpr ⟨zone, fqdn, found⟩) x inside ?_
  simpa using (List.cons.inj (List.cons.inj own).2).1.symm

theorem gauge_tracked_droppedInFlight :
    (RowKey.joined.TellsBackends ∧ (∀ z ∈ [unevenZone], z.Named) ∧
      ∀ z, .reload z ∈ droppedInFlight → z.Named) ∧
      (built [unevenZone] [] {} {} {}).LeftBehind droppedInFlight
        ["a.example.org.", "10.0.0.1"] true := by
  have written : ∀ z ∈ [unevenZone], z.Named := by decide +kernel
  have told : (["a.example.org.", "10.0.0.1"], true) ∈
      ((built [unevenZone] [] {} {} {}).moves droppedInFlight).metrics.healthy.rows := by
    decide +kernel
  have tracked := gauge_tracked RowKey.tellsBackends_joined written [] {} {} {}
    named_droppedInFlight _ true told
  exact ⟨⟨RowKey.tellsBackends_joined, written, named_droppedInFlight⟩,
    tracked.resolve_left (unbacked_droppedInFlight true)⟩

/-- Not every row is that of a live backend. -/
theorem gauge_untracked : ¬ ∀ (zs : List ZoneDefinition) (profiles : Profiles)
    (locations : LocationTable) (geo : GeoSources) (pacing : Pacing) (ms : List Move)
    (labels : List String) (alive : Bool), (∀ z ∈ zs, z.Named) →
      (∀ z, .reload z ∈ ms → z.Named) →
      (labels, alive) ∈ ((built zs profiles locations geo pacing).moves ms).metrics.healthy.rows →
      ((built zs profiles locations geo pacing).moves ms).zones.Backs labels alive := by
  intro tracked
  have backs := tracked [unevenZone] [] {} {} {} droppedInFlight ["a.example.org.", "10.0.0.1"]
    true (by decide +kernel) named_droppedInFlight (by decide +kernel)
  exact unbacked_droppedInFlight true backs

end Balancer

end DnsBalancer
