import DnsBalancer.Proofs.Balancer.Loops

/-!
# Loops, tasks and tokens

Whatever happens to a balancer, its loops have numbers of their own, and one that is not
cancelled is the only such loop of a live record. A record that is taken out takes the tokens
of its loops along, and after the shutdown every loop is cancelled, also one that is started
later for a record that was added later.
-/
namespace DnsBalancer.Balancer

/-- Loops, tasks, records and tokens fit together. -/
structure Coherent (b : Balancer) : Prop where
  placed : b.zones.Placed
  tokens : ∀ zone fqdn r, b.zones.record? zone fqdn = some r → r.cancelled = b.stopped
  numbers : (b.tickets.map (·.number)).Nodup
  given : ∀ t ∈ b.tickets, t.number < b.nextLoop
  issued : ∀ fqdn n, b.tasks.find? fqdn = some n → n < b.nextLoop
  /-- A handle is that of a loop of its name. -/
  owned : ∀ t ∈ b.tickets, ∀ fqdn, b.tasks.find? fqdn = some t.number → t.fqdn = fqdn
  live : ∀ t ∈ b.tickets, t.cancelled = false →
    (b.zones.record? t.zone t.fqdn).isSome = true
  single : ∀ t ∈ b.tickets, ∀ u ∈ b.tickets, t.cancelled = false → u.cancelled = false →
    t.zone = u.zone → t.fqdn = u.fqdn → t = u
  idle : b.running = false → ∀ t ∈ b.tickets, t.cancelled = true
  halted : b.stopped = true → ∀ t ∈ b.tickets, t.cancelled = true

/-- The names in `names` have the handles of their loops. -/
def Held (names : String → String → Prop) (b : Balancer) : Prop :=
  ∀ t ∈ b.tickets, t.cancelled = false → names t.zone t.fqdn →
    b.tasks.find? t.fqdn = some t.number

section

variable {b c : Balancer} {names : String → String → Prop} {zone fqdn : String}

/-- What probing and answering change is no matter, nor are loops that are gone. -/
theorem coherent_of_sublist (coherent : b.Coherent)
    (same : b.SameControl { c with loops := b.loops }) (fewer : c.tickets.Sublist b.tickets) :
    c.Coherent where
  placed := same.placed coherent.placed
  tokens := by
    intro zone fqdn r found
    obtain ⟨old, before, standing⟩ := same.exists_record found
    simp only [Record.standing, Prod.mk.injEq] at standing
    exact standing.2.2 ▸ (coherent.tokens zone fqdn old before).trans same.stopped.symm
  numbers := coherent.numbers.sublist (fewer.map _)
  given t member := same.nextLoop ▸ coherent.given t (fewer.subset member)
  issued fqdn n held := same.nextLoop ▸ coherent.issued fqdn n (same.tasks ▸ held)
  owned t member fqdn held := coherent.owned t (fewer.subset member) fqdn (same.tasks ▸ held)
  live t member uncancelled :=
    (same.isSome_record? _ _).trans (coherent.live t (fewer.subset member) uncancelled)
  single t first u second :=
    coherent.single t (fewer.subset first) u (fewer.subset second)
  idle still t member := coherent.idle (same.running ▸ still) t (fewer.subset member)
  halted still t member := coherent.halted (same.stopped ▸ still) t (fewer.subset member)

theorem coherent_of_sameControl (coherent : b.Coherent) (same : b.SameControl c) :
    c.Coherent :=
  coherent_of_sublist coherent { same with loops := rfl }
    (by rw [tickets, tickets, same.loops])

theorem coherent_poll (coherent : b.Coherent) (number : Nat) : (b.poll number).Coherent := by
  refine coherent_of_sublist coherent (sameControl_poll coherent.placed number) ?_
  rw [tickets_poll coherent.placed coherent.numbers]
  exact List.filter_sublist

theorem coherent_shutdown (coherent : b.Coherent) : b.shutdown.Coherent := by
  have cancelled : ∀ t ∈ b.shutdown.tickets, t.cancelled = true := by
    intro t member
    rw [tickets_shutdown] at member
    obtain ⟨u, _, rfl⟩ := List.mem_map.mp member
    rfl
  have record {zone fqdn : String} {r : Record}
      (found : b.shutdown.zones.record? zone fqdn = some r) :
      ∃ old, b.zones.record? zone fqdn = some old ∧ old.cancel = r := by
    rw [show b.shutdown.zones = b.zones.mapRecords Record.cancel from rfl,
      Zones.record?_mapRecords] at found
    exact Option.map_eq_some_iff.mp found
  constructor
  case placed =>
    intro zone fqdn r found
    obtain ⟨old, before, rfl⟩ := record found
    exact coherent.placed zone fqdn old before
  case tokens =>
    intro zone fqdn r found
    obtain ⟨old, _, rfl⟩ := record found
    rfl
  case numbers =>
    rw [tickets_shutdown, List.map_map]
    exact coherent.numbers
  case given =>
    intro t member
    rw [tickets_shutdown] at member
    obtain ⟨u, present, rfl⟩ := List.mem_map.mp member
    exact coherent.given u present
  case issued =>
    intro fqdn n held
    cases held
  case owned =>
    intro t _ fqdn held
    cases held
  case live =>
    intro t member uncancelled
    rw [cancelled t member] at uncancelled
    cases uncancelled
  case single =>
    intro t first _ _ uncancelled
    rw [cancelled t first] at uncancelled
    cases uncancelled
  case idle => exact fun _ => cancelled
  case halted => exact fun _ => cancelled

/-- A loop in the middle of a reload was there before. -/
theorem exists_ticket_merged (coherent : b.Coherent) (z : ZoneDefinition) {t : Ticket}
    (member : t ∈ (b.merged z).tickets) : ∃ u ∈ b.tickets, u.Becomes t ∧
      (t.cancelled = false → u = t ∧ ¬ b.Leaves z t.zone t.fqdn) := by
  rw [tickets_merged coherent.placed] at member
  obtain ⟨u, present, rfl⟩ := List.mem_map.mp member
  refine ⟨u, present, ?_⟩
  split
  · exact ⟨u.becomes_cancel, nofun⟩
  · rename_i stays
    exact ⟨.refl u, fun _ => ⟨rfl, stays⟩⟩

theorem coherent_merged (coherent : b.Coherent) (z : ZoneDefinition) :
    (b.merged z).Coherent := by
  have records : ∀ zone fqdn r, (b.merged z).zones.record? zone fqdn = some r →
      (r.zone = zone ∧ r.fqdn = fqdn) ∧ r.cancelled = b.stopped := by
    intro zone fqdn r found
    by_cases own : zone = z.zone
    · subst own
      rw [zones_merged] at found
      refine Zones.forall_reload
        (P := fun fqdn r => (r.zone = z.zone ∧ r.fqdn = fqdn) ∧ r.cancelled = b.stopped)
        (z := (z.numberProbes b.nextProbe).2) ?_ ?_ ?_ fqdn r found
      · exact fun fqdn r before =>
          ⟨coherent.placed z.zone fqdn r before, coherent.tokens z.zone fqdn r before⟩
      · exact fun _ _ _ _ stands => stands
      · exact fun d _ => ⟨⟨rfl, rfl⟩, rfl⟩
    · rw [record?_merged_other b z own] at found
      exact ⟨coherent.placed zone fqdn r found, coherent.tokens zone fqdn r found⟩
  have given := coherent.given
  have tasks {fqdn : String} {n : Nat} (held : (b.merged z).tasks.find? fqdn = some n) :
      b.tasks.find? fqdn = some n := by
    rw [find?_tasks_merged coherent.placed] at held
    split at held
    · cases held
    · exact held
  constructor
  case placed =>
    exact fun zone fqdn r found => (records zone fqdn r found).1
  case tokens =>
    exact fun zone fqdn r found => (records zone fqdn r found).2.trans (b.stopped_merged z).symm
  case numbers =>
    rw [tickets_merged coherent.placed, List.map_map]
    refine (List.map_congr_left fun t _ => ?_) ▸ coherent.numbers
    simp only [Function.comp_apply]
    split <;> rfl
  case given =>
    intro t member
    obtain ⟨u, present, becomes, _⟩ := exists_ticket_merged coherent z member
    rw [← becomes.number, nextLoop_merged]
    exact coherent.given u present
  case issued =>
    intro fqdn n held
    rw [nextLoop_merged]
    exact coherent.issued fqdn n (tasks held)
  case owned =>
    intro t member fqdn held
    obtain ⟨u, present, becomes, _⟩ := exists_ticket_merged coherent z member
    exact becomes.fqdn ▸ coherent.owned u present fqdn (becomes.number ▸ tasks held)
  case live =>
    intro t member uncancelled
    obtain ⟨u, present, _, same⟩ := exists_ticket_merged coherent z member
    obtain ⟨rfl, stays⟩ := same uncancelled
    have before := coherent.live u present uncancelled
    rw [Option.isSome_iff_ne_none]
    exact fun after => stays ⟨before, after⟩
  case single =>
    intro t first u second uncancelled live zone fqdn
    obtain ⟨v, present, _, same⟩ := exists_ticket_merged coherent z first
    obtain ⟨w, there, _, alike⟩ := exists_ticket_merged coherent z second
    obtain ⟨rfl, _⟩ := same uncancelled
    obtain ⟨rfl, _⟩ := alike live
    exact coherent.single v present w there uncancelled live zone fqdn
  case idle =>
    intro still t member
    obtain ⟨u, present, becomes, _⟩ := exists_ticket_merged coherent z member
    exact becomes.cancelled (coherent.idle (running_merged b z ▸ still) u present)
  case halted =>
    intro still t member
    obtain ⟨u, present, becomes, _⟩ := exists_ticket_merged coherent z member
    exact becomes.cancelled (coherent.halted (stopped_merged b z ▸ still) u present)

/-! ### Starting loops -/

/-- Handles are kept: a loop is started under its own name, and what had that name ends. -/
theorem held_spawn (held : b.Held names) (delay : Duration) :
    (b.spawn zone fqdn delay).Held names := by
  intro t member uncancelled named
  rw [tasks_spawn, NameMap.find?_insert]
  rcases mem_tickets_spawn.mp member with ⟨present, spared⟩ | rfl
  · have own := held t present uncancelled named
    have other : fqdn ≠ t.fqdn := fun equal => spared (equal ▸ own)
    rw [if_neg other, own]
  · rw [if_pos rfl]

/-- The loop of a live record whose name is held may be started while the balancer runs. -/
theorem coherent_spawn (coherent : b.Coherent) (held : b.Held names) (named : names zone fqdn)
    (running : b.running = true) (live : (b.zones.record? zone fqdn).isSome = true)
    (delay : Duration) : (b.spawn zone fqdn delay).Coherent := by
  obtain ⟨r, found⟩ := Option.isSome_iff_exists.mp live
  have token : ((b.zones.record? zone fqdn).map (·.cancelled)).getD true = b.stopped := by
    rw [found]
    exact coherent.tokens zone fqdn r found
  have old {t : Ticket} (present : t ∈ b.tickets) : t.number ≠ b.nextLoop :=
    Nat.ne_of_lt (coherent.given t present)
  -- A loop that has not been ended is not one of this record, unless it is cancelled.
  have apart {t : Ticket} (present : t ∈ b.tickets)
      (spared : b.tasks.find? fqdn ≠ some t.number) (uncancelled : t.cancelled = false)
      (inZone : t.zone = zone) (name : t.fqdn = fqdn) : False := by
    subst inZone name
    exact spared (held t present uncancelled named)
  constructor
  case placed =>
    rw [zones_spawn]
    exact coherent.placed
  case tokens =>
    rw [zones_spawn, stopped_spawn]
    exact coherent.tokens
  case numbers =>
    rw [tickets_spawn, List.map_append, List.map_singleton, List.nodup_append]
    refine ⟨coherent.numbers.sublist (List.filter_sublist.map _), List.nodup_singleton _, ?_⟩
    intro n first _ last
    obtain ⟨t, member, rfl⟩ := List.mem_map.mp first
    rw [List.mem_singleton.mp last]
    exact old (List.mem_filter.mp member).1
  case given =>
    intro t member
    rw [nextLoop_spawn]
    rcases mem_tickets_spawn.mp member with ⟨present, _⟩ | rfl
    · exact Nat.lt_succ_of_lt (coherent.given t present)
    · exact Nat.lt_succ_self _
  case issued =>
    intro other n held
    rw [tasks_spawn, NameMap.find?_insert] at held
    rw [nextLoop_spawn]
    split at held
    · exact Option.some.inj held ▸ Nat.lt_succ_self _
    · exact Nat.lt_succ_of_lt (coherent.issued other n held)
  case owned =>
    intro t member other held
    rw [tasks_spawn, NameMap.find?_insert] at held
    rcases mem_tickets_spawn.mp member with ⟨present, _⟩ | rfl
    · split at held
      · exact absurd (Option.some.inj held).symm (old present)
      · exact coherent.owned t present other held
    · split at held
      · assumption
      · exact absurd (coherent.issued other _ held) (Nat.lt_irrefl _)
  case live =>
    intro t member uncancelled
    rw [zones_spawn]
    rcases mem_tickets_spawn.mp member with ⟨present, _⟩ | rfl
    · exact coherent.live t present uncancelled
    · exact live
  case single =>
    intro t first u second uncancelled alive inZone name
    rcases mem_tickets_spawn.mp first with ⟨present, spared⟩ | rfl
    · rcases mem_tickets_spawn.mp second with ⟨there, _⟩ | rfl
      · exact coherent.single t present u there uncancelled alive inZone name
      · exact (apart present spared uncancelled inZone name).elim
    · rcases mem_tickets_spawn.mp second with ⟨there, spared⟩ | rfl
      · exact (apart there spared alive inZone.symm name.symm).elim
      · rfl
  case idle =>
    intro still
    rw [running_spawn, running] at still
    cases still
  case halted =>
    intro still t member
    rw [stopped_spawn] at still
    rcases mem_tickets_spawn.mp member with ⟨present, _⟩ | rfl
    · exact coherent.halted still t present
    · exact token.trans still

theorem coherent_spawnAll {es : List (String × String × Duration)} (coherent : b.Coherent)
    (held : b.Held names) (running : b.running = true)
    (each : ∀ e ∈ es, names e.1 e.2.1 ∧ (b.zones.record? e.1 e.2.1).isSome = true) :
    (b.spawnAll es).Coherent := by
  induction es generalizing b with
  | nil => exact coherent
  | cons e es ih =>
    obtain ⟨⟨named, live⟩, rest⟩ := List.forall_mem_cons.mp each
    apply ih (coherent_spawn coherent held named running live e.2.2) (held_spawn held e.2.2)
    · rw [running_spawn, running]
    · simpa only [zones_spawn] using rest

/-! ### Whole moves -/

theorem mem_roster (placed : b.zones.Placed) {e : String × String × Duration}
    (member : e ∈ b.roster) : (b.zones.record? e.1 e.2.1).isSome = true := by
  obtain ⟨⟨r, delay⟩, paired, rfl⟩ := List.mem_map.mp member
  obtain ⟨zone, fqdn, found⟩ := Zones.exists_of_mem_listed (List.of_mem_zip paired).1
  obtain ⟨rfl, rfl⟩ := placed zone fqdn r found
  exact Option.isSome_iff_exists.mpr ⟨r, found⟩

/-- There is a delay for each record. -/
theorem exists_mem_roster (placed : b.zones.Placed)
    (normal : ∀ zone ∈ NameMap.names b.zones, DomainName.Normal zone)
    (live : (b.zones.record? zone fqdn).isSome = true) :
    ∃ delay, (zone, fqdn, delay) ∈ b.roster := by
  obtain ⟨r, found⟩ := Option.isSome_iff_exists.mp live
  obtain ⟨rfl, rfl⟩ := placed zone fqdn r found
  have member := Zones.mem_allRecords_iff.mpr ⟨_, _, found⟩
  have enough : b.zones.listed.length ≤ (staggerDelays b.zones.listed.length
      b.pacing.batchSize b.pacing.maxStagger).length := by simp [staggerDelays]
  rw [← Zones.listed_eq_allRecords normal] at member
  rw [← List.map_fst_zip enough] at member
  obtain ⟨⟨r, delay⟩, paired, rfl⟩ := List.mem_map.mp member
  exact ⟨delay, List.mem_map_of_mem paired⟩

theorem coherent_running (coherent : b.Coherent) : { b with running := true }.Coherent :=
  { coherent with idle := nofun }

/-- Before the start no loop goes on, so no loop that is started then has another before it. -/
theorem held_running (coherent : b.Coherent) (still : b.running = false) :
    { b with running := true }.Held fun _ _ => True := by
  intro t member uncancelled
  rw [coherent.idle still t member] at uncancelled
  cases uncancelled

theorem coherent_start (coherent : b.Coherent) : b.start.Coherent := by
  rw [start_eq]
  split
  · exact coherent
  · rename_i still
    have held := held_running coherent (Bool.not_eq_true _ ▸ still)
    have started := coherent_spawnAll (coherent_running coherent) held rfl
      fun e member => ⟨trivial, mem_roster coherent.placed member⟩
    exact coherent_of_sameControl started ⟨rfl, rfl, rfl, rfl, rfl, fun _ _ => rfl⟩

/-- Before the loops of its additions are started, a reload has left none under their names. -/
theorem held_merged (coherent : b.Coherent) (z : ZoneDefinition) :
    (b.merged z).Held fun zone fqdn => b.zones.record? zone fqdn = none := by
  intro t member uncancelled fresh
  obtain ⟨u, present, _, same⟩ := exists_ticket_merged coherent z member
  obtain ⟨rfl, _⟩ := same uncancelled
  have live := coherent.live u present uncancelled
  rw [fresh] at live
  cases live

theorem coherent_reload (coherent : b.Coherent) (z : ZoneDefinition) :
    (b.reloadZone z).2.Coherent := by
  have merged := coherent_merged coherent z
  rw [reloadZone_eq]
  refine coherent_of_sameControl (b := if b.running then (b.merged z).spawnAll (b.additions z)
    else b.merged z) ?_ ⟨rfl, rfl, rfl, rfl, rfl, fun _ _ => rfl⟩
  split
  · rename_i running
    apply coherent_spawnAll merged (held_merged coherent z) (running_merged b z ▸ running)
    intro e member
    obtain ⟨zone, _, fresh, live⟩ := mem_additions_iff.mp member
    exact ⟨zone ▸ fresh, zone ▸ live⟩
  · exact merged

theorem coherent_move (coherent : b.Coherent) (m : Move) : (b.move m).Coherent := by
  cases m with
  | tick now date =>
    exact coherent_of_sameControl coherent ⟨rfl, rfl, rfl, rfl, rfl, fun _ _ => rfl⟩
  | poll number => exact coherent_poll coherent number
  | attempts => exact coherent_of_sameControl coherent ⟨rfl, rfl, rfl, rfl, rfl, fun _ _ => rfl⟩
  | surroundings network order =>
    exact coherent_of_sameControl coherent ⟨rfl, rfl, rfl, rfl, rfl, fun _ _ => rfl⟩
  | start => exact coherent_start coherent
  | shutdown => exact coherent_shutdown coherent
  | reload z => exact coherent_reload coherent z
  | pick name family client chance =>
    exact coherent_of_sameControl coherent
      (sameControl_pick coherent.placed name family client chance)
  | answer name family client chance =>
    exact coherent_of_sameControl coherent
      (sameControl_answer coherent.placed name family client chance)

theorem coherent_moves (coherent : b.Coherent) (ms : List Move) : (b.moves ms).Coherent := by
  induction ms generalizing b with
  | nil => exact coherent
  | cons m ms ih => exact ih (coherent_move coherent m)

theorem coherent_built (zs : List ZoneDefinition) (profiles : Profiles)
    (locations : LocationTable) (geo : GeoSources) (pacing : Pacing) (key : RowKey := .joined) :
    (built zs profiles locations geo pacing key).Coherent := by
  have records := @Zones.forall_ofDefinitions
    (fun zone fqdn r => (r.zone = zone ∧ r.fqdn = fqdn) ∧ r.cancelled = false)
    (threadNat ZoneDefinition.numberProbes 0 zs).2 fun _ _ _ _ => ⟨⟨rfl, rfl⟩, rfl⟩
  have none (t : Ticket) : t ∉ (built zs profiles locations geo pacing key).tickets :=
    List.not_mem_nil
  exact {
    placed := fun zone fqdn r found => (records zone fqdn r found).1
    tokens := fun zone fqdn r found => (records zone fqdn r found).2
    numbers := List.nodup_nil
    given := fun t member => absurd member (none t)
    issued := fun _ _ held => nomatch held
    owned := fun t member => absurd member (none t)
    live := fun t member => absurd member (none t)
    single := fun t member => absurd member (none t)
    idle := fun _ t member => absurd member (none t)
    halted := fun _ t member => absurd member (none t) }

end

end DnsBalancer.Balancer
