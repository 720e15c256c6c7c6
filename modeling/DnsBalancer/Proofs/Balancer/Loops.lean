import DnsBalancer.Proofs.Balancer.Moves

/-!
# Loops and tasks under control

Starting, stopping and reloading make loops, cancel them and end them. What each of these parts
does is said here once; a reload is the merge of a definition and then the starting of loops for
what the merge has added.
-/
namespace DnsBalancer

namespace Ticket

def cancel (t : Ticket) : Ticket := { t with cancelled := true }

/-- The second is the first later on. A token stays cancelled. -/
structure Becomes (t u : Ticket) : Prop where
  number : t.number = u.number
  zone : t.zone = u.zone
  fqdn : t.fqdn = u.fqdn
  cancelled : t.cancelled = true → u.cancelled = true

theorem Becomes.refl (t : Ticket) : t.Becomes t := ⟨rfl, rfl, rfl, id⟩

theorem Becomes.trans {t u v : Ticket} (first : t.Becomes u) (second : u.Becomes v) :
    t.Becomes v :=
  ⟨first.number.trans second.number, first.zone.trans second.zone, first.fqdn.trans second.fqdn,
    second.cancelled ∘ first.cancelled⟩

theorem becomes_cancel (t : Ticket) : t.Becomes t.cancel := ⟨rfl, rfl, rfl, fun _ => rfl⟩

end Ticket

namespace Balancer

/-! ### What each part of control does -/

section

variable (b : Balancer)

theorem tickets_cancelLoops (which : Ticket → Bool) :
    (b.cancelLoops (which ·.ticket)).tickets =
      b.tickets.map fun t => if which t then t.cancel else t := by
  simp only [tickets, cancelLoops, List.map_map]
  refine List.map_congr_left fun l _ => ?_
  simp only [Function.comp_apply]
  split <;> rfl

theorem tickets_shutdown : b.shutdown.tickets = b.tickets.map Ticket.cancel :=
  tickets_cancelLoops b fun _ => true

theorem tickets_dropBackends (zone : String) (d : Zones.Dropped) :
    (b.dropBackends zone d).tickets = b.tickets := by
  simp only [tickets, dropBackends, List.map_map]
  refine List.map_congr_left fun l _ => ?_
  simp only [Function.comp_apply, detachFlights]
  split
  · split <;> rfl
  · rfl

theorem tickets_removeRecord (r : Record) : (b.removeRecord r).tickets =
    b.tickets.map fun t => if t.zone == r.zone && t.fqdn == r.fqdn then t.cancel else t :=
  tickets_cancelLoops b fun t => t.zone == r.zone && t.fqdn == r.fqdn

theorem tickets_removeRecords (rs : List Record) : (rs.foldl removeRecord b).tickets =
    b.tickets.map fun t =>
      if rs.any fun r => t.zone == r.zone && t.fqdn == r.fqdn then t.cancel else t := by
  induction rs generalizing b with
  | nil => simp
  | cons r rs ih =>
    rw [List.foldl_cons, ih, tickets_removeRecord, List.map_map]
    refine List.map_congr_left fun t _ => ?_
    simp only [Function.comp_apply, List.any_cons]
    by_cases own : (t.zone == r.zone && t.fqdn == r.fqdn) = true
    · simp [own, Ticket.cancel]
    · simp [own]

/-- What is kept by name and given up with a record is gone for the names of those removed. -/
theorem find?_removeRecords {α : Type} (kept : Balancer → NameMap α)
    (erased : ∀ b r, kept (removeRecord b r) = (kept b).erase r.fqdn) (rs : List Record)
    (fqdn : String) : (kept (rs.foldl removeRecord b)).find? fqdn =
      if fqdn ∈ rs.map (·.fqdn) then none else (kept b).find? fqdn := by
  induction rs generalizing b with
  | nil => simp
  | cons r rs ih =>
    rw [List.foldl_cons, ih, erased]
    simp only [NameMap.find?_erase, List.map_cons, List.mem_cons, eq_comm (a := fqdn)]
    by_cases own : r.fqdn = fqdn
    · simp [own]
    · simp [own]

/-- A new loop takes the place of the one whose handle is kept under its name. -/
theorem loops_spawn (zone fqdn : String) (delay : Duration) :
    (b.spawn zone fqdn delay).loops =
      b.loops.filter (fun l => !(b.tasks.find? fqdn == some l.number)) ++
        [{ number := b.nextLoop, zone, fqdn, phase := .waiting (b.now + delay).nextMilli,
           cancelled := ((b.zones.record? zone fqdn).map (·.cancelled)).getD true }] := by
  unfold spawn
  cases b.tasks.find? fqdn with
  | none => simp
  | some old =>
    refine congrArg (· ++ _) ((loops_endLoops (·.number == old)).trans ?_)
    exact List.filter_congr fun l _ => by simp [eq_comm]

theorem tickets_spawn (zone fqdn : String) (delay : Duration) :
    (b.spawn zone fqdn delay).tickets =
      b.tickets.filter (fun t => !(b.tasks.find? fqdn == some t.number)) ++
        [⟨b.nextLoop, zone, fqdn, ((b.zones.record? zone fqdn).map (·.cancelled)).getD true⟩] := by
  rw [tickets, loops_spawn, List.map_append, tickets, List.filter_map]
  rfl

end

/-! ### A reload in two halves -/

/-- A balancer in the middle of a reload, before loops are started for what is new. -/
def merged (b : Balancer) (z : ZoneDefinition) : Balancer :=
  let r := b.zones.reload (z.numberProbes b.nextProbe).2 b.stopped
  r.removed.foldl removeRecord (r.dropped.foldl (dropBackends z.zone)
    { b with zones := r.zones, nextProbe := (z.numberProbes b.nextProbe).1 })

/-- Starts one loop after the other. -/
def spawnAll (b : Balancer) (es : List (String × String × Duration)) : Balancer :=
  es.foldl (fun b e => b.spawn e.1 e.2.1 e.2.2) b

/-- What a reload starts loops for. -/
def additions (b : Balancer) (z : ZoneDefinition) : List (String × String × Duration) :=
  (b.zones.reload (z.numberProbes b.nextProbe).2 b.stopped).added.map (z.zone, ·, .zero)

section

variable (b : Balancer) (z : ZoneDefinition)

theorem zones_merged : (b.merged z).zones =
    (b.zones.reload (z.numberProbes b.nextProbe).2 b.stopped).zones := by
  rw [merged, frame_foldl zones zones_removeRecord, frame_foldl zones (zones_dropBackends _)]

/-- What no part of the merge touches. -/
theorem frame_merged {β : Type} (g : Balancer → β) (removed : ∀ b r, g (removeRecord b r) = g b)
    (dropped : ∀ b d, g (dropBackends z.zone b d) = g b)
    (taken : ∀ zones nextProbe, g { b with zones, nextProbe } = g b) : g (b.merged z) = g b := by
  rw [merged, frame_foldl g removed, frame_foldl g dropped, taken]

@[simp] theorem nextLoop_merged : (b.merged z).nextLoop = b.nextLoop :=
  b.frame_merged z nextLoop (fun _ _ => rfl) (fun _ _ => rfl) fun _ _ => rfl

@[simp] theorem running_merged : (b.merged z).running = b.running :=
  b.frame_merged z running (fun _ _ => rfl) (fun _ _ => rfl) fun _ _ => rfl

@[simp] theorem stopped_merged : (b.merged z).stopped = b.stopped :=
  b.frame_merged z stopped (fun _ _ => rfl) (fun _ _ => rfl) fun _ _ => rfl

theorem reloadZone_eq : (b.reloadZone z).2 =
    (if b.running then (b.merged z).spawnAll (b.additions z) else b.merged z).countInventory := by
  rw [← b.running_merged z, spawnAll, additions, List.foldl_map]
  rfl

theorem zones_move_reload : (b.move (.reload z)).zones = (b.merged z).zones := by
  rw [move, zones_reloadZone, zones_merged]

theorem record?_merged_other {zone : String} (other : zone ≠ z.zone) (fqdn : String) :
    (b.merged z).zones.record? zone fqdn = b.zones.record? zone fqdn := by
  rw [zones_merged]
  exact Zones.record?_reload_other other

/-- A name of the zone that was live before the reload and is not any more. -/
def Leaves (zone fqdn : String) : Prop :=
  (b.zones.record? zone fqdn).isSome = true ∧ (b.merged z).zones.record? zone fqdn = none

instance (zone fqdn : String) : Decidable (b.Leaves z zone fqdn) :=
  inferInstanceAs (Decidable (_ ∧ _))

theorem zone_of_leaves {b : Balancer} {z : ZoneDefinition} {zone fqdn : String}
    (leaves : b.Leaves z zone fqdn) : zone = z.zone := by
  by_contra other
  have present := leaves.1
  rw [← record?_merged_other b z other fqdn, leaves.2] at present
  cases present

variable {b z}

theorem mem_removed_iff (placed : b.zones.Placed) {r : Record} :
    r ∈ (b.zones.reload (z.numberProbes b.nextProbe).2 b.stopped).removed ↔
      b.zones.record? z.zone r.fqdn = some r ∧ b.Leaves z z.zone r.fqdn := by
  rw [Zones.mem_removed_iff, Leaves, zones_merged]
  constructor
  · rintro ⟨fqdn, before, after⟩
    obtain ⟨_, rfl⟩ := placed _ _ _ before
    exact ⟨before, by rw [show b.zones.record? z.zone r.fqdn = some r from before]; rfl, after⟩
  · rintro ⟨before, _, after⟩
    exact ⟨r.fqdn, before, after⟩

/-- The loops of a record that leaves its zone are cancelled, and no others. -/
theorem tickets_merged (placed : b.zones.Placed) : (b.merged z).tickets =
    b.tickets.map fun t => if b.Leaves z t.zone t.fqdn then t.cancel else t := by
  rw [merged, tickets_removeRecords, frame_foldl tickets (tickets_dropBackends · z.zone ·)]
  refine List.map_congr_left fun t _ => ?_
  congr 1
  rw [List.any_eq_true, eq_iff_iff]
  constructor
  · rintro ⟨r, removed, own⟩
    obtain ⟨before, leaves⟩ := (mem_removed_iff placed).mp removed
    simp only [Bool.and_eq_true, beq_iff_eq] at own
    rw [own.1, own.2, (placed _ _ _ before).1]
    exact leaves
  · intro leaves
    obtain ⟨r, before⟩ := Option.isSome_iff_exists.mp leaves.1
    obtain ⟨zone, fqdn⟩ := placed _ _ _ before
    have own := zone_of_leaves leaves
    refine ⟨r, (mem_removed_iff placed).mpr ⟨?_, ?_⟩, by simp [zone, fqdn]⟩
    · rw [← own, fqdn, before]
    · rw [← own, fqdn]
      exact leaves

/-- What is kept by name is given up with a record that leaves its zone. -/
theorem find?_merged {α : Type} (kept : Balancer → NameMap α)
    (erased : ∀ b r, kept (removeRecord b r) = (kept b).erase r.fqdn)
    (dropped : ∀ b d, kept (dropBackends z.zone b d) = kept b)
    (taken : ∀ zones nextProbe, kept { b with zones, nextProbe } = kept b)
    (placed : b.zones.Placed) (fqdn : String) : (kept (b.merged z)).find? fqdn =
      if b.Leaves z z.zone fqdn then none else (kept b).find? fqdn := by
  rw [merged, find?_removeRecords _ kept erased, frame_foldl kept dropped, taken]
  congr 1
  rw [List.mem_map, eq_iff_iff]
  constructor
  · rintro ⟨r, removed, rfl⟩
    exact ((mem_removed_iff placed).mp removed).2
  · intro leaves
    obtain ⟨r, before⟩ := Option.isSome_iff_exists.mp leaves.1
    obtain ⟨_, rfl⟩ := placed _ _ _ before
    exact ⟨r, (mem_removed_iff placed).mpr ⟨before, leaves⟩, rfl⟩

/-- The handle is given up that is kept under the name of a record that leaves. -/
theorem find?_tasks_merged (placed : b.zones.Placed) (fqdn : String) :
    (b.merged z).tasks.find? fqdn =
      if b.Leaves z z.zone fqdn then none else b.tasks.find? fqdn :=
  find?_merged tasks (fun _ _ => rfl) (fun _ _ => rfl) (fun _ _ => rfl) placed fqdn

/-- So is what is known of the queries for it. -/
theorem last?_tracker_merged (placed : b.zones.Placed) (fqdn : String) :
    (b.merged z).tracker.last? fqdn =
      if b.Leaves z z.zone fqdn then none else b.tracker.last? fqdn :=
  find?_merged tracker (fun _ _ => rfl) (fun _ _ => rfl) (fun _ _ => rfl) placed fqdn

/-- Loops are started for the names of the zone that were not live before. -/
theorem mem_additions_iff {e : String × String × Duration} : e ∈ b.additions z ↔
    e.1 = z.zone ∧ e.2.2 = .zero ∧ b.zones.record? z.zone e.2.1 = none ∧
      ((b.merged z).zones.record? z.zone e.2.1).isSome = true := by
  have added (fqdn : String) :
      fqdn ∈ (b.zones.reload (z.numberProbes b.nextProbe).2 b.stopped).added ↔
        b.zones.record? z.zone fqdn = none ∧
          ((b.merged z).zones.record? z.zone fqdn).isSome = true := by
    rw [Zones.mem_added_iff, zones_merged, Option.isSome_iff_exists]
    rfl
  obtain ⟨zone, fqdn, delay⟩ := e
  rw [additions, List.mem_map]
  constructor
  · rintro ⟨name, member, equal⟩
    cases equal
    exact ⟨rfl, rfl, (added fqdn).mp member⟩
  · rintro ⟨rfl, rfl, fresh⟩
    exact ⟨fqdn, (added fqdn).mpr fresh, rfl⟩

end

/-! ### Starting loops -/

section

variable {b : Balancer} {zone fqdn : String}

/-- A loop after another was started is that one, or it was there before and has not been
ended by it. -/
theorem mem_tickets_spawn {delay : Duration} {t : Ticket} :
    t ∈ (b.spawn zone fqdn delay).tickets ↔
      t ∈ b.tickets ∧ b.tasks.find? fqdn ≠ some t.number ∨
        t = ⟨b.nextLoop, zone, fqdn,
          ((b.zones.record? zone fqdn).map (·.cancelled)).getD true⟩ := by
  simp [tickets_spawn]

@[simp] theorem tasks_spawn (delay : Duration) :
    (b.spawn zone fqdn delay).tasks = b.tasks.insert fqdn b.nextLoop := by
  unfold spawn
  cases b.tasks.find? fqdn <;> rfl

@[simp] theorem nextLoop_spawn (delay : Duration) :
    (b.spawn zone fqdn delay).nextLoop = b.nextLoop + 1 := by
  unfold spawn
  cases b.tasks.find? fqdn <;> rfl

@[simp] theorem now_spawn (delay : Duration) : (b.spawn zone fqdn delay).now = b.now := by
  unfold spawn
  cases b.tasks.find? fqdn <;> rfl

@[simp] theorem running_spawn (delay : Duration) :
    (b.spawn zone fqdn delay).running = b.running := by
  unfold spawn
  cases b.tasks.find? fqdn <;> rfl

@[simp] theorem stopped_spawn (delay : Duration) :
    (b.spawn zone fqdn delay).stopped = b.stopped := by
  unfold spawn
  cases b.tasks.find? fqdn <;> rfl

@[simp] theorem metrics_spawn (delay : Duration) :
    (b.spawn zone fqdn delay).metrics = b.metrics := by
  unfold spawn
  cases b.tasks.find? fqdn <;> rfl

end

section

variable (b : Balancer) (es : List (String × String × Duration))

@[simp] theorem zones_spawnAll : (b.spawnAll es).zones = b.zones :=
  frame_foldl zones (fun _ _ => zones_spawn ..) b es

@[simp] theorem running_spawnAll : (b.spawnAll es).running = b.running :=
  frame_foldl running (fun _ _ => running_spawn _) b es

@[simp] theorem stopped_spawnAll : (b.spawnAll es).stopped = b.stopped :=
  frame_foldl stopped (fun _ _ => stopped_spawn _) b es

@[simp] theorem metrics_spawnAll : (b.spawnAll es).metrics = b.metrics :=
  frame_foldl metrics (fun _ _ => metrics_spawn _) b es

/-- What `start` starts loops for. -/
def roster : List (String × String × Duration) :=
  (b.zones.listed.zip (staggerDelays b.zones.listed.length b.pacing.batchSize
    b.pacing.maxStagger)).map fun (r, delay) => (r.zone, r.fqdn, delay)

theorem start_eq : b.start =
    if b.running then b else ({ b with running := true }.spawnAll b.roster).countInventory := by
  rw [spawnAll, roster, List.foldl_map]
  rfl

theorem zones_start : b.start.zones = b.zones := by
  rw [start_eq]
  split
  · rfl
  · exact zones_spawnAll { b with running := true } b.roster

end

end Balancer

end DnsBalancer
