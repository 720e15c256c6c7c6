import DnsBalancer.Proofs.Balancer.Tokens

/-!
# One loop for each record

Records are known by zone and name, but the handle of a loop is kept under the name alone. A
name that only one zone holds always has its one loop, over any starts and reloads. Two zones
that hold one name, such as a zone and one below it, have one handle for their two records: the
loop that is started last ends the other.
-/
namespace DnsBalancer

/-- At most one zone holds the name. -/
def Zones.Unshared (m : Zones) (fqdn : String) : Prop :=
  ∀ zone other, (m.record? zone fqdn).isSome = true → (m.record? other fqdn).isSome = true →
    zone = other

namespace Balancer

/-- The loops of a record whose tokens are not cancelled. -/
def loopsOf (b : Balancer) (zone fqdn : String) : List ProbeLoop :=
  b.loops.filter fun l => !l.cancelled && l.zone == zone && l.fqdn == fqdn

/-- The record has one loop, and the handle that is kept under its name is that of the loop. -/
def Scheduled (b : Balancer) (zone fqdn : String) : Prop :=
  ∃ l, b.loopsOf zone fqdn = [l] ∧ b.tasks.find? fqdn = some l.number

/-- The record has a loop whose handle is kept under its name. -/
def HasLoop (b : Balancer) (zone fqdn : String) : Prop :=
  ∃ t ∈ b.tickets, t.zone = zone ∧ t.fqdn = fqdn ∧ t.cancelled = false ∧
    b.tasks.find? fqdn = some t.number

section

variable {b : Balancer} {zone fqdn : String}

theorem mem_loopsOf {l : ProbeLoop} : l ∈ b.loopsOf zone fqdn ↔
    l ∈ b.loops ∧ l.cancelled = false ∧ l.zone = zone ∧ l.fqdn = fqdn := by
  simp [loopsOf, and_assoc]

/-- A record has no second loop. -/
theorem loopsOf_eq (coherent : b.Coherent) {l : ProbeLoop} (member : l ∈ b.loopsOf zone fqdn) :
    b.loopsOf zone fqdn = [l] := by
  have numbers : (b.loops.map (·.number)).Nodup := by
    have numbers := coherent.numbers
    rwa [tickets, List.map_map] at numbers
  have alike : ∀ k ∈ b.loopsOf zone fqdn, k = l := by
    intro k other
    obtain ⟨there, uncancelled, inZone, name⟩ := mem_loopsOf.mp other
    obtain ⟨present, live, here, named⟩ := mem_loopsOf.mp member
    have same := coherent.single _ (mem_tickets there) _ (mem_tickets present) uncancelled live
      (inZone.trans here.symm) (name.trans named.symm)
    exact List.inj_on_of_nodup_map numbers there present (congrArg Ticket.number same)
  have once : (b.loopsOf zone fqdn).Nodup := (numbers.of_map _).filter _
  generalize b.loopsOf zone fqdn = loops at member alike once
  rcases loops with _ | ⟨j, _ | ⟨k, rest⟩⟩
  · cases member
  · rw [alike j (List.mem_singleton_self j)]
  · have first := alike j (by simp)
    have second := alike k (by simp)
    simp [first, second] at once

theorem length_loopsOf_le (coherent : b.Coherent) (zone fqdn : String) :
    (b.loopsOf zone fqdn).length ≤ 1 := by
  cases found : b.loopsOf zone fqdn with
  | nil => simp
  | cons l rest =>
    have only := loopsOf_eq coherent (l := l) (found ▸ List.mem_cons_self)
    simp [← found, only]

theorem scheduled_iff (coherent : b.Coherent) :
    b.Scheduled zone fqdn ↔ b.HasLoop zone fqdn := by
  constructor
  · rintro ⟨l, only, handle⟩
    obtain ⟨present, uncancelled, inZone, name⟩ :=
      mem_loopsOf.mp (only ▸ List.mem_singleton_self l)
    exact ⟨l.ticket, mem_tickets present, inZone, name, uncancelled, handle⟩
  · rintro ⟨t, member, inZone, name, uncancelled, handle⟩
    obtain ⟨l, present, rfl⟩ := List.mem_map.mp member
    exact ⟨l, loopsOf_eq coherent (mem_loopsOf.mpr ⟨present, uncancelled, inZone, name⟩), handle⟩

/-- Two records of one name do not both have a loop: there is one handle for them. -/
theorem zone_of_hasLoop (coherent : b.Coherent) {other : String}
    (first : b.HasLoop zone fqdn) (second : b.HasLoop other fqdn) : zone = other := by
  obtain ⟨t, member, rfl, _, _, handle⟩ := first
  obtain ⟨u, present, rfl, _, _, same⟩ := second
  have number := Option.some.inj (handle.symm.trans same)
  rw [ticket_of_number coherent.numbers member present number]

/-! ### Starting loops -/

/-- A loop that is started for another name ends no loop of this one. -/
theorem hasLoop_spawn_other (coherent : b.Coherent) (has : b.HasLoop zone fqdn)
    {otherZone other : String} (different : other ≠ fqdn) (delay : Duration) :
    (b.spawn otherZone other delay).HasLoop zone fqdn := by
  obtain ⟨t, member, inZone, name, uncancelled, handle⟩ := has
  refine ⟨t, mem_tickets_spawn.mpr (Or.inl ⟨member, fun held => ?_⟩), inZone, name, uncancelled, ?_⟩
  · exact different ((coherent.owned t member other held).symm.trans name)
  · rw [tasks_spawn, NameMap.find?_insert, if_neg different, handle]

theorem hasLoop_spawn (coherent : b.Coherent) (going : b.stopped = false)
    (live : (b.zones.record? zone fqdn).isSome = true) (delay : Duration) :
    (b.spawn zone fqdn delay).HasLoop zone fqdn := by
  obtain ⟨r, found⟩ := Option.isSome_iff_exists.mp live
  refine ⟨_, mem_tickets_spawn.mpr (Or.inr rfl), rfl, rfl, ?_, ?_⟩
  · rw [found]
    exact (coherent.tokens zone fqdn r found).trans going
  · rw [tasks_spawn, NameMap.find?_insert, if_pos rfl]

/-- Of the loops that are started, those of the name are all of one zone. -/
theorem hasLoop_spawnAll {names : String → String → Prop}
    {es : List (String × String × Duration)} (coherent : b.Coherent) (held : b.Held names)
    (running : b.running = true) (going : b.stopped = false)
    (each : ∀ e ∈ es, names e.1 e.2.1 ∧ (b.zones.record? e.1 e.2.1).isSome = true)
    (only : ∀ e ∈ es, e.2.1 = fqdn → e.1 = zone)
    (due : b.HasLoop zone fqdn ∨ ∃ delay, (zone, fqdn, delay) ∈ es) :
    (b.spawnAll es).HasLoop zone fqdn := by
  induction es generalizing b with
  | nil =>
    rcases due with has | ⟨delay, member⟩
    · exact has
    · cases member
  | cons e es ih =>
    obtain ⟨⟨named, live⟩, rest⟩ := List.forall_mem_cons.mp each
    obtain ⟨own, later⟩ := List.forall_mem_cons.mp only
    apply ih (coherent_spawn coherent held named running live e.2.2) (held_spawn held e.2.2)
      ((running_spawn e.2.2).trans running) ((stopped_spawn e.2.2).trans going)
      (by simpa only [zones_spawn] using rest) later
    by_cases same : e.2.1 = fqdn
    · have inZone := own same
      subst same inZone
      exact Or.inl (hasLoop_spawn coherent going live e.2.2)
    · rcases due with has | ⟨delay, member⟩
      · exact Or.inl (hasLoop_spawn_other coherent has same e.2.2)
      · rcases List.mem_cons.mp member with rfl | after
        · exact absurd rfl same
        · exact Or.inr ⟨delay, after⟩

/-- A loop stays while loops are started for other names. -/
theorem mem_loops_spawnAll {names : String → String → Prop}
    {es : List (String × String × Duration)} (coherent : b.Coherent) (held : b.Held names)
    (running : b.running = true)
    (each : ∀ e ∈ es, names e.1 e.2.1 ∧ (b.zones.record? e.1 e.2.1).isSome = true)
    {l : ProbeLoop} (member : l ∈ b.loops) (others : ∀ e ∈ es, e.2.1 ≠ l.fqdn) :
    l ∈ (b.spawnAll es).loops := by
  induction es generalizing b with
  | nil => exact member
  | cons e es ih =>
    obtain ⟨⟨named, live⟩, rest⟩ := List.forall_mem_cons.mp each
    obtain ⟨other, later⟩ := List.forall_mem_cons.mp others
    apply ih (coherent_spawn coherent held named running live e.2.2) (held_spawn held e.2.2)
      ((running_spawn e.2.2).trans running) (by simpa only [zones_spawn] using rest) ?_ later
    rw [loops_spawn]
    refine List.mem_append_left _ (List.mem_filter.mpr ⟨member, ?_⟩)
    have spared : b.tasks.find? e.2.1 ≠ some l.number := fun handle =>
      other (coherent.owned l.ticket (mem_tickets member) e.2.1 handle).symm
    simpa using spared

/-- The last record of a name that a loop is started for has its loop then, which waits for the
delay. -/
theorem waiting_spawnAll {names : String → String → Prop}
    {front back : List (String × String × Duration)} {delay : Duration} (coherent : b.Coherent)
    (held : b.Held names) (running : b.running = true)
    (each : ∀ e ∈ front ++ (zone, fqdn, delay) :: back,
      names e.1 e.2.1 ∧ (b.zones.record? e.1 e.2.1).isSome = true)
    (last : ∀ e ∈ back, e.2.1 ≠ fqdn) :
    { number := b.nextLoop + front.length, zone, fqdn,
      phase := .waiting (b.now + delay).nextMilli, cancelled := b.stopped } ∈
      (b.spawnAll (front ++ (zone, fqdn, delay) :: back)).loops := by
  induction front generalizing b with
  | nil =>
    obtain ⟨⟨named, live⟩, rest⟩ := List.forall_mem_cons.mp each
    apply mem_loops_spawnAll (coherent_spawn coherent held named running live delay)
      (held_spawn held delay) ((running_spawn delay).trans running)
      (by simpa only [zones_spawn] using rest) ?_ last
    obtain ⟨r, found⟩ := Option.isSome_iff_exists.mp live
    have token : ((b.zones.record? zone fqdn).map (·.cancelled)).getD true = b.stopped := by
      rw [found]
      exact coherent.tokens zone fqdn r found
    rw [loops_spawn, token]
    exact List.mem_append_right _ (List.mem_singleton_self _)
  | cons e front ih =>
    obtain ⟨⟨named, live⟩, rest⟩ := List.forall_mem_cons.mp each
    have waits := ih (coherent_spawn coherent held named running live e.2.2)
      (held_spawn held e.2.2) ((running_spawn e.2.2).trans running)
      (fun x member => by rw [zones_spawn]; exact rest x member)
    rw [nextLoop_spawn, now_spawn, stopped_spawn, Nat.add_right_comm] at waits
    exact waits

theorem nextLoop_spawnAll (b : Balancer) (es : List (String × String × Duration)) :
    (b.spawnAll es).nextLoop = b.nextLoop + es.length := by
  induction es generalizing b with
  | nil => rfl
  | cons e es ih =>
    rw [spawnAll, List.foldl_cons, ← spawnAll, ih, nextLoop_spawn, List.length_cons]
    omega

/-! ### One move -/

theorem hasLoop_of_sameControl {c : Balancer} (same : b.SameControl c)
    (has : b.HasLoop zone fqdn) : c.HasLoop zone fqdn := by
  rw [HasLoop, tickets, same.loops, same.tasks]
  exact has

theorem hasLoop_start (coherent : b.Coherent) (still : b.running = false)
    (going : b.stopped = false)
    (normal : ∀ zone ∈ NameMap.names b.zones, DomainName.Normal zone)
    (unshared : b.zones.Unshared fqdn)
    (live : (b.zones.record? zone fqdn).isSome = true) : b.start.HasLoop zone fqdn := by
  have started : ({ b with running := true }.spawnAll b.roster).HasLoop zone fqdn := by
    apply hasLoop_spawnAll (coherent_running coherent) (held_running coherent still) rfl going
    · exact fun e member => ⟨trivial, mem_roster coherent.placed member⟩
    · rintro e member rfl
      exact unshared _ _ (mem_roster coherent.placed member) live
    · exact Or.inr (exists_mem_roster coherent.placed normal live)
  rw [start_eq, still]
  exact started

/-- After a start the last record of each name on the roster has its loop, which waits for the
delay. -/
theorem waiting_start (coherent : b.Coherent) (still : b.running = false)
    {front back : List (String × String × Duration)} {delay : Duration}
    (split : b.roster = front ++ (zone, fqdn, delay) :: back)
    (last : ∀ e ∈ back, e.2.1 ≠ fqdn) :
    { number := b.nextLoop + front.length, zone, fqdn,
      phase := .waiting (b.now + delay).nextMilli, cancelled := b.stopped } ∈ b.start.loops := by
  have started := waiting_spawnAll (coherent_running coherent) (held_running coherent still) rfl
    (fun e member => ⟨trivial, mem_roster coherent.placed (split ▸ member)⟩) last
  rw [start_eq, still, split]
  exact started

/-- A reload gives a loop to each record of the name that it adds and takes none from the one
that stays. -/
theorem hasLoop_reload (coherent : b.Coherent) (running : b.running = true)
    (going : b.stopped = false) (z : ZoneDefinition) (before : b.zones.Unshared fqdn)
    (after : (b.merged z).zones.Unshared fqdn)
    (has : ∀ zone, (b.zones.record? zone fqdn).isSome = true → b.HasLoop zone fqdn)
    (live : ((b.merged z).zones.record? zone fqdn).isSome = true) :
    (b.move (.reload z)).HasLoop zone fqdn := by
  have merged := coherent_merged coherent z
  have started : ((b.merged z).spawnAll (b.additions z)).HasLoop zone fqdn := by
    apply hasLoop_spawnAll merged (held_merged coherent z)
      ((running_merged b z).trans running) ((stopped_merged b z).trans going)
    · intro e member
      obtain ⟨inZone, _, fresh, present⟩ := mem_additions_iff.mp member
      exact ⟨inZone ▸ fresh, inZone ▸ present⟩
    · rintro e member rfl
      obtain ⟨inZone, _, _, present⟩ := mem_additions_iff.mp member
      exact inZone.trans (after _ _ present live)
    · by_cases present : (b.zones.record? zone fqdn).isSome = true
      · obtain ⟨t, member, rfl, rfl, uncancelled, handle⟩ := has zone present
        have stays : ¬ b.Leaves z t.zone t.fqdn := by
          intro leaves
          rw [leaves.2] at live
          cases live
        refine Or.inl ⟨t, ?_, rfl, rfl, uncancelled, ?_⟩
        · rw [tickets_merged coherent.placed]
          exact List.mem_map.mpr ⟨t, member, if_neg stays⟩
        · rw [find?_tasks_merged coherent.placed, if_neg, handle]
          -- A record of the name that left would be this one.
          exact fun leaves => stays (before _ _ leaves.1 present ▸ leaves)
      · have own : zone = z.zone := by
          by_contra other
          exact present (record?_merged_other b z other fqdn ▸ live)
        subst own
        refine Or.inr ⟨.zero, mem_additions_iff.mpr ⟨rfl, rfl, ?_, live⟩⟩
        simpa using present
  rw [move, reloadZone_eq, running]
  exact started

theorem going_move (coherent : b.Coherent) (running : b.running = true)
    (going : b.stopped = false) {m : Move} (serving : m ≠ .shutdown) :
    (b.move m).running = true ∧ (b.move m).stopped = false := by
  have kept {c : Balancer} (same : b.SameControl c) : c.running = true ∧ c.stopped = false :=
    ⟨same.running.trans running, same.stopped.trans going⟩
  have placed := coherent.placed
  cases m with
  | tick now date => exact ⟨running, going⟩
  | poll number =>
    exact kept (c := { b.poll number with loops := b.loops }) (sameControl_poll placed number)
  | attempts => exact ⟨running, going⟩
  | surroundings network order => exact ⟨running, going⟩
  | start => simp [move, start, running, going]
  | shutdown => exact absurd rfl serving
  | reload z =>
    rw [move, reloadZone_eq, running]
    exact ⟨(running_spawnAll ..).trans ((running_merged b z).trans running),
      (stopped_spawnAll ..).trans ((stopped_merged b z).trans going)⟩
  | pick name family client chance => exact kept (sameControl_pick placed name family client chance)
  | answer name family client chance =>
    exact kept (sameControl_answer placed name family client chance)

/-- Before the shutdown a move leaves a loop to each record of a name that is never shared. -/
theorem hasLoop_move (coherent : b.Coherent) (running : b.running = true)
    (going : b.stopped = false) {m : Move} (serving : m ≠ .shutdown)
    (before : b.zones.Unshared fqdn) (after : (b.move m).zones.Unshared fqdn)
    (has : ∀ zone, (b.zones.record? zone fqdn).isSome = true → b.HasLoop zone fqdn)
    (live : ((b.move m).zones.record? zone fqdn).isSome = true) :
    (b.move m).HasLoop zone fqdn := by
  have kept {c : Balancer} (same : b.SameControl c)
      (live : (c.zones.record? zone fqdn).isSome = true) : c.HasLoop zone fqdn :=
    hasLoop_of_sameControl same (has zone (same.isSome_record? zone fqdn ▸ live))
  have placed := coherent.placed
  cases m with
  | tick now date => exact has zone live
  | poll number =>
    have same := sameControl_poll placed number
    obtain ⟨t, member, inZone, name, uncancelled, handle⟩ :=
      has zone (same.isSome_record? zone fqdn ▸ live)
    refine ⟨t, ?_, inZone, name, uncancelled, ?_⟩
    · rw [move, tickets_poll placed coherent.numbers]
      exact List.mem_filter.mpr ⟨member, by simp [uncancelled]⟩
    · exact (congrArg (NameMap.find? · fqdn) same.tasks).trans handle
  | attempts => exact has zone live
  | surroundings network order => exact has zone live
  | start =>
    rw [move, start, if_pos running] at live ⊢
    exact has zone live
  | shutdown => exact absurd rfl serving
  | reload z =>
    rw [zones_move_reload] at after live
    exact hasLoop_reload coherent running going z before after has live
  | pick name family client chance =>
    exact kept (sameControl_pick placed name family client chance) live
  | answer name family client chance =>
    exact kept (sameControl_answer placed name family client chance) live

/-! ### Whole runs -/

/-- A run from `start` on in which the name is never shared, and no shutdown. -/
theorem hasLoop_moves (coherent : b.Coherent) (still : b.running = false)
    (going : b.stopped = false)
    (normal : ∀ zone ∈ NameMap.names b.zones, DomainName.Normal zone)
    {ms : List Move} (serving : .shutdown ∉ ms)
    (unshared : ∀ past, past <+: ms → (b.moves (.start :: past)).zones.Unshared fqdn) :
    ((b.moves (.start :: ms)).running = true ∧ (b.moves (.start :: ms)).stopped = false) ∧
      ∀ zone, ((b.moves (.start :: ms)).zones.record? zone fqdn).isSome = true →
        (b.moves (.start :: ms)).HasLoop zone fqdn := by
  induction ms using List.reverseRecOn with
  | nil =>
    have zones : b.start.zones = b.zones := zones_start b
    refine ⟨?_, fun zone live => ?_⟩
    · rw [moves_cons, moves_nil, move, start_eq, still]
      exact ⟨running_spawnAll { b with running := true } b.roster,
        (stopped_spawnAll { b with running := true } b.roster).trans going⟩
    · have started := unshared [] (List.prefix_refl [])
      rw [moves_cons, moves_nil, move, zones] at live started
      exact hasLoop_start coherent still going normal started live
  | append_singleton ms m ih =>
    obtain ⟨⟨running, stays⟩, has⟩ := ih (fun member => serving (List.mem_append_left _ member))
      fun past before => unshared past (before.trans (List.prefix_append ms [m]))
    have reached := coherent_moves coherent (.start :: ms)
    have other : m ≠ .shutdown := fun equal => serving (by simp [equal])
    have step : b.moves (.start :: (ms ++ [m])) = (b.moves (.start :: ms)).move m :=
      moves_concat b (.start :: ms) m
    have now := unshared ms (List.prefix_append ms [m])
    have after := unshared (ms ++ [m]) (List.prefix_refl _)
    rw [step] at after ⊢
    exact ⟨going_move reached running stays other,
      fun zone live => hasLoop_move reached running stays other now after has live⟩

end

theorem normal_names_built {zs : List ZoneDefinition}
    (normal : ∀ z ∈ zs, DomainName.Normal z.zone) (profiles : Profiles)
    (locations : LocationTable) (geo : GeoSources) (pacing : Pacing) :
    ∀ zone ∈ NameMap.names (built zs profiles locations geo pacing).zones,
      DomainName.Normal zone := by
  intro zone member
  obtain ⟨w, there, rfl⟩ := Zones.exists_of_mem_names_ofDefinitions member
  obtain ⟨z, written, same, _⟩ := ZoneDefinition.exists_of_mem_numbered there
  exact same ▸ normal z written

/-- A balancer is started, its zones going by names in normal form as loaded ones do, and then
polled, asked and reloaded in any order. No loop goes on
whose record is not live, and no record has two. A record has its one loop, and the handle of
it, at all times, if its name is never live in two zones, and only then. -/
theorem loops_scheduled {zs : List ZoneDefinition}
    (normal : ∀ z ∈ zs, DomainName.Normal z.zone) (profiles : Profiles)
    (locations : LocationTable) (geo : GeoSources) (pacing : Pacing) {ms : List Move}
    (serving : .shutdown ∉ ms) :
    let after (past : List Move) :=
      (built zs profiles locations geo pacing).moves (.start :: past)
    (∀ l ∈ (after ms).loops, l.cancelled = false →
      ∃ r, (after ms).zones.record? l.zone l.fqdn = some r) ∧
    (∀ zone fqdn, ((after ms).loopsOf zone fqdn).length ≤ 1) ∧
    ∀ fqdn, (∀ past, past <+: ms → ∀ zone r, (after past).zones.record? zone fqdn = some r →
        (after past).Scheduled zone fqdn) ↔
      ∀ past, past <+: ms → (after past).zones.Unshared fqdn := by
  intro after
  have start := coherent_built zs profiles locations geo pacing
  have names : ∀ zone ∈ NameMap.names (built zs profiles locations geo pacing).zones,
      DomainName.Normal zone := normal_names_built normal profiles locations geo pacing
  have coherent (past : List Move) : (after past).Coherent := coherent_moves start _
  refine ⟨?_, length_loopsOf_le (coherent ms), fun fqdn => ⟨?_, ?_⟩⟩
  · intro l member uncancelled
    exact Option.isSome_iff_exists.mp ((coherent ms).live l.ticket (mem_tickets member) uncancelled)
  · intro scheduled past before zone other first second
    obtain ⟨r, found⟩ := Option.isSome_iff_exists.mp first
    obtain ⟨x, there⟩ := Option.isSome_iff_exists.mp second
    exact zone_of_hasLoop (coherent past)
      ((scheduled_iff (coherent past)).mp (scheduled past before zone r found))
      ((scheduled_iff (coherent past)).mp (scheduled past before other x there))
  · intro unshared past before zone r found
    have has := hasLoop_moves start rfl rfl names (fun member => serving (before.subset member))
      fun earlier first => unshared earlier (first.trans before)
    exact (scheduled_iff (coherent past)).mpr (has.2 zone (Option.isSome_iff_exists.mpr ⟨r, found⟩))

/-- A zone with one record of the name. -/
def zoneOf (zone : String) (fqdns : List String) : ZoneDefinition where
  zone
  records := fqdns.map fun fqdn => { fqdn, backends := [{ address := .v4 0x0a000001#32 }] }

/-- A second record is added to the only zone while the first one's loop goes on. -/
theorem loops_scheduled_added :
    let zone := "example.org."
    let ms : List Move := [.reload (zoneOf zone ["a.example.org.", "b.example.org."])]
    (∀ z ∈ [zoneOf zone ["a.example.org."]], DomainName.Normal z.zone) ∧ .shutdown ∉ ms ∧
      ((built [zoneOf zone ["a.example.org."]] [] {} {} {}).moves
        (.start :: ms)).Scheduled zone "b.example.org." := by
  intro zone ms
  have normal : ∀ z ∈ [zoneOf zone ["a.example.org."]], DomainName.Normal z.zone := by
    decide +kernel
  have serving : .shutdown ∉ ms := by simp [ms]
  refine ⟨normal, serving, ?_⟩
  have started (other fqdn : String) (different : other ≠ zone) :
      (built [zoneOf zone ["a.example.org."]] [] {} {} {}).start.zones.record? other fqdn =
        none := by
    rw [zones_start]
    exact (Zones.record?_insert {} zone other fqdn _).trans (if_neg different.symm)
  -- The zone is the only one, before the reload and after it.
  have alone : ∀ past, past <+: ms → ∀ other fqdn, (((built [zoneOf zone ["a.example.org."]] []
      {} {} {}).moves (.start :: past)).zones.record? other fqdn).isSome = true →
        other = zone := by
    intro past before other fqdn live
    by_contra different
    rcases List.prefix_cons_iff.mp before with rfl | ⟨rest, rfl, nothing⟩
    · rw [moves_cons, moves_nil, move, started other fqdn different] at live
      cases live
    · rw [List.prefix_nil.mp nothing, moves_cons, moves_cons, moves_nil, zones_move_reload,
        record?_merged_other _ _ different, move, started other fqdn different] at live
      cases live
  have added : (((built [zoneOf zone ["a.example.org."]] [] {} {} {}).moves
      (.start :: ms)).zones.record? zone "b.example.org.").isSome = true := by decide +kernel
  obtain ⟨r, found⟩ := Option.isSome_iff_exists.mp added
  refine ((loops_scheduled normal [] {} {} {} serving).2.2 "b.example.org.").mpr ?_ ms
    (List.prefix_refl ms) zone r found
  intro past before here there first second
  exact (alone past before _ _ first).trans (alone past before _ _ second).symm

/-- Two zones, one below the other, have one name: of the two records one gets a loop. -/
theorem start_schedules_one : ¬ ∀ (zs : List ZoneDefinition) (profiles : Profiles)
    (locations : LocationTable) (geo : GeoSources) (pacing : Pacing)
    (reloads : List ZoneDefinition) zone fqdn r, (∀ z ∈ zs, DomainName.Normal z.zone) →
    let b := (built zs profiles locations geo pacing).moves (.start :: reloads.map .reload)
    b.zones.record? zone fqdn = some r → b.Scheduled zone fqdn := by
  intro scheduled
  have one := scheduled [zoneOf "example.org." ["a.sub.example.org."],
    zoneOf "sub.example.org." ["a.sub.example.org."]] [] {} {} {} [] "example.org."
    "a.sub.example.org." _ (by decide +kernel) rfl
  obtain ⟨l, only, _⟩ := one
  have none : (((built [zoneOf "example.org." ["a.sub.example.org."],
    zoneOf "sub.example.org." ["a.sub.example.org."]] [] {} {} {}).moves [.start]).loopsOf
      "example.org." "a.sub.example.org.").length = 0 := by decide +kernel
  have some := congrArg List.length only
  exact Nat.zero_ne_one (none.symm.trans some)

end Balancer

end DnsBalancer
