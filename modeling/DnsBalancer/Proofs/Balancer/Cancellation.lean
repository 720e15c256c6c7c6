import DnsBalancer.Proofs.Balancer.Tokens

/-!
# Nothing goes on after cancellation

A loop learns that its token was cancelled when it is polled, wherever it stands: before its
first round, with cycles in flight, or asleep. It then ends without a trace on any backend, and
it stays cancelled until then, whatever else happens.
-/
namespace DnsBalancer.Balancer

variable {b : Balancer}

/-! ### Cancelled for good -/

/-- Loops of the second state were there in the first, or their numbers are new. -/
def Continues (b c : Balancer) : Prop :=
  b.nextLoop ≤ c.nextLoop ∧
    ∀ t ∈ c.tickets, b.nextLoop ≤ t.number ∨ ∃ u ∈ b.tickets, u.Becomes t

theorem Continues.trans {c d : Balancer} (first : b.Continues c) (second : c.Continues d) :
    b.Continues d := by
  refine ⟨Nat.le_trans first.1 second.1, fun t member => ?_⟩
  rcases second.2 t member with fresh | ⟨u, present, later⟩
  · exact Or.inl (Nat.le_trans first.1 fresh)
  rcases first.2 u present with fresh | ⟨v, before, earlier⟩
  · exact Or.inl (later.number ▸ fresh)
  · exact Or.inr ⟨v, before, earlier.trans later⟩

theorem continues_of_subset {c : Balancer} (nextLoop : c.nextLoop = b.nextLoop)
    (fewer : c.tickets ⊆ b.tickets) : b.Continues c :=
  ⟨Nat.le_of_eq nextLoop.symm, fun t member => Or.inr ⟨t, fewer member, .refl t⟩⟩

theorem continues_of_sameControl {c : Balancer} (same : b.SameControl c) : b.Continues c :=
  continues_of_subset same.nextLoop (by rw [tickets, tickets, same.loops]; exact fun _ => id)

theorem continues_spawnAll (b : Balancer) (es : List (String × String × Duration)) :
    b.Continues (b.spawnAll es) := by
  induction es generalizing b with
  | nil => exact continues_of_subset rfl fun _ => id
  | cons e es ih =>
    refine Continues.trans ⟨by simp, fun t member => ?_⟩ (ih _)
    rcases mem_tickets_spawn.mp member with ⟨present, _⟩ | rfl
    · exact Or.inr ⟨t, present, .refl t⟩
    · exact Or.inl (Nat.le_refl _)

theorem continues_move (coherent : b.Coherent) (m : Move) : b.Continues (b.move m) := by
  have placed := coherent.placed
  cases m with
  | tick now date => exact continues_of_subset rfl fun _ => id
  | poll number =>
    refine continues_of_subset (sameControl_poll placed number).nextLoop ?_
    rw [move, tickets_poll placed coherent.numbers]
    exact List.filter_subset_self _
  | attempts => exact continues_of_subset rfl fun _ => id
  | surroundings network order => exact continues_of_subset rfl fun _ => id
  | start =>
    rw [move, start_eq]
    split
    · exact continues_of_subset rfl fun _ => id
    · exact continues_spawnAll { b with running := true } b.roster
  | shutdown =>
    refine ⟨Nat.le_refl _, fun t member => ?_⟩
    rw [move, tickets_shutdown] at member
    obtain ⟨u, present, rfl⟩ := List.mem_map.mp member
    exact Or.inr ⟨u, present, u.becomes_cancel⟩
  | reload z =>
    have merged : b.Continues (b.merged z) := by
      refine ⟨Nat.le_of_eq (nextLoop_merged b z).symm, fun t member => ?_⟩
      obtain ⟨u, present, becomes, _⟩ := exists_ticket_merged coherent z member
      exact Or.inr ⟨u, present, becomes⟩
    rw [move, reloadZone_eq]
    split
    · exact merged.trans (continues_spawnAll (b.merged z) (b.additions z))
    · exact merged
  | pick name family client chance =>
    exact continues_of_sameControl (sameControl_pick placed name family client chance)
  | answer name family client chance =>
    exact continues_of_sameControl (sameControl_answer placed name family client chance)

theorem continues_moves (coherent : b.Coherent) (ms : List Move) :
    b.Continues (b.moves ms) := by
  induction ms generalizing b with
  | nil => exact continues_of_subset rfl fun _ => id
  | cons m ms ih => exact (continues_move coherent m).trans (ih (coherent_move coherent m))

theorem stopped_move (stopped : b.stopped = true) (coherent : b.Coherent) (m : Move) :
    (b.move m).stopped = true := by
  have placed := coherent.placed
  cases m with
  | tick now date => exact stopped
  | poll number => exact (sameControl_poll placed number).stopped.trans stopped
  | attempts => exact stopped
  | surroundings network order => exact stopped
  | start =>
    rw [move, start_eq]
    split
    · exact stopped
    · exact (stopped_spawnAll { b with running := true } b.roster).trans stopped
  | shutdown => rfl
  | reload z =>
    rw [move, reloadZone_eq]
    split
    · exact (stopped_spawnAll ..).trans ((stopped_merged b z).trans stopped)
    · exact (stopped_merged b z).trans stopped
  | pick name family client chance =>
    exact (sameControl_pick placed name family client chance).stopped.trans stopped
  | answer name family client chance =>
    exact (sameControl_answer placed name family client chance).stopped.trans stopped

/-- A poll that does nothing but end the loop, if it is there. -/
def Ends (b : Balancer) (number : Nat) : Prop :=
  ∃ strays, b.poll number =
    { b with loops := b.loops.filter fun l => !(l.number == number), strays }

/-- From here on the loop of this number does nothing, wherever it stands and whatever happens,
but end. -/
def Silent (b : Balancer) (number : Nat) : Prop := ∀ ms : List Move, (b.moves ms).Ends number

theorem ends_of_cancelled {number : Nat}
    (cancelled : ∀ t ∈ b.tickets, t.number = number → t.cancelled = true) : b.Ends number := by
  rcases poll_cases b number with
    ⟨idle, absent⟩ | ⟨l, member, same, ⟨_, ended⟩ | ⟨uncancelled, _⟩⟩
  · refine ⟨b.strays, ?_⟩
    rw [idle, List.filter_eq_self.mpr]
    exact fun l member => by simp [absent l member]
  · rw [Ends, ended, endLoops, List.partition_eq_filter_filter]
    exact ⟨_, rfl⟩
  · have stays := cancelled l.ticket (mem_tickets member) same
    rw [show l.ticket.cancelled = l.cancelled from rfl, uncancelled] at stays
    cases stays

/-- A loop whose token is cancelled is silent, and one that is gone as well: its number is given
to no other. -/
theorem silent_of_cancelled (coherent : b.Coherent) {number : Nat} (given : number < b.nextLoop)
    (cancelled : ∀ t ∈ b.tickets, t.number = number → t.cancelled = true) :
    b.Silent number := by
  intro ms
  refine ends_of_cancelled fun u present equal => ?_
  rcases (continues_moves coherent ms).2 u present with fresh | ⟨t, before, becomes⟩
  · omega
  · exact becomes.cancelled (cancelled t before (becomes.number.trans equal))

theorem silent_of_stopped (coherent : b.Coherent) (stopped : b.stopped = true)
    (number : Nat) : b.Silent number := by
  intro ms
  have last : (b.moves ms).Coherent ∧ (b.moves ms).stopped = true := by
    induction ms generalizing b with
    | nil => exact ⟨coherent, stopped⟩
    | cons m ms ih => exact ih (coherent_move coherent m) (stopped_move stopped coherent m)
  exact ends_of_cancelled fun t member _ => last.1.halted last.2 t member

/-- A reload that takes a record out silences its loops. -/
theorem silent_of_leaves (coherent : b.Coherent) (z : ZoneDefinition) {t : Ticket}
    (member : t ∈ b.tickets) (leaves : b.Leaves z t.zone t.fqdn) :
    (b.move (.reload z)).Silent t.number := by
  have after := coherent_move coherent (.reload z)
  have continues := continues_move coherent (.reload z)
  have given := coherent.given t member
  refine silent_of_cancelled after (Nat.lt_of_lt_of_le given continues.1) ?_
  intro u present equal
  rcases continues.2 u present with fresh | ⟨v, before, becomes⟩
  · omega
  · obtain rfl := ticket_of_number coherent.numbers before member (becomes.number.trans equal)
    -- Were it not cancelled, its record would still be live.
    by_contra uncancelled
    have live := after.live u present (Bool.not_eq_true _ ▸ uncancelled)
    rw [zones_move_reload, ← becomes.zone, ← becomes.fqdn, leaves.2] at live
    cases live

/-! ### Nothing is written after the shutdown -/

/-- A move of a balancer that was shut down leaves what probing has left on the backends. -/
theorem inherits_move (coherent : b.Coherent) (stopped : b.stopped = true) (m : Move) :
    b.zones.Inherits (b.move m).zones := by
  have picked (name : String) (family : Family) (client : Address) (chance : Chance)
      (c : Balancer) (placed : c.zones.Placed) :
      c.zones.Inherits (c.pick name family client chance).2.zones := by
    unfold pick record
    cases found : c.findRecord name with
    | none => exact .refl _
    | some r =>
      obtain ⟨zone, present⟩ := Zones.exists_of_findRecord found
      exact Zones.inherits_put present placed rfl rfl
  cases m with
  | tick now date => exact .refl _
  | poll number =>
    obtain ⟨strays, silent⟩ := silent_of_stopped coherent stopped number []
    rw [move, show b.poll number = _ from silent]
    exact .refl _
  | attempts => exact .refl _
  | surroundings network order => exact .refl _
  | start =>
    rw [move, start_eq]
    split
    · exact .refl _
    · rw [zones_countInventory, zones_spawnAll]
      exact .refl _
  | shutdown => exact Zones.inherits_cancel b.zones
  | reload z =>
    rw [move, zones_reloadZone]
    exact Zones.inherits_reload b.zones (z.numberProbes b.nextProbe).2 b.stopped
  | pick name family client chance => exact picked name family client chance b coherent.placed
  | answer name family client chance =>
    rw [move, answer]
    cases b.record name with
    | error e => exact .refl _
    | ok r =>
      have same := picked r.fqdn family client chance (b.noteQuery r.fqdn) coherent.placed
      dsimp only
      split <;> rename_i answered <;> rw [answered] at same <;> exact same

theorem inherits_moves (coherent : b.Coherent) (stopped : b.stopped = true)
    (ms : List Move) : b.zones.Inherits (b.moves ms).zones := by
  induction ms generalizing b with
  | nil => exact .refl _
  | cons m ms ih =>
    exact (inherits_move coherent stopped m).trans
      (ih (coherent_move coherent m) (stopped_move stopped coherent m))

/-- However a balancer has come to where it is: once a reload has taken a record out, its loops
are silent, and once the balancer is shut down, every loop is, those included that are started
later, for records that are added later. What is held of the backends then stays as it is. -/
theorem cancelled_silent (zs : List ZoneDefinition) (profiles : Profiles)
    (locations : LocationTable) (geo : GeoSources) (pacing : Pacing) (ms : List Move) :
    let b := (built zs profiles locations geo pacing).moves ms
    (∀ z zone fqdn, (b.zones.record? zone fqdn).isSome = true →
      (b.move (.reload z)).zones.record? zone fqdn = none →
      ∀ l ∈ b.loops, l.zone = zone → l.fqdn = fqdn → (b.move (.reload z)).Silent l.number) ∧
    (∀ number, (b.move .shutdown).Silent number) ∧
    ∀ rest, b.zones.Inherits ((b.move .shutdown).moves rest).zones := by
  intro b
  have coherent : b.Coherent :=
    coherent_moves (coherent_built zs profiles locations geo pacing) ms
  have shut := coherent_shutdown coherent
  refine ⟨?_, fun number => silent_of_stopped shut rfl number, fun rest => ?_⟩
  · rintro z _ _ before after l member rfl rfl
    rw [zones_move_reload] at after
    exact silent_of_leaves coherent z (mem_tickets member) ⟨before, after⟩
  · exact (Zones.inherits_cancel b.zones).trans (inherits_moves shut rfl rest)

/-- One record with one backend, whose probe takes twenty milliseconds. -/
def slowZone : ZoneDefinition where
  zone := "example.org."
  records := [{ fqdn := "a.example.org.", backends := [{
    address := .v4 0x0a000001#32
    probes := [{ check := .scripted {
      tag := "up", delay := .ofMillis 20, outcomes := [.passed] } }] }] }]

/-- The record is taken out while its first cycle is in flight. -/
theorem cancelled_silent_inFlight :
    let b := (built [slowZone] [] {} {} {}).moves [.start, .poll 0]
    let emptied : ZoneDefinition := { zone := "example.org.", records := [] }
    (∃ l ∈ b.loops, l.number = 0 ∧ l.flights.length = 1) ∧
      (b.move (.reload emptied)).Silent 0 := by
  intro b emptied
  have flying : ∃ l ∈ b.loops, (l.number = 0 ∧ l.flights.length = 1) ∧
      l.zone = "example.org." ∧ l.fqdn = "a.example.org." := by decide +kernel
  obtain ⟨l, member, inFlight, zone, fqdn⟩ := flying
  have silent := (cancelled_silent [slowZone] [] {} {} {} [.start, .poll 0]).1 emptied
    "example.org." "a.example.org." (by decide +kernel) (by decide +kernel) l member zone fqdn
  exact ⟨⟨l, member, inFlight⟩, inFlight.1 ▸ silent⟩

end DnsBalancer.Balancer
