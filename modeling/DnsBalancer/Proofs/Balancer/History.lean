import DnsBalancer.Proofs.Balancer.Tokens
import DnsBalancer.Proofs.DomainName

/-!
# What is known of queries

An answer notes the query of the record that it finds, and a record that leaves its zone takes
what is known of its queries along. A query can also be noted by itself, and then nobody looks
whether a record has the name: such a note stays until a record of the name has come and gone
again, and a record that is added meanwhile counts from it.
-/
namespace DnsBalancer

/-- A record has the name. -/
def Zones.Live (m : Zones) (fqdn : String) : Prop :=
  ∃ zone, (m.record? zone fqdn).isSome = true

/-- What can happen to a balancer, and queries that are noted by themselves. -/
inductive Act where
  | query (name : String)
  | move (m : Move)

namespace Balancer

def act (b : Balancer) : Act → Balancer
  | .query name => b.noteQuery name
  | .move m => b.move m

def acts (b : Balancer) (as : List Act) : Balancer := as.foldl act b

theorem acts_concat (b : Balancer) (as : List Act) (a : Act) :
    b.acts (as ++ [a]) = (b.acts as).act a := List.foldl_concat ..

/-- A query for the name is known. -/
def Remembers (b : Balancer) (fqdn : String) : Prop := (b.tracker.last? fqdn).isSome = true

/-- A query was noted while no record had the name, and none has had it since. -/
def AskedInVain (b : Balancer) (as : List Act) (fqdn : String) : Prop :=
  ∃ past name, past ++ [.query name] <+: as ∧ DomainName.normalize name = fqdn ∧
    ∀ later, past <+: later → later <+: as → ¬ (b.acts later).zones.Live fqdn

section

variable {b c : Balancer} {zone fqdn : String}

/-! ### What moves do to the tracker -/

theorem tracker_landFlights (now started : Instant) (l : ProbeLoop) (flights : List Flight)
    (b : Balancer) : (landFlights now started l flights b).1.tracker = b.tracker := by
  have landed (zone fqdn : String) (b : Balancer) (f : Flight) :
      (landFlight zone fqdn b f).tracker = b.tracker := by
    unfold landFlight
    cases f.detached with
    | some gone => rfl
    | none =>
      dsimp only
      split
      · rfl
      · split <;> rfl
  rw [(landFlights_eq now started l flights b).1, frame_foldl tracker (landed l.zone l.fqdn)]

theorem tracker_stepLoop (now : Instant) (b : Balancer) (l : ProbeLoop) :
    (stepLoop now b l).1.tracker = b.tracker := by
  have round (started : Instant) : (startRound now started l b).1.tracker = b.tracker := by
    unfold startRound
    split
    · rfl
    · rw [tracker_landFlights]
  unfold stepLoop
  split
  · split
    · exact round now
    · rfl
  · split
    · exact round _
    · rfl
  · rw [tracker_landFlights]

theorem tracker_poll (b : Balancer) (number : Nat) : (b.poll number).tracker = b.tracker := by
  rcases poll_cases b number with ⟨idle, _⟩ | ⟨l, _, _, ⟨_, ended⟩ | ⟨_, went⟩⟩
  · rw [idle]
  · rw [ended, endLoops]
  · rw [went]
    exact tracker_stepLoop b.now b l

theorem tracker_spawn (zone fqdn : String) (delay : Duration) (b : Balancer) :
    (b.spawn zone fqdn delay).tracker = b.tracker := by
  unfold spawn
  cases b.tasks.find? fqdn <;> rfl

theorem tracker_spawnAll (b : Balancer) (es : List (String × String × Duration)) :
    (b.spawnAll es).tracker = b.tracker :=
  frame_foldl tracker (fun _ _ => tracker_spawn ..) b es

theorem tracker_start (b : Balancer) : b.start.tracker = b.tracker := by
  rw [start_eq]
  split
  · rfl
  · exact tracker_spawnAll { b with running := true } b.roster

/-- A reload forgets the name of a record that leaves the zone, and no other. -/
theorem last?_tracker_reloadZone (placed : b.zones.Placed) (z : ZoneDefinition) (fqdn : String) :
    (b.reloadZone z).2.tracker.last? fqdn =
      if b.Leaves z z.zone fqdn then none else b.tracker.last? fqdn := by
  rw [← last?_tracker_merged placed, reloadZone_eq]
  split
  · exact congrArg (QueryTracker.last? · fqdn) (tracker_spawnAll (b.merged z) (b.additions z))
  · rfl

theorem tracker_pick (b : Balancer) (name : String) (family : Family) (client : Address)
    (chance : Chance) : (b.pick name family client chance).2.tracker = b.tracker := by
  unfold pick record
  cases b.findRecord name <;> rfl

/-- An answer notes a query for the record that it finds. -/
theorem tracker_answer (b : Balancer) (name : String) (family : Family) (client : Address)
    (chance : Chance) : (b.answer name family client chance).2.tracker =
      match b.findRecord name with
      | none => b.tracker
      | some r => (b.noteQuery r.fqdn).tracker := by
  unfold answer record
  cases b.findRecord name with
  | none => rfl
  | some r =>
    have picked := tracker_pick (b.noteQuery r.fqdn) r.fqdn family client chance
    dsimp only
    split
    · rename_i answered
      rw [answered] at picked
      exact picked
    · rename_i failed
      rw [failed] at picked
      exact picked

theorem last?_noteQuery (b : Balancer) (name fqdn : String) :
    (b.noteQuery name).tracker.last? fqdn =
      if DomainName.normalize name = fqdn then some b.now else b.tracker.last? fqdn :=
  NameMap.find?_insert b.tracker (DomainName.normalize name) fqdn b.now

/-- The name under which an answer notes its query is that of the record. -/
theorem live_of_findRecord (placed : b.zones.Placed) {name : String} {r : Record}
    (found : b.findRecord name = some r) :
    b.zones.Live (DomainName.normalize r.fqdn) := by
  obtain ⟨zone, present⟩ := Zones.exists_of_findRecord found
  have own := (placed zone _ r present).2
  rw [own, DomainName.normal_normalize name]
  exact ⟨zone, Option.isSome_iff_exists.mpr ⟨r, present⟩⟩

/-! ### One act -/

theorem live_of_sameControl (same : b.SameControl c) :
    c.zones.Live fqdn ↔ b.zones.Live fqdn :=
  exists_congr fun zone => by rw [same.isSome_record? zone fqdn]

/-- A move that is not a reload leaves it alone who is live, and what is known of the names that
nobody has. -/
theorem unlive_move (coherent : b.Coherent) (fqdn : String) {m : Move}
    (other : ∀ z, m ≠ .reload z) :
    ((b.move m).zones.Live fqdn ↔ b.zones.Live fqdn) ∧
      (¬ b.zones.Live fqdn → (b.move m).tracker.last? fqdn = b.tracker.last? fqdn) := by
  have placed := coherent.placed
  cases m with
  | tick now date => exact ⟨Iff.rfl, fun _ => rfl⟩
  | poll number =>
    exact ⟨live_of_sameControl (c := { b.poll number with loops := b.loops })
      (sameControl_poll placed number),
      fun _ => congrArg (QueryTracker.last? · fqdn) (tracker_poll b number)⟩
  | attempts => exact ⟨Iff.rfl, fun _ => rfl⟩
  | surroundings network order => exact ⟨Iff.rfl, fun _ => rfl⟩
  | start =>
    exact ⟨by rw [move, zones_start], fun _ =>
      congrArg (QueryTracker.last? · fqdn) (tracker_start b)⟩
  | shutdown =>
    refine ⟨exists_congr fun zone => ?_, fun _ => rfl⟩
    rw [move, shutdown, Zones.record?_mapRecords, Option.isSome_map]
    rfl
  | reload z => exact absurd rfl (other z)
  | pick name family client chance =>
    exact ⟨live_of_sameControl (sameControl_pick placed name family client chance),
      fun _ => congrArg (QueryTracker.last? · fqdn) (tracker_pick b name family client chance)⟩
  | answer name family client chance =>
    refine ⟨live_of_sameControl (sameControl_answer placed name family client chance),
      fun unlive => ?_⟩
    rw [move, tracker_answer]
    cases found : b.findRecord name with
    | none => rfl
    | some r =>
      have different : DomainName.normalize r.fqdn ≠ fqdn := fun equal =>
        unlive (equal ▸ live_of_findRecord placed found)
      simp only [last?_noteQuery, if_neg different]

/-- A name that nobody has is known after a move just when it was known before and nobody had it
then. -/
theorem remembers_move (coherent : b.Coherent) (m : Move)
    (unlive : ¬ (b.move m).zones.Live fqdn) :
    (b.move m).Remembers fqdn ↔ b.Remembers fqdn ∧ ¬ b.zones.Live fqdn := by
  by_cases reload : ∃ z, m = .reload z
  · obtain ⟨z, rfl⟩ := reload
    have forgets := last?_tracker_reloadZone coherent.placed z fqdn
    have gone {zone : String} (live : (b.zones.record? zone fqdn).isSome = true) :
        b.Leaves z zone fqdn := by
      refine ⟨live, ?_⟩
      rw [← zones_move_reload]
      by_contra there
      exact unlive ⟨zone, Option.isSome_iff_ne_none.mpr there⟩
    rw [Remembers, move, forgets, Remembers]
    constructor
    · intro known
      by_cases leaves : b.Leaves z z.zone fqdn
      · simp [leaves] at known
      · rw [if_neg leaves] at known
        refine ⟨known, ?_⟩
        rintro ⟨zone, live⟩
        have left := gone live
        exact leaves (zone_of_leaves left ▸ left)
    · rintro ⟨known, before⟩
      rw [if_neg fun leaves => before ⟨z.zone, leaves.1⟩]
      exact known
  · obtain ⟨live, same⟩ := unlive_move coherent fqdn fun z equal => reload ⟨z, equal⟩
    have before : ¬ b.zones.Live fqdn := fun there => unlive (live.mpr there)
    rw [Remembers, same before, Remembers]
    exact (and_iff_left before).symm

theorem coherent_act (coherent : b.Coherent) (a : Act) : (b.act a).Coherent := by
  cases a with
  | query name =>
    exact coherent_of_sameControl coherent ⟨rfl, rfl, rfl, rfl, rfl, fun _ _ => rfl⟩
  | move m => exact coherent_move coherent m

theorem coherent_acts (coherent : b.Coherent) (as : List Act) : (b.acts as).Coherent := by
  induction as generalizing b with
  | nil => exact coherent
  | cons a as ih => exact ih (coherent_act coherent a)

/-! ### Whole runs -/

/-- A run that goes on leaves a query in vain that was so, while nobody has the name; and the
query that is noted last may be one. -/
theorem askedInVain_concat (as : List Act) (a : Act)
    (unlive : ¬ (b.acts (as ++ [a])).zones.Live fqdn) :
    b.AskedInVain (as ++ [a]) fqdn ↔ b.AskedInVain as fqdn ∨
      (∃ name, a = .query name ∧ DomainName.normalize name = fqdn) ∧
        ¬ (b.acts as).zones.Live fqdn := by
  constructor
  · rintro ⟨past, name, asked, own, never⟩
    rcases List.prefix_concat_iff.mp asked with whole | earlier
    · obtain ⟨rfl, last⟩ := List.append_inj' whole rfl
      exact Or.inr ⟨⟨name, (List.singleton_inj.mp last).symm, own⟩,
        never past (List.prefix_refl past) (List.prefix_append past [a])⟩
    · exact Or.inl ⟨past, name, earlier, own, fun later after before =>
        never later after (before.trans (List.prefix_append as [a]))⟩
  · rintro (⟨past, name, asked, own, never⟩ | ⟨⟨name, rfl, own⟩, absent⟩)
    · refine ⟨past, name, asked.trans (List.prefix_append as [a]), own, ?_⟩
      intro later after before
      rcases List.prefix_concat_iff.mp before with rfl | earlier
      · exact unlive
      · exact never later after earlier
    · refine ⟨as, name, List.prefix_refl _, own, fun later after before => ?_⟩
      rcases List.prefix_concat_iff.mp before with rfl | earlier
      · exact unlive
      · rw [earlier.eq_of_length_le after.length_le]
        exact absent

/-- Of the names that nobody has, those are known that were asked for in vain. -/
theorem remembers_acts (coherent : b.Coherent) (fresh : b.tracker = ∅) (as : List Act) :
    (b.acts as).Remembers fqdn ∧ ¬ (b.acts as).zones.Live fqdn ↔ b.AskedInVain as fqdn := by
  induction as using List.reverseRecOn with
  | nil =>
    constructor
    · rintro ⟨known, _⟩
      rw [acts, List.foldl_nil, Remembers, fresh] at known
      cases known
    · rintro ⟨past, name, asked, _⟩
      simp at asked
  | append_singleton as a ih =>
    by_cases live : (b.acts (as ++ [a])).zones.Live fqdn
    · refine iff_of_false (fun known => known.2 live) ?_
      rintro ⟨past, name, asked, _, never⟩
      exact never _ ((List.prefix_append past _).trans asked) (List.prefix_refl _) live
    · rw [and_iff_left live, askedInVain_concat as a live, ← ih]
      rw [acts_concat] at live ⊢
      cases a with
      | query name =>
        have same : ¬ (b.acts as).zones.Live fqdn := live
        rw [Remembers, act, last?_noteQuery, Remembers]
        by_cases own : DomainName.normalize name = fqdn
        · simp [own, same]
        · simp [own, same]
      | move m =>
        rw [act, remembers_move (coherent_acts coherent as) m live]
        simp

end

/-- A balancer is started, reloaded, asked and polled in any order, and queries are noted by
themselves. All names that queries are known for are names of records at all times, if each query
that is noted by itself is for a record that is there, and only then. A name without a record is
known just when it was asked for in vain. A record that is added takes over what is known of its
name: nothing, if no record had the name before and it was not asked for in vain. -/
theorem remembers_live_iff (zs : List ZoneDefinition) (profiles : Profiles)
    (locations : LocationTable) (geo : GeoSources) (pacing : Pacing) (as : List Act) :
    let start := built zs profiles locations geo pacing
    ((∀ past, past <+: as → ∀ fqdn, (start.acts past).Remembers fqdn →
        (start.acts past).zones.Live fqdn) ↔
      ∀ past name, past ++ [.query name] <+: as →
        (start.acts past).zones.Live (DomainName.normalize name)) ∧
    (∀ fqdn, (start.acts as).Remembers fqdn ∧ ¬ (start.acts as).zones.Live fqdn ↔
      start.AskedInVain as fqdn) ∧
    ∀ z fqdn, fqdn ∈ ((start.acts as).reloadZone z).1.added →
      ((start.acts as).reloadZone z).2.tracker.last? fqdn = (start.acts as).tracker.last? fqdn ∧
      (¬ (start.acts as).zones.Live fqdn →
        (((start.acts as).reloadZone z).2.Remembers fqdn ↔ start.AskedInVain as fqdn)) := by
  intro start
  have coherent := coherent_built zs profiles locations geo pacing
  have known (as : List Act) (fqdn : String) :
      (start.acts as).Remembers fqdn ∧ ¬ (start.acts as).zones.Live fqdn ↔
        start.AskedInVain as fqdn := remembers_acts coherent rfl as
  refine ⟨⟨?_, ?_⟩, known as, ?_⟩
  · intro always past name asked
    have noted := always _ asked (DomainName.normalize name)
    rw [acts_concat] at noted
    exact noted (by rw [act, Remembers, last?_noteQuery, if_pos rfl]; rfl)
  · intro present past before fqdn remembers
    by_contra unlive
    obtain ⟨earlier, name, asked, rfl, never⟩ := (known past fqdn).mp ⟨remembers, unlive⟩
    have first : earlier <+: past := (List.prefix_append earlier _).trans asked
    exact never earlier (List.prefix_refl earlier) first (present earlier name (asked.trans before))
  · intro z fqdn added
    have reached := coherent_acts coherent as
    have fresh : (start.acts as).zones.record? z.zone fqdn = none := by
      rw [summary_reloadZone] at added
      exact (Zones.mem_added_iff.mp (Zones.mem_sortNames.mp added)).1
    have same : ((start.acts as).reloadZone z).2.tracker.last? fqdn =
        (start.acts as).tracker.last? fqdn := by
      rw [last?_tracker_reloadZone reached.placed, if_neg]
      intro leaves
      have present := leaves.1
      rw [fresh] at present
      cases present
    refine ⟨same, fun unlive => ?_⟩
    rw [Remembers, same, ← known as fqdn]
    exact (and_iff_left unlive).symm

/-- A zone whose one record is added after it was asked for. -/
def lateZone : ZoneDefinition where
  zone := "example.org."
  records := [{ fqdn := "a.example.org.", backends := [{ address := .v4 0x0a000001#32 }] }]

theorem remembers_live_iff_late :
    let asked := (built [] [] {} {} {}).acts [.move .start, .query "A.example.org"]
    "a.example.org." ∈ (asked.reloadZone lateZone).1.added ∧
      ¬ asked.zones.Live "a.example.org." ∧
      (asked.reloadZone lateZone).2.Remembers "a.example.org." := by
  intro asked
  have added : "a.example.org." ∈ (asked.reloadZone lateZone).1.added := by decide +kernel
  have unlive : ¬ asked.zones.Live "a.example.org." := by
    rintro ⟨zone, live⟩
    cases live
  have known : asked.Remembers "a.example.org." := by
    unfold Remembers
    decide +kernel
  obtain ⟨_, vain, adds⟩ := remembers_live_iff [] [] {} {} {}
    [.move .start, .query "A.example.org"]
  have late := (vain "a.example.org.").mp ⟨known, unlive⟩
  exact ⟨added, unlive, ((adds lateZone _ added).2 unlive).mpr late⟩

/-- A query that is noted by itself is known though no record has the name. -/
theorem remembers_unlive : ¬ ∀ (zs : List ZoneDefinition) (profiles : Profiles)
    (locations : LocationTable) (geo : GeoSources) (pacing : Pacing) (as : List Act) fqdn,
    ((built zs profiles locations geo pacing).acts as).Remembers fqdn →
      ((built zs profiles locations geo pacing).acts as).zones.Live fqdn := by
  intro live
  have known : ((built [] [] {} {} {}).acts [.query "a.example.org."]).Remembers
      "a.example.org." := by
    unfold Remembers
    decide +kernel
  obtain ⟨zone, present⟩ := live [] [] {} {} {} [.query "a.example.org."] _ known
  cases present

end Balancer

end DnsBalancer
