import DnsBalancer.Proofs.Balancer.Loops

/-!
# What probing keeps

A loop that goes on does four things in some order: it begins a cycle on each backend of its
record, lets attempts go on, and ends cycles. A property of balancers and one of cycles in flight
that these keep together are kept by every poll. Other moves begin and end no cycle; a reload takes
the backends that go off their records and leaves them to the cycles in flight.
-/
namespace DnsBalancer.Balancer

/-- The two properties survive each thing that a loop does. -/
structure Upkeep (P : Balancer → Prop) (Q : Flight → Prop) : Prop where
  tallied : ∀ {b : Balancer} (t : Tally), P b → P { b with tally := t }
  begun : ∀ {b : Balancer} {zone fqdn : String} {r : Record}, P b →
    b.zones.record? zone fqdn = some r →
    P { b with zones := b.zones.put { r with backends := r.backends.map (·.beginCycle.2) } } ∧
      ∀ x ∈ r.backends, ∀ net retries cutoff now t,
        Q (Flight.start net x retries cutoff now t).2.2
  resumed : ∀ {f : Flight} (net : Network) (now : Instant) (t : Tally), Q f →
    Q (f.resume net now t).2
  landed : ∀ {b : Balancer} {f : Flight} (zone fqdn : String), P b → Q f →
    P (landFlight zone fqdn b f)

/-- Each backend begins a cycle, and each flight is one that began so. -/
theorem startFlights_each (net : Network) (now : Instant) (retries : Nat) (cutoff : Duration)
    (t : Tally) (xs : List Backend) :
    (startFlights net now retries cutoff t xs).1 = xs.map (·.beginCycle.2) ∧
      ∀ f ∈ (startFlights net now retries cutoff t xs).2.2,
        ∃ x ∈ xs, ∃ t, f = (Flight.start net x retries cutoff now t).2.2 := by
  induction xs generalizing t with
  | nil => simp [startFlights]
  | cons x xs ih =>
    obtain ⟨backends, flights⟩ := ih (Flight.start net x retries cutoff now t).2.1
    refine ⟨congrArg (x.beginCycle.2 :: ·) backends, fun f member => ?_⟩
    rcases List.mem_cons.mp member with rfl | later
    · exact ⟨x, List.mem_cons_self, t, rfl⟩
    · obtain ⟨y, held, start⟩ := flights f later
      exact ⟨y, List.mem_cons_of_mem x held, start⟩

theorem resumeFlights_each (net : Network) (now : Instant) (t : Tally) (fs : List Flight) :
    ∀ f ∈ (resumeFlights net now t fs).2, ∃ g ∈ fs, ∃ t, f = (g.resume net now t).2 := by
  induction fs generalizing t with
  | nil => simp [resumeFlights]
  | cons g gs ih =>
    intro f member
    rcases List.mem_cons.mp member with rfl | later
    · exact ⟨g, List.mem_cons_self, t, rfl⟩
    · obtain ⟨h, inside, resumed⟩ := ih _ f later
      exact ⟨h, List.mem_cons_of_mem g inside, resumed⟩

namespace Upkeep

variable {P : Balancer → Prop} {Q : Flight → Prop} {b : Balancer}

theorem landFlights (upkeep : Upkeep P Q) (now started : Instant) (l : ProbeLoop)
    (flights : List Flight) (holds : P b) (each : ∀ f ∈ flights, Q f) :
    P (Balancer.landFlights now started l flights b).1 ∧
      ∀ f ∈ (Balancer.landFlights now started l flights b).2.flights, Q f := by
  obtain ⟨landed, phase, left, eq⟩ := landFlights_eq now started l flights b
  rw [landed, eq]
  constructor
  · apply List.foldlRecOn (motive := P)
    · exact holds
    · intro c kept f member
      exact upkeep.landed l.zone l.fqdn kept (each f (List.mem_of_mem_filter member))
  · intro f member
    rw [ProbeLoop.flights, left] at member
    exact each f (List.mem_of_mem_filter member)

theorem startRound (upkeep : Upkeep P Q) (now started : Instant) (l : ProbeLoop) (holds : P b)
    (each : ∀ f ∈ l.flights, Q f) : P (Balancer.startRound now started l b).1 ∧
      ∀ f ∈ (Balancer.startRound now started l b).2.flights, Q f := by
  unfold Balancer.startRound
  split
  · exact ⟨holds, each⟩
  · rename_i r found
    obtain ⟨round, fresh⟩ := upkeep.begun holds found
    have each := startFlights_each b.network now r.settings.scrapeRetries
      r.settings.scrapeTimeout b.tally r.backends
    generalize startFlights b.network now r.settings.scrapeRetries r.settings.scrapeTimeout
      b.tally r.backends = begun at each ⊢
    obtain ⟨backends, tally, flights⟩ := begun
    obtain ⟨rfl, began⟩ := each
    apply upkeep.landFlights
    · exact upkeep.tallied tally round
    · intro f member
      obtain ⟨x, held, t, rfl⟩ := began f member
      exact fresh x held _ _ _ _ t

theorem stepLoop (upkeep : Upkeep P Q) (now : Instant) (l : ProbeLoop) (holds : P b)
    (each : ∀ f ∈ l.flights, Q f) : P (Balancer.stepLoop now b l).1 ∧
      ∀ f ∈ (Balancer.stepLoop now b l).2.flights, Q f := by
  unfold Balancer.stepLoop
  cases phase : l.phase with
  | waiting wakes =>
    dsimp only
    split
    · exact upkeep.startRound now now l holds each
    · exact ⟨holds, each⟩
  | sleeping started wakes =>
    dsimp only
    split
    · exact upkeep.startRound now started l holds each
    · exact ⟨holds, each⟩
  | probing started flights =>
    have own : l.flights = flights := by rw [ProbeLoop.flights, phase]; rfl
    apply upkeep.landFlights
    · exact upkeep.tallied _ holds
    · intro f member
      obtain ⟨g, before, t, rfl⟩ := resumeFlights_each b.network now b.tally flights f member
      exact upkeep.resumed b.network now t (each g (own ▸ before))

end Upkeep

@[simp] theorem loops_landFlight (zone fqdn : String) (b : Balancer) (f : Flight) :
    (landFlight zone fqdn b f).loops = b.loops := by
  unfold landFlight
  split
  · rfl
  · dsimp only
    split
    · rfl
    · split <;> rfl

/-- A loop that goes on leaves the others as they are. -/
theorem loops_stepLoop (now : Instant) (b : Balancer) (l : ProbeLoop) :
    (stepLoop now b l).1.loops = b.loops := by
  have upkeep : Upkeep (·.loops = b.loops) fun _ => True := {
    tallied := fun _ same => same
    begun := fun same _ => ⟨same, fun _ _ _ _ _ _ _ => trivial⟩
    resumed := fun _ _ _ _ => trivial
    landed := fun zone fqdn same _ => (loops_landFlight zone fqdn _ _).trans same }
  exact (upkeep.stepLoop now l rfl fun _ _ => trivial).1

/-- Where loops and stray attempts are no matter to the first property, a poll keeps both. -/
theorem Upkeep.poll {P : Balancer → Prop} {Q : Flight → Prop} {b : Balancer}
    (upkeep : Upkeep P Q)
    (framed : ∀ {b : Balancer} (loops : List ProbeLoop) (strays : List Run), P b →
      P { b with loops, strays })
    (number : Nat) (holds : P b) (each : ∀ l ∈ b.loops, ∀ f ∈ l.flights, Q f) :
    P (b.poll number) ∧ ∀ l ∈ (b.poll number).loops, ∀ f ∈ l.flights, Q f := by
  rcases poll_cases b number with
    ⟨idle, _⟩ | ⟨l, member, _, ⟨_, ended⟩ | ⟨_, went⟩⟩
  · rw [idle]
    exact ⟨holds, each⟩
  · rw [ended]
    refine ⟨framed _ _ holds, fun k there => ?_⟩
    rw [loops_endLoops] at there
    exact each k (List.mem_of_mem_filter there)
  · obtain ⟨after, left⟩ := upkeep.stepLoop b.now l holds (each l member)
    rw [went]
    refine ⟨framed _ _ after, fun k there => ?_⟩
    obtain ⟨j, before, rfl⟩ := List.mem_map.mp there
    rw [loops_stepLoop] at before
    split
    · exact left
    · exact each j before

/-! ### Cycles in flight -/

/-- Every cycle in flight has the property. -/
def EachFlight (Q : Flight → Prop) (b : Balancer) : Prop := ∀ l ∈ b.loops, ∀ f ∈ l.flights, Q f

section

variable {Q : Flight → Prop} {b : Balancer}

theorem eachFlight_spawn (each : b.EachFlight Q) (zone fqdn : String) (delay : Duration) :
    (b.spawn zone fqdn delay).EachFlight Q := by
  intro l member f flying
  rw [loops_spawn] at member
  rcases List.mem_append.mp member with old | new
  · exact each l (List.mem_of_mem_filter old) f flying
  · rw [List.mem_singleton.mp new] at flying
    cases flying

theorem eachFlight_cancelLoops (each : b.EachFlight Q) (which : ProbeLoop → Bool) :
    (b.cancelLoops which).EachFlight Q := by
  intro l member
  obtain ⟨k, before, rfl⟩ := List.mem_map.mp member
  split <;> exact each k before

/-- A cycle whose backend is taken off keeps that backend. -/
theorem eachFlight_dropBackends (each : b.EachFlight Q) (zone : String) {d : Zones.Dropped}
    (detached : ∀ x ∈ d.backends, ∀ f, Q f → Q { f with detached := some x }) :
    (dropBackends zone b d).EachFlight Q := by
  intro l member
  obtain ⟨k, before, rfl⟩ := List.mem_map.mp member
  unfold detachFlights
  split
  · cases phase : k.phase with
    | waiting wakes => exact each k before
    | sleeping started wakes => exact each k before
    | probing started flights =>
      intro f flying
      obtain ⟨g, inside, rfl⟩ := List.mem_map.mp flying
      have own : Q g := each k before g (by rw [ProbeLoop.flights, phase]; exact inside)
      cases gone : g.detached with
      | some x => exact own
      | none =>
        cases found : d.backends.find? (·.address == g.address) with
        | none =>
          have same : { g with detached := none } = g := by rw [← gone]
          exact same ▸ own
        | some x => exact detached x (List.mem_of_find?_eq_some found) g own
  · exact each k before

/-- A merge takes backends off cycles in flight and cancels loops. -/
theorem eachFlight_merged (each : b.EachFlight Q) (z : ZoneDefinition)
    (detached : ∀ d ∈ (b.zones.reload (z.numberProbes b.nextProbe).2 b.stopped).dropped,
      ∀ x ∈ d.backends, ∀ f, Q f → Q { f with detached := some x }) :
    (b.merged z).EachFlight Q := by
  rw [merged]
  apply List.foldlRecOn (motive := EachFlight Q)
  · apply List.foldlRecOn (motive := EachFlight Q)
    · exact each
    · exact fun c kept d member => eachFlight_dropBackends kept z.zone (detached d member)
  · exact fun c kept r _ => eachFlight_cancelLoops kept _

end

end DnsBalancer.Balancer
