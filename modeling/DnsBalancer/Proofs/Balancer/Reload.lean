import DnsBalancer.Balancer.Control
import DnsBalancer.Proofs.Balancer.Numbering

/-!
# Reloading a zone of the balancer

Apart from the merge, a reload touches loops, metrics and what is known about queries. The
registry it leaves is that of the merge, whose duties are thereby those of the reload.
-/
namespace DnsBalancer.Balancer

/-- What no step touches the whole fold leaves alone. -/
theorem frame_foldl {α β : Type} {f : Balancer → α → Balancer} (g : Balancer → β)
    (frame : ∀ b a, g (f b a) = g b) (b : Balancer) (as : List α) :
    g (as.foldl f b) = g b := by
  induction as generalizing b with
  | nil => rfl
  | cons a as ih => rw [List.foldl_cons, ih, frame]

@[simp] theorem zones_spawn (zone fqdn : String) (delay : Duration) (b : Balancer) :
    (b.spawn zone fqdn delay).zones = b.zones := by
  unfold spawn
  cases b.tasks.find? fqdn <;> rfl

@[simp] theorem zones_dropBackends (zone : String) (b : Balancer) (d : Zones.Dropped) :
    (b.dropBackends zone d).zones = b.zones := rfl

@[simp] theorem zones_removeRecord (b : Balancer) (r : Record) :
    (b.removeRecord r).zones = b.zones := rfl

@[simp] theorem zones_countInventory (b : Balancer) : b.countInventory.zones = b.zones := rfl

theorem summary_reloadZone (b : Balancer) (z : ZoneDefinition) : (b.reloadZone z).1 =
    (b.zones.reload (z.numberProbes b.nextProbe).2 b.stopped).summary := rfl

/-- What neither loops nor metrics nor queries have to do with is settled by the merge. -/
theorem frame_reloadZone {β : Type} (g : Balancer → β)
    (spawned : ∀ zone fqdn b, g (spawn zone fqdn .zero b) = g b)
    (removed : ∀ b r, g (removeRecord b r) = g b)
    (dropped : ∀ zone b d, g (dropBackends zone b d) = g b)
    (counted : ∀ b, g (countInventory b) = g b) (b : Balancer) (z : ZoneDefinition) :
    g (b.reloadZone z).2 = g { b with
      zones := (b.zones.reload (z.numberProbes b.nextProbe).2 b.stopped).zones
      nextProbe := (z.numberProbes b.nextProbe).1 } := by
  have started (zone : String) (b : Balancer) (names : List String) :
      g (if b.running then names.foldl (fun b fqdn => b.spawn zone fqdn .zero) b else b) = g b := by
    split
    · exact frame_foldl g (fun b fqdn => spawned zone fqdn b) b names
    · rfl
  unfold reloadZone
  rw [counted, started, frame_foldl g removed, frame_foldl g (dropped _)]

theorem zones_reloadZone (b : Balancer) (z : ZoneDefinition) : (b.reloadZone z).2.zones =
    (b.zones.reload (z.numberProbes b.nextProbe).2 b.stopped).zones :=
  frame_reloadZone zones (fun zone fqdn b => zones_spawn zone fqdn .zero b) zones_removeRecord
    zones_dropBackends zones_countInventory b z

/-- After the reload of a definition in which no two records share a name and no record lists an
address twice, the zone and the summary are as the definition demands, whatever was live before.
Nor does a record that was configured list an address twice. -/
theorem reloadZone_reloads (b : Balancer) (z : ZoneDefinition)
    (distinct : (z.records.map (·.fqdn)).Nodup)
    (addresses : ∀ d ∈ z.records, (d.backends.map (·.address)).Nodup) :
    b.zones.Reloads z (b.reloadZone z).2.zones (b.reloadZone z).1 ∧
      ∀ d ∈ z.records, ∀ r, (b.reloadZone z).2.zones.record? z.zone d.fqdn = some r →
        (r.backends.map (·.address)).Nodup := by
  have same := z.unnumbered_numberProbes b.nextProbe
  have numbered : ((z.numberProbes b.nextProbe).2.records.map (·.fqdn)).Nodup := by
    rw [ZoneDefinition.names_of_unnumbered same]
    exact distinct
  have reloads : b.zones.Reloads z (b.reloadZone z).2.zones (b.reloadZone z).1 := by
    rw [zones_reloadZone, summary_reloadZone]
    exact Zones.reloads_of_unnumbered (Zones.reloads_reload numbered) rfl rfl same
  refine ⟨reloads, fun d member r found => ?_⟩
  obtain ⟨live, present, follows⟩ := reloads.configured d member
  obtain rfl := Option.some.inj (found.symm.trans present)
  rw [follows.addresses]
  exact addresses d member

/-- One record with one backend. -/
def servedZone : ZoneDefinition where
  zone := "example.org."
  records := [{ fqdn := "a.example.org.", backends := [{ address := .v4 0x0a000001#32 }] }]

/-- The record with another time to live and a second backend, and a refusal under the same
name, as a second spelling of the name in the file leads to. -/
def editedZone : ZoneDefinition where
  zone := "example.org."
  records := [{
    fqdn := "a.example.org."
    ttl := 60
    backends := [{ address := .v4 0x0a000002#32 }, { address := .v4 0x0a000001#32 }] }]
  rejected := [{ fqdn := "a.example.org.", error := .invalidMode "bogus" }]

theorem reloadZone_reloads_edited :
    (editedZone.records.map (·.fqdn)).Nodup ∧
      (∀ d ∈ editedZone.records, (d.backends.map (·.address)).Nodup) ∧
      (ofDefinitions [servedZone]).zones.Reloads editedZone
        ((ofDefinitions [servedZone]).reloadZone editedZone).2.zones
        ((ofDefinitions [servedZone]).reloadZone editedZone).1 :=
  ⟨by decide, by decide, (reloadZone_reloads _ _ (by decide) (by decide)).1⟩

/-- A live record is not kept as it is for being refused, when it is configured as well. -/
theorem reloadZone_overrides_rejected : ¬ ∀ (b : Balancer) (z : ZoneDefinition),
    (z.records.map (·.fqdn)).Nodup → (∀ d ∈ z.records, (d.backends.map (·.address)).Nodup) →
    ∀ fqdn r, b.zones.record? z.zone fqdn = some r → z.isRejected fqdn = true →
      (b.reloadZone z).2.zones.record? z.zone fqdn = some r := by
  intro unchanged
  have kept := unchanged (ofDefinitions [servedZone]) editedZone (by decide) (by decide)
    "a.example.org." _ rfl (by decide)
  have before : ((ofDefinitions [servedZone]).zones.record? editedZone.zone
      "a.example.org.").map (·.settings.ttl) = some 30 := by rfl
  have after : (((ofDefinitions [servedZone]).reloadZone editedZone).2.zones.record?
      editedZone.zone "a.example.org.").map (·.settings.ttl) = some 60 := by decide +kernel
  rw [kept] at after
  exact absurd after (by decide)

end DnsBalancer.Balancer
