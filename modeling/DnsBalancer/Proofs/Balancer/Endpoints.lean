import DnsBalancer.Proofs.Address
import DnsBalancer.Proofs.Balancer.Authority
import DnsBalancer.Proofs.Balancer.Unreported
import DnsBalancer.Proofs.Balancer.Upkeep

/-!
# Endpoints of records

A file may not write an address of a record twice, but it may write an IPv4 address in both its
forms. From there on nothing is ever doubled: the backends of a record have the addresses of a
definition that was accepted, what is answered is drawn from them, and on the wheel of weights an
endpoint has the shares of the backends that stand for it. So an endpoint comes twice just where it
comes in both its forms, and only if the file has it so.
-/
namespace DnsBalancer

open Address (Twofold canonical)

/-- The addresses are some of those offered, and an endpoint is among them as often as it has forms
there: twice in two forms, and otherwise once at most. -/
structure Address.Drawn (offered as : List Address) : Prop where
  within : as ⊆ offered
  counts : ∀ e, (as.map canonical).count e =
    if Twofold as e then 2 else if e ∈ as.map canonical then 1 else 0
  single : (∀ e, ¬ Twofold offered e) → (as.map canonical).Nodup

theorem Address.drawn_of_nodup {offered as : List Address} (distinct : as.Nodup)
    (within : as ⊆ offered) : Drawn offered as where
  within
  counts := count_canonical distinct
  single := fun simple =>
    (nodup_canonical_iff distinct).mpr fun e twofold => simple e (twofold.mono within)

/-- The addresses of the backends, as they are written. -/
def RecordDefinition.addresses (d : RecordDefinition) : List Address := d.backends.map (·.address)

namespace Record

variable {r : Record} {family : Family}

/-- The addresses of the backends, as they are written. -/
def addresses (r : Record) : List Address := r.backends.map (·.address)

@[simp] theorem addresses_setBackend (r : Record) (b : Backend) :
    (r.setBackend b).addresses = r.addresses := by
  have walk (bs : List Backend) :
      (setBackend.place b bs).map (·.address) = bs.map (·.address) := by
    induction bs with
    | nil => rfl
    | cons c cs ih =>
      rw [setBackend.place]
      split
      · rename_i met
        rw [List.map_cons, List.map_cons, beq_iff_eq.mp met]
      · rw [List.map_cons, List.map_cons, ih]
  exact walk r.backends

@[simp] theorem addresses_updateFrom (r : Record) (d : RecordDefinition) :
    (r.updateFrom d).2.addresses = d.addresses := by
  rw [addresses, backends_updateFrom, List.map_map]
  exact List.map_congr_left fun x _ => r.address_mergeBackend x

theorem addresses_ofDefinition (zone : String) (d : RecordDefinition) (cancelled : Bool) :
    (ofDefinition zone d cancelled).addresses = d.addresses := by
  rw [addresses, ofDefinition, List.map_map]
  rfl

/-- An endpoint has the shares of the eligible backends that stand for it, and unless they have it
in both forms that is the share of one. -/
theorem count_weighted (distinct : r.addresses.Nodup) (family : Family) (client : Address)
    (geo : GeoSources) (locations : LocationTable) :
    let q := r.request family client geo locations
    let draws (e : Address) := Nat.count
      (fun draw => (Weighted.select (fun _ => draw) q).map (·.map canonical) = .ok [e])
      (Weighted.total q.eligible)
    (∀ e, draws e = Weighted.total (q.eligible.filter (·.address.canonical == e))) ∧
      ∀ c ∈ q.eligible, ¬ Twofold ((r.eligible family).map (·.address)) c.address.canonical →
        draws c.address.canonical = c.weight := by
  intro q draws
  have shares (e : Address) : draws e =
      Weighted.total (q.eligible.filter (·.address.canonical == e)) :=
    Weighted.count_select (r.weight_request family client geo locations) e
  refine ⟨shares, fun c member simple => ?_⟩
  have once : (q.eligible.filter (·.address.canonical == c.address.canonical)).length ≤ 1 := by
    have counts := Address.count_canonical (r.nodup_eligible family distinct) c.address.canonical
    rw [if_neg simple, ← r.addresses_request family client geo locations, List.map_map] at counts
    rw [← List.countP_eq_length_filter]
    have same : q.eligible.countP (·.address.canonical == c.address.canonical) =
        (q.eligible.map (canonical ∘ (·.address))).count c.address.canonical := by
      rw [List.count, List.countP_map]
      rfl
    rw [same, counts]
    split <;> omega
  have own : c ∈ q.eligible.filter (·.address.canonical == c.address.canonical) :=
    List.mem_filter.mpr ⟨member, beq_self_eq_true _⟩
  have alone : q.eligible.filter (·.address.canonical == c.address.canonical) = [c] := by
    obtain ⟨x, single⟩ := List.length_eq_one_iff.mp
      (Nat.le_antisymm once (List.length_pos_of_mem own))
    rw [single] at own ⊢
    rw [List.mem_singleton.mp own]
  rw [shares, alone, Weighted.total_cons, Weighted.total_nil, Nat.add_zero]

end Record

/-! ### Addresses that a file has written -/

/-- The record has the backends that a file lists for some record, by address and in order. -/
def Record.Written (r : Record) : Prop :=
  ∃ z d, ZoneDefinition.FromFile z ∧ d ∈ z.records ∧ r.addresses = d.addresses

theorem ZoneDefinition.nodup_addresses {z : ZoneDefinition} (loaded : z.FromFile)
    {d : RecordDefinition} (member : d ∈ z.records) : d.addresses.Nodup := by
  obtain ⟨zone, text, shared, loaded⟩ := loaded
  exact (accepted_parse loaded d member).distinct

theorem Record.Written.nodup {r : Record} (written : r.Written) : r.addresses.Nodup := by
  obtain ⟨z, d, loaded, member, same⟩ := written
  exact same ▸ ZoneDefinition.nodup_addresses loaded member

def Zones.Written (m : Zones) : Prop :=
  ∀ zone fqdn r, m.record? zone fqdn = some r → r.Written

namespace Zones

variable {m : Zones}

theorem written_put (written : m.Written) {r : Record} (own : r.Written) : (m.put r).Written := by
  intro zone fqdn x found
  rw [record?_put] at found
  split at found
  · exact Option.some.inj found ▸ own
  · exact written zone fqdn x found

end Zones

namespace Balancer

variable {b : Balancer}

theorem upkeep_written : Upkeep (·.zones.Written) fun _ => True where
  tallied _ written := written
  begun := by
    intro b zone fqdn r written found
    refine ⟨Zones.written_put written ?_, fun _ _ _ _ _ _ _ => trivial⟩
    obtain ⟨z, d, loaded, member, same⟩ := written zone fqdn r found
    refine ⟨z, d, loaded, member, ?_⟩
    rw [← same, Record.addresses, List.map_map]
    rfl
  resumed _ _ _ _ := trivial
  landed := by
    intro b f zone fqdn written _
    unfold landFlight
    split
    · exact written
    · dsimp only
      split
      · exact written
      · rename_i r found
        split
        · exact written
        · refine Zones.written_put written ?_
          obtain ⟨z, d, loaded, member, same⟩ := written zone fqdn r found
          exact ⟨z, d, loaded, member, (r.addresses_setBackend _).trans same⟩

theorem written_selected (written : b.zones.Written) {name : String} {r : Record}
    (found : b.findRecord name = some r) (selector : Selector) :
    (b.zones.put { r with selector }).Written := by
  obtain ⟨zone, present⟩ := Zones.exists_of_findRecord found
  exact Zones.written_put written (written _ _ r present)

theorem written_pick (written : b.zones.Written) (name : String) (family : Family)
    (client : Address) (chance : Chance) :
    (b.pick name family client chance).2.zones.Written := by
  unfold pick record
  cases found : b.findRecord name with
  | none => exact written
  | some r => exact written_selected written found _

theorem written_answer (written : b.zones.Written) (name : String) (family : Family)
    (client : Address) (chance : Chance) :
    (b.answer name family client chance).2.zones.Written := by
  unfold answer
  cases b.record name with
  | error e => exact written
  | ok r =>
    have picked := written_pick (b := b.noteQuery r.fqdn) written r.fqdn family client chance
    dsimp only
    split
    · rename_i answered
      rw [answered] at picked
      exact picked
    · rename_i failed
      rw [failed] at picked
      exact picked

/-- The records of a definition under other numbers have the addresses of those that were
loaded. -/
theorem written_of_unnumbered {z w : ZoneDefinition} (loaded : w.FromFile)
    (same : z.records.map RecordDefinition.unnumbered =
      w.records.map RecordDefinition.unnumbered) {d : RecordDefinition} (member : d ∈ z.records)
    {r : Record} (own : r.addresses = d.addresses) : r.Written := by
  obtain ⟨e, present, equal⟩ := ZoneDefinition.exists_unnumbered same.symm member
  have addresses := congrArg RecordDefinition.addresses equal
  simp only [RecordDefinition.addresses, RecordDefinition.unnumbered, List.map_map,
    Function.comp_def, BackendDefinition.address_unnumbered] at addresses
  exact ⟨w, e, loaded, present, own.trans addresses.symm⟩

theorem written_move (written : b.zones.Written) {m : Move}
    (reloaded : ∀ z, m = .reload z → z.FromFile) : (b.move m).zones.Written := by
  cases m with
  | tick now date => exact written
  | poll number =>
    exact (upkeep_written.poll (fun _ _ written => written) number written
      fun _ _ _ _ => trivial).1
  | attempts => exact written
  | surroundings network order => exact written
  | start =>
    rw [move, zones_start]
    exact written
  | shutdown =>
    intro zone fqdn r found
    rw [move, shutdown, Zones.record?_mapRecords] at found
    obtain ⟨old, before, rfl⟩ := Option.map_eq_some_iff.mp found
    exact written zone fqdn old before
  | reload z =>
    intro zone fqdn r found
    rw [move, zones_reloadZone] at found
    by_cases own : zone = z.zone
    · subst own
      have each (d : RecordDefinition) (member : d ∈ (z.numberProbes b.nextProbe).2.records)
          {r : Record} (same : r.addresses = d.addresses) : r.Written :=
        written_of_unnumbered (reloaded z rfl) (z.unnumbered_numberProbes b.nextProbe) member same
      refine Zones.forall_reload (P := fun _ r => r.Written) ?_ ?_ ?_ fqdn r found
      · exact fun fqdn r before => written z.zone fqdn r before
      · exact fun _ r d member _ => each d member (r.addresses_updateFrom d)
      · exact fun d member => each d member (Record.addresses_ofDefinition z.zone d b.stopped)
    · have untouched : (b.zones.reload (z.numberProbes b.nextProbe).2 b.stopped).zones.record?
          zone fqdn = b.zones.record? zone fqdn := Zones.record?_reload_other own
      exact written zone fqdn r (untouched ▸ found)
  | pick name family client chance => exact written_pick written name family client chance
  | answer name family client chance => exact written_answer written name family client chance

theorem written_moves (written : b.zones.Written) {ms : List Move}
    (reloaded : ∀ z, .reload z ∈ ms → z.FromFile) : (b.moves ms).zones.Written := by
  induction ms generalizing b with
  | nil => exact written
  | cons m ms ih =>
    have step := written_move written (m := m) fun z own => reloaded z (by simp [own])
    exact ih step fun z member => reloaded z (List.mem_cons_of_mem m member)

theorem written_built {zs : List ZoneDefinition} (loaded : ∀ z ∈ zs, z.FromFile)
    (profiles : Profiles) (locations : LocationTable) (geo : GeoSources) (pacing : Pacing) :
    (built zs profiles locations geo pacing).zones.Written := by
  refine Zones.forall_ofDefinitions (P := fun _ _ r => r.Written) fun z member d inside => ?_
  obtain ⟨w, there, _, same⟩ := ZoneDefinition.exists_of_mem_numbered member
  exact written_of_unnumbered (loaded w there) same inside
    (Record.addresses_ofDefinition z.zone d false)

end Balancer

/-! ### What is answered -/

namespace Record

variable {r : Record} {family : Family}

theorem eligible_subset : (r.eligible family).map (·.address) ⊆ r.addresses :=
  List.map_subset _ (List.filter_subset_self _)

theorem listed_subset : r.listed family ⊆ r.addresses :=
  List.map_subset _ (List.filter_subset_self _)

theorem drawn_select (distinct : r.addresses.Nodup) {client : Address} {geo : GeoSources}
    {locations : LocationTable} {chance : Chance} {as : List Address}
    (chosen : (r.select family client geo locations chance).1 = .ok as) :
    as ⊆ (r.eligible family).map (·.address) ∧ Address.Drawn r.addresses as := by
  obtain ⟨once, within⟩ := r.sound_select family client geo locations chance distinct as chosen
  rw [addresses_request] at within
  exact ⟨within, Address.drawn_of_nodup once (List.Subset.trans within eligible_subset)⟩

theorem drawn_allAddresses (distinct : r.addresses.Nodup) {as : List Address}
    (given : r.allAddresses family = .ok as) :
    as = r.listed family ∧ Address.Drawn r.addresses as := by
  rw [allAddresses_eq_listed] at given
  split at given
  · cases given
  · obtain rfl := Except.ok.inj given
    exact ⟨rfl, Address.drawn_of_nodup (distinct.sublist (List.filter_sublist.map _)) listed_subset⟩

/-- A healthy answer is drawn from the eligible backends, any other one is all that are enabled. -/
theorem drawn_answer (distinct : r.addresses.Nodup) {client : Address} {geo : GeoSources}
    {locations : LocationTable} {chance : Chance} {a : Answer}
    (answered : r.answer family (r.select family client geo locations chance).1 = .ok a) :
    (a.healthy = true → a.addresses ⊆ (r.eligible family).map (·.address)) ∧
      (a.healthy = false → a.addresses = r.listed family) ∧
      Address.Drawn r.addresses a.addresses := by
  cases chosen : (r.select family client geo locations chance).1 with
  | ok as =>
    rw [chosen, answer] at answered
    obtain rfl := Except.ok.inj answered
    obtain ⟨within, drawn⟩ := drawn_select distinct chosen
    exact ⟨fun _ => within, by simp, drawn⟩
  | error e =>
    rw [chosen, answer] at answered
    cases given : r.allAddresses family with
    | error e =>
      rw [given] at answered
      cases answered
    | ok as =>
      rw [given] at answered
      obtain rfl := Except.ok.inj answered
      obtain ⟨all, drawn⟩ := drawn_allAddresses distinct given
      exact ⟨by simp, fun _ => all, drawn⟩

end Record

namespace Balancer

/-- A record that a file lists has no address twice as it is written, and so every endpoint as often
as it is there in different forms. In every run on such files, the backends of a live record are
those of a record in some file; what is answered healthy is drawn from the eligible ones, what is
answered otherwise is all that are enabled; and on the wheel an endpoint has the shares of the
eligible backends that stand for it. So an endpoint is answered twice, or has more than one share,
only where the file has it in two forms. -/
theorem endpoints_drawn (zs : List ZoneDefinition) (profiles : Profiles)
    (locations : LocationTable) (geo : GeoSources) (pacing : Pacing) (ms : List Move)
    (loaded : ∀ z ∈ zs, z.FromFile) (reloaded : ∀ z, .reload z ∈ ms → z.FromFile) :
    (∀ (zone text : String) (shared : Profiles) (z : ZoneDefinition),
      ZoneDefinition.parse zone text shared = .ok z →
      ∀ d ∈ z.records, d.addresses.Nodup ∧ Address.Drawn d.addresses d.addresses) ∧
    let b := (built zs profiles locations geo pacing).moves ms
    ∀ name r, b.findRecord name = some r →
      (∃ z d, ZoneDefinition.FromFile z ∧ d ∈ z.records ∧ r.addresses = d.addresses) ∧
      ∀ (family : Family) (client : Address),
        (∀ chance as, (b.pick name family client chance).1 = .ok as →
          as ⊆ (r.eligible family).map (·.address) ∧ Address.Drawn r.addresses as) ∧
        (∀ as, b.pickAll name family = .ok as →
          as = r.listed family ∧ Address.Drawn r.addresses as) ∧
        (∀ chance a, (b.answer name family client chance).1 = .ok a →
          (a.healthy = true → a.addresses ⊆ (r.eligible family).map (·.address)) ∧
          (a.healthy = false → a.addresses = r.listed family) ∧
          Address.Drawn r.addresses a.addresses) ∧
        let q := r.request family client b.geo b.locations
        let draws (e : Address) := Nat.count
          (fun draw => (Weighted.select (fun _ => draw) q).map (·.map canonical) = .ok [e])
          (Weighted.total q.eligible)
        (∀ e, draws e = Weighted.total (q.eligible.filter (·.address.canonical == e))) ∧
          ∀ c ∈ q.eligible, ¬ Twofold ((r.eligible family).map (·.address)) c.address.canonical →
            draws c.address.canonical = c.weight := by
  constructor
  · intro zone text shared z loaded d member
    have distinct := ZoneDefinition.nodup_addresses ⟨zone, text, shared, loaded⟩ member
    exact ⟨distinct, Address.drawn_of_nodup distinct fun _ inside => inside⟩
  intro b name r found
  have written : b.zones.Written :=
    written_moves (written_built loaded profiles locations geo pacing) reloaded
  have placed : b.zones.Placed :=
    (coherent_moves (coherent_built zs profiles locations geo pacing) ms).placed
  obtain ⟨zone, present⟩ := Zones.exists_of_findRecord found
  have own := written zone _ r present
  have recorded : b.record name = .ok r := by rw [record, found]
  refine ⟨own, fun family client => ⟨?_, ?_, ?_, ?_⟩⟩
  · intro chance as chosen
    rw [pick, recorded] at chosen
    exact Record.drawn_select own.nodup chosen
  · intro as given
    rw [pickAll, recorded] at given
    exact Record.drawn_allAddresses own.nodup given
  · intro chance a answered
    rw [(answer_found found (placed zone _ r present).2 family client chance).1] at answered
    exact Record.drawn_answer own.nodup answered
  · exact Record.count_weighted own.nodup family client b.geo b.locations

/-- A record with an IPv4 address and with the embedding of another one. -/
def apartForms : String :=
  "records:\n  a.example.org.:\n    mode: random\n    backends:\n" ++
  "      - address: 10.0.0.1\n      - address: ::ffff:10.0.0.2\n"

/-- A record with an IPv4 address and with the embedding of the same one. -/
def bothForms : String :=
  "records:\n  a.example.org.:\n    mode: random\n    backends:\n" ++
  "      - address: 10.0.0.1\n      - address: ::ffff:10.0.0.1\n"

/-- The record that is live once its backends were probed, and what is answered from it. -/
def servedFrom (z : ZoneDefinition) :
    Option (List Address) × Except SelectionError Answer :=
  let b := (built [z] [] {} {} {}).moves [.start, .poll 0]
  ((b.findRecord "a.example.org").map (·.addresses),
    (b.answer "a.example.org" .ipv4 (.v4 0#32) default).1)

theorem endpoints_drawn_apart : ∃ z, ZoneDefinition.parse "example.org" apartForms [] = .ok z ∧
    ∃ r a, servedFrom z = (some r, .ok a) ∧ a.addresses.length = 2 ∧
      Address.Drawn r a.addresses ∧ (a.addresses.map canonical).Nodup := by
  have read : (ZoneDefinition.parse "example.org" apartForms []).toOption.map servedFrom =
      some (some [.v4 0x0a000001#32, .v6 0xffff0a000002#128],
        .ok ⟨[.v4 0x0a000001#32, .v6 0xffff0a000002#128], 30, true⟩) := by decide +kernel
  obtain ⟨z, loaded, served⟩ := exists_of_toOption_map read
  obtain ⟨live, answered⟩ := Prod.mk.inj served
  obtain ⟨r, found, addresses⟩ := Option.map_eq_some_iff.mp live
  have fromFile : z.FromFile := ⟨_, _, _, loaded⟩
  obtain ⟨_, _, answers, _⟩ := (endpoints_drawn [z] [] {} {} {} [.start, .poll 0]
    (by simpa using fromFile) (by simp)).2 "a.example.org" r found |>.2 .ipv4 (.v4 0#32)
  obtain ⟨_, _, drawn⟩ := answers default _ answered
  rw [addresses] at drawn
  refine ⟨z, loaded, _, _, served, rfl, drawn, drawn.single ?_⟩
  exact (Address.nodup_canonical_iff (by decide)).mp (by decide)

/-- The file is accepted with both forms, and both are answered. -/
theorem endpoints_doubled :
    (ZoneDefinition.parse "example.org" bothForms []).toOption.map (fun z =>
      (z.records.map (·.addresses), z.rejected.length, servedFrom z)) =
      some ([[.v4 0x0a000001#32, .v6 0xffff0a000001#128]], 0,
        some [.v4 0x0a000001#32, .v6 0xffff0a000001#128],
        .ok ⟨[.v4 0x0a000001#32, .v6 0xffff0a000001#128], 30, true⟩) ∧
    canonical (.v6 0xffff0a000001#128) = canonical (.v4 0x0a000001#32) := by
  decide +kernel

end Balancer

end DnsBalancer
