import DnsBalancer.Proofs.Balancer.Loops
import DnsBalancer.Proofs.Balancer.Tokens
import DnsBalancer.Proofs.Zone.Accepted

/-!
# Names that are answered for

A record only ever gets into a registry by a definition of its zone. While definitions come from
files, every record therefore lies in its zone, and a name that finds a record is one that the
registry has authority over. Definitions put together by hand may name what they like.
-/
namespace DnsBalancer

/-- Every record lies in its zone. -/
def Zones.Inside (m : Zones) : Prop :=
  ∀ zone fqdn r, m.record? zone fqdn = some r → DomainName.inZone fqdn zone = true

def ZoneDefinition.Inside (z : ZoneDefinition) : Prop :=
  ∀ fqdn ∈ z.records.map (·.fqdn), DomainName.inZone fqdn z.zone = true

/-- The definition was loaded from the text of a file. -/
def ZoneDefinition.FromFile (z : ZoneDefinition) : Prop :=
  ∃ zone text shared, parse zone text shared = .ok z

theorem ZoneDefinition.inside_of_fromFile {z : ZoneDefinition} (loaded : z.FromFile) :
    z.Inside := by
  obtain ⟨zone, text, shared, loaded⟩ := loaded
  obtain ⟨f, _, _, sound⟩ := sound_parse loaded
  intro fqdn member
  obtain ⟨d, present, rfl⟩ := List.mem_map.mp member
  exact (sound.records d present).2.1

namespace Zones

theorem inside_ofDefinitions {zs : List ZoneDefinition} (inside : ∀ z ∈ zs, z.Inside) :
    (ofDefinitions zs).Inside :=
  forall_ofDefinitions fun z member _ present => inside z member _ (List.mem_map_of_mem present)

theorem isAuthoritative_of_findRecord {m : Zones} (inside : m.Inside) {order : ZoneOrder}
    {name : String} {r : Record} (found : m.findRecord order name = some r) :
    m.isAuthoritative name = true := by
  obtain ⟨zone, present⟩ := exists_of_findRecord found
  have held := mem_names_of_record? present
  exact List.any_eq_true.mpr ⟨zone, held, inside zone _ r present⟩

end Zones

namespace Balancer

variable {b : Balancer} {zone fqdn : String}

/-- A record that is live after a move was live before, or the move is a reload of its zone that
configures it. -/
theorem isSome_record?_move (coherent : b.Coherent) (m : Move)
    (live : ((b.move m).zones.record? zone fqdn).isSome = true) :
    (b.zones.record? zone fqdn).isSome = true ∨
      ∃ z, m = .reload z ∧ z.zone = zone ∧ fqdn ∈ z.records.map (·.fqdn) := by
  have kept {c : Balancer} (same : b.SameControl c)
      (live : (c.zones.record? zone fqdn).isSome = true) :
      (b.zones.record? zone fqdn).isSome = true := same.isSome_record? zone fqdn ▸ live
  cases m with
  | tick now date => exact Or.inl live
  | poll number => exact Or.inl (kept (sameControl_poll coherent.placed number) live)
  | attempts => exact Or.inl live
  | surroundings network order => exact Or.inl live
  | start =>
    rw [move, zones_start] at live
    exact Or.inl live
  | shutdown =>
    rw [move, shutdown, Zones.record?_mapRecords, Option.isSome_map] at live
    exact Or.inl live
  | reload z =>
    rw [move, zones_reloadZone] at live
    obtain ⟨r, found⟩ := Option.isSome_iff_exists.mp live
    by_cases own : zone = z.zone
    · subst own
      have names := ZoneDefinition.names_of_unnumbered (z.unnumbered_numberProbes b.nextProbe)
      -- Live before, or configured: new records are the latter, and a merge keeps either.
      have known : ∀ fqdn r, (b.zones.reload (z.numberProbes b.nextProbe).2
          b.stopped).zones.record? z.zone fqdn = some r →
          (b.zones.record? z.zone fqdn).isSome = true ∨ fqdn ∈ z.records.map (·.fqdn) :=
        Zones.forall_reload (fun fqdn r before => Or.inl (Option.isSome_iff_exists.mpr ⟨r, before⟩))
          (fun _ _ _ _ before => before)
          (fun d member => Or.inr (names ▸ List.mem_map_of_mem member))
      exact (known fqdn r found).imp_right fun written => ⟨z, rfl, rfl, written⟩
    · have untouched : (b.zones.reload (z.numberProbes b.nextProbe).2 b.stopped).zones.record?
          zone fqdn = b.zones.record? zone fqdn := Zones.record?_reload_other own
      exact Or.inl (untouched ▸ live)
  | pick name family client chance =>
    exact Or.inl (kept (sameControl_pick coherent.placed name family client chance) live)
  | answer name family client chance =>
    exact Or.inl (kept (sameControl_answer coherent.placed name family client chance) live)

theorem inside_move (coherent : b.Coherent) (inside : b.zones.Inside) {m : Move}
    (reloaded : ∀ z, m = .reload z → z.Inside) : (b.move m).zones.Inside := by
  intro zone fqdn r found
  rcases isSome_record?_move coherent m (Option.isSome_iff_exists.mpr ⟨r, found⟩) with
    before | ⟨z, own, rfl, written⟩
  · obtain ⟨old, there⟩ := Option.isSome_iff_exists.mp before
    exact inside zone fqdn old there
  · exact reloaded z own fqdn written

theorem inside_moves (coherent : b.Coherent) (inside : b.zones.Inside) {ms : List Move}
    (reloaded : ∀ z, .reload z ∈ ms → z.Inside) : (b.moves ms).zones.Inside := by
  induction ms generalizing b with
  | nil => exact inside
  | cons m ms ih =>
    have step := inside_move coherent inside (m := m) fun z own => reloaded z (by simp [own])
    exact ih (coherent_move coherent m) step fun z member =>
      reloaded z (List.mem_cons_of_mem m member)

theorem inside_built {zs : List ZoneDefinition} (inside : ∀ z ∈ zs, z.Inside)
    (profiles : Profiles) (locations : LocationTable) (geo : GeoSources) (pacing : Pacing) :
    (built zs profiles locations geo pacing).zones.Inside := by
  refine Zones.inside_ofDefinitions fun z member => ?_
  obtain ⟨w, there, zone, same⟩ := ZoneDefinition.exists_of_mem_numbered member
  intro fqdn written
  rw [zone]
  exact inside w there fqdn (ZoneDefinition.names_of_unnumbered same ▸ written)

/-- A file that loads is what the zone then says, every entry once and within its bounds; and
while all definitions are from files, no record is found for a name outside the zones. -/
theorem sound_of_files :
    (∀ (zone text : String) (shared : Profiles) (z : ZoneDefinition),
      ZoneDefinition.parse zone text shared = .ok z →
      ∃ f, ZoneFile.parse text = .ok f ∧ z.zone = DomainName.normalize zone ∧ z.Sound f shared) ∧
    ∀ (zs : List ZoneDefinition) (profiles : Profiles) (locations : LocationTable)
      (geo : GeoSources) (pacing : Pacing) (ms : List Move), (∀ z ∈ zs, z.FromFile) →
      (∀ z, .reload z ∈ ms → z.FromFile) → ∀ name r,
        ((built zs profiles locations geo pacing).moves ms).findRecord name = some r →
        ((built zs profiles locations geo pacing).moves ms).isAuthoritative name = true := by
  refine ⟨fun _ _ _ _ loaded => ZoneDefinition.sound_parse loaded, ?_⟩
  intro zs profiles locations geo pacing ms loaded reloaded name r found
  have built := inside_built (fun z member => ZoneDefinition.inside_of_fromFile (loaded z member))
    profiles locations geo pacing
  have inside := inside_moves (coherent_built zs profiles locations geo pacing) built
    fun z member => ZoneDefinition.inside_of_fromFile (reloaded z member)
  exact Zones.isAuthoritative_of_findRecord inside found

/-- Two records, of which the second has no backend. -/
def halfRefused : String :=
  "records:\n  a.example.org.:\n    backends:\n      - address: 10.0.0.1\n" ++
  "        weight: -3\n  b.example.org.: \x7b\x7d\n"

theorem sound_of_files_halfRefused :
    ∃ z, ZoneDefinition.parse "Example.org" halfRefused [] = .ok z ∧
      z.records.map (·.fqdn) = ["a.example.org."] ∧ z.rejected.map (·.fqdn) = ["b.example.org."] ∧
      (∀ d ∈ z.records, d.Valid) ∧
      ((built [z] [] {} {} {}).moves [.start, .reload z]).isAuthoritative "A.example.org" = true := by
  have read : (ZoneDefinition.parse "Example.org" halfRefused []).toOption.map (fun z =>
      (z.records.map (·.fqdn), z.rejected.map (·.fqdn),
        (((built [z] [] {} {} {}).moves [.start, .reload z]).findRecord
          "A.example.org").isSome)) =
      some (["a.example.org."], ["b.example.org."], true) := by decide +kernel
  cases loaded : ZoneDefinition.parse "Example.org" halfRefused [] with
  | error e =>
    rw [loaded] at read
    cases read
  | ok z =>
    rw [loaded] at read
    obtain ⟨records, rest⟩ := Prod.mk.inj (Option.some.inj read)
    obtain ⟨rejected, live⟩ := Prod.mk.inj rest
    obtain ⟨r, found⟩ := Option.isSome_iff_exists.mp live
    obtain ⟨f, _, _, sound⟩ := sound_of_files.1 _ _ _ z loaded
    have fromFile : z.FromFile := ⟨_, _, _, loaded⟩
    have authority := sound_of_files.2 [z] [] {} {} {} [.start, .reload z] (by simpa using fromFile)
      (by simpa using fromFile) "A.example.org" r found
    exact ⟨z, rfl, records, rejected, fun d member => (sound.records d member).2.2, authority⟩

end Balancer

end DnsBalancer
