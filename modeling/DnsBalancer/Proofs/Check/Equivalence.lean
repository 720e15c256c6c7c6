import DnsBalancer.Proofs.Check.Params
import DnsBalancer.Proofs.Registry.Definitions
import DnsBalancer.Proofs.Traversal
import DnsBalancer.Proofs.Yaml.Readings
import DnsBalancer.Zone.Load

/-!
# Checks that are told apart

Lists of probes are equivalent just when the checks that they were made of agree one by one: in
kind, in parameters with the defaults filled in, and in how long they wait. A reload keeps the
probes of a backend in that case only. Neither the order of keys makes a difference nor whether a
check is written in place or under the name of a profile.
-/
namespace DnsBalancer

open Yaml (Value Node Document Read)

/-- Parameters as the kind of a check understands them. -/
inductive CheckParams where
  | http (params : HttpParams)
  | tcp (params : TcpParams)

namespace CheckParams

def kind : CheckParams → String
  | .http _ => "http"
  | .tcp _ => "tcp"

/-- The timeout that is asked for, or that of the backend. -/
def timeout (backend : Duration) : CheckParams → Duration
  | .http p => p.timeout.getD backend
  | .tcp p => p.timeout.getD backend

def ready (backend : Duration) : CheckParams → Check
  | .http p => .http p (p.timeout.getD backend)
  | .tcp p => .tcp p (p.timeout.getD backend)

theorem ready_inj {s t : Duration} {p q : CheckParams} :
    p.ready s = q.ready t ↔ p = q ∧ p.timeout s = q.timeout t := by
  cases p <;> cases q <;> simp [ready, timeout]

end CheckParams

namespace CheckSpec

/-- The kind in small letters and without the blanks around it. -/
def kindWord (c : CheckSpec) : String := Text.asciiLower (Text.trim c.kind)

def decoded? (c : CheckSpec) : Option CheckParams :=
  if c.kindWord = "http" then (HttpParams.ofValue? c.params).map .http
  else if c.kindWord = "tcp" then (TcpParams.ofValue? c.params).map .tcp
  else none

/-- Two checks, each with the timeout of its backend, that ask for the same. -/
structure Alike (s t : Duration) (a b : CheckSpec) : Prop where
  kind : a.kindWord = b.kindWord
  params : a.decoded? = b.decoded?
  timeout : a.decoded?.map (·.timeout s) = b.decoded?.map (·.timeout t)

theorem kindWord_of_decoded? {c : CheckSpec} {p : CheckParams} (decoded : c.decoded? = some p) :
    c.kindWord = p.kind := by
  unfold decoded? at decoded
  split at decoded
  · rename_i http
    obtain ⟨_, _, rfl⟩ := Option.map_eq_some_iff.mp decoded
    exact http
  split at decoded
  · rename_i tcp
    obtain ⟨_, _, rfl⟩ := Option.map_eq_some_iff.mp decoded
    exact tcp
  · cases decoded

/-- A check is made ready from its parameters if nothing is wrong with them. -/
theorem exists_of_ofSpec {c : CheckSpec} {timeout : Duration} {check : Check}
    (built : Check.ofSpec c timeout = .ok check) :
    ∃ p, c.decoded? = some p ∧ check = p.ready timeout := by
  unfold Check.ofSpec at built
  rw [decoded?, kindWord]
  simp only [beq_iff_eq] at built
  split at built
  · rename_i http
    rw [if_pos http]
    split at built
    · cases built
    · rename_i p read
      split at built
      · cases built
      · rw [read]
        exact ⟨.http p, rfl, (Except.ok.inj built).symm⟩
  split at built
  · rename_i other tcp
    rw [if_neg other, if_pos tcp]
    split at built
    · cases built
    · rename_i p read
      split at built
      · cases built
      · rw [read]
        exact ⟨.tcp p, rfl, (Except.ok.inj built).symm⟩
  · cases built

theorem ofSpec_eq_iff {a b : CheckSpec} {s t : Duration} {x y : Check}
    (built : Check.ofSpec a s = .ok x) (rebuilt : Check.ofSpec b t = .ok y) :
    x = y ↔ Alike s t a b := by
  obtain ⟨p, first, rfl⟩ := exists_of_ofSpec built
  obtain ⟨q, second, rfl⟩ := exists_of_ofSpec rebuilt
  rw [CheckParams.ready_inj]
  constructor
  · rintro ⟨rfl, timeout⟩
    refine ⟨?_, first.trans second.symm, ?_⟩
    · rw [kindWord_of_decoded? first, kindWord_of_decoded? second]
    · rw [first, second, Option.map_some, Option.map_some, timeout]
  · intro alike
    have params := alike.params
    have timeout := alike.timeout
    rw [first, second] at params timeout
    exact ⟨Option.some.inj params, Option.some.inj timeout⟩

/-! ### The order of keys -/

/-- Two checks that differ in the order of their parameters, or of headers whose names are told
apart. -/
inductive Reordered : CheckSpec → CheckSpec → Prop
  | params (kind : String) {es fs : List (Value × Value)} (perm : es.Perm fs) :
      Reordered ⟨kind, .mapping es⟩ ⟨kind, .mapping fs⟩
  | headers (kind : String) (before after : List (Value × Value)) {hs gs : List (Value × Value)}
      (perm : hs.Perm gs)
      (distinct : ∀ as, (Value.mapping hs).entries? = some as → (as.map (·.1)).Nodup) :
      Reordered ⟨kind, .mapping (before ++ (.string "headers", .mapping hs) :: after)⟩
        ⟨kind, .mapping (before ++ (.string "headers", .mapping gs) :: after)⟩

theorem alike_of_params {v w : Value} (http : HttpParams.ofValue? v = HttpParams.ofValue? w)
    (tcp : TcpParams.ofValue? v = TcpParams.ofValue? w) (kind : String) (timeout : Duration) :
    Alike timeout timeout ⟨kind, v⟩ ⟨kind, w⟩ := by
  have params : decoded? ⟨kind, v⟩ = decoded? ⟨kind, w⟩ := by
    unfold decoded?
    rw [http, tcp]
    rfl
  exact ⟨rfl, params, by rw [params]⟩

theorem Reordered.alike {a b : CheckSpec} (reordered : Reordered a b) (timeout : Duration) :
    Alike timeout timeout a b := by
  cases reordered with
  | params kind perm =>
    apply alike_of_params
    · exact HttpParams.ofValue?_of_perm perm
    · exact TcpParams.ofValue?_of_perm perm
  | headers kind before after perm distinct =>
    apply alike_of_params
    · exact HttpParams.ofValue?_of_headers (HttpParams.headers?_of_perm perm distinct)
    · exact TcpParams.ofValue?_of_headers before after _ _

/-! ### Profiles -/

theorem ofValue?_toValue (c : CheckSpec) : ofValue? c.toValue = some c := by
  have entries : c.toValue.entries? = some [("type", .string c.kind), ("params", c.params)] := rfl
  rw [ofValue?, Value.fields?, entries]
  rfl

/-- A check is the same whether its node is read as one or its value is. -/
theorem read_unique {d : Document} {i j : Nat} {n : Node} {v : Value} {a b : CheckSpec}
    (profile : Read.Gives d (read i n) a) (value : Read.Gives d (Read.value j n) v)
    (inPlace : ofValue? v = some b) : b = a := by
  rw [read] at profile
  obtain ⟨es, named, profile⟩ := Read.gives_bind profile
  obtain ⟨kind, word, profile⟩ := Read.gives_bind profile
  obtain ⟨params, rest, profile⟩ := Read.gives_bind profile
  rw [Read.eq_of_gives_pure profile]
  rw [ofValue?] at inPlace
  obtain ⟨fs, fields, inPlace⟩ := Option.bind_eq_some_iff.mp inPlace
  obtain ⟨kind', word', inPlace⟩ := Option.bind_eq_some_iff.mp inPlace
  obtain rfl := Option.some.inj inPlace
  have pairs := Read.fields_unique named (Read.ne_nil_of_required word) value fields
  have settings := Read.lookup_of_forall₂ pairs "params"
  rw [Read.defaulted] at rest
  congr 1
  · obtain ⟨_, _, ⟨_, reads⟩, text, written⟩ := Read.exists_of_required pairs word word'
    exact Read.text_unique reads written text
  · generalize es.lookup "params" = here, fs.lookup "params" = there at settings rest ⊢
    cases settings with
    | none => exact (Read.eq_of_gives_pure rest).symm
    | some reads =>
      obtain ⟨_, reads⟩ := reads
      exact Read.value_unique reads rest

end CheckSpec

namespace Check

/-- Makes ready what stands in the list of checks of a backend: the name of a profile, or a check
in its place. -/
def ofPlace (own shared : Profiles) (place : Value) (timeout : Duration) :
    Except ConfigError Check := do
  match CheckSpec.ofValue? (← ZoneFile.resolveCheck own shared place) with
  | some c => ofSpec c timeout
  | none => .error .notYaml

theorem ofPlace_of_ofValue? {own shared : Profiles} {v : Value} {c : CheckSpec}
    (inPlace : CheckSpec.ofValue? v = some c) (timeout : Duration) :
    ofPlace own shared v timeout = ofSpec c timeout := by
  have kept : ZoneFile.resolveCheck own shared v = .ok v := by
    cases v with
    | string name => cases inPlace
    | _ => rfl
  rw [ofPlace, kept]
  dsimp only [bind, Except.bind]
  rw [inPlace]

theorem ofPlace_of_profile? {own shared : Profiles} {name : String} {c : CheckSpec}
    (profile : ZoneFile.profile? own shared name = some c) (timeout : Duration) :
    ofPlace own shared (.string name) timeout = ofSpec c timeout := by
  have found : ZoneFile.resolveCheck own shared (.string name) = .ok c.toValue := by
    rw [ZoneFile.resolveCheck, profile]
  rw [ofPlace, found]
  dsimp only [bind, Except.bind]
  rw [CheckSpec.ofValue?_toValue]

/-- The value is what stands for the name of the profile, read where it is not a profile. -/
def IsBody (own shared : Profiles) (name : String) (v : Value) : Prop :=
  ∃ d n i c, ZoneFile.profile? own shared name = some c ∧
    Read.Gives d (CheckSpec.read i n) c ∧ Read.IsValue d n v

/-- A profile is the check that its body is in place, if it is one there. -/
theorem ofPlace_of_isBody {own shared : Profiles} {name : String} {v : Value}
    (body : IsBody own shared name v) (inPlace : (CheckSpec.ofValue? v).isSome)
    (timeout : Duration) :
    ofPlace own shared (.string name) timeout = ofPlace own shared v timeout := by
  obtain ⟨d, n, i, c, profile, read, j, value⟩ := body
  obtain ⟨e, written⟩ := Option.isSome_iff_exists.mp inPlace
  rw [ofPlace_of_profile? profile, ofPlace_of_ofValue? written,
    CheckSpec.read_unique read value written]

end Check

/-! ### Lists of probes -/

namespace Probe

/-- The checks of a backend with this timeout, made ready in order. -/
def Builds (timeout : Duration) (cs : List CheckSpec) (ps : List Probe) : Prop :=
  cs.mapM (Check.ofSpec · timeout) = .ok (ps.map (·.check))

theorem equivalence_allEquivalent : Equivalence fun ps qs => allEquivalent ps qs = true where
  refl ps := (allEquivalent_iff ps ps).mpr rfl
  symm same := (allEquivalent_iff _ _).mpr ((allEquivalent_iff _ _).mp same).symm
  trans first second := (allEquivalent_iff _ _).mpr
    (((allEquivalent_iff _ _).mp first).trans ((allEquivalent_iff _ _).mp second))

theorem tags_of_allEquivalent {ps qs : List Probe} (same : allEquivalent ps qs = true) :
    ps.map tag = qs.map tag := by
  have checks := congrArg (List.map Check.tag) ((allEquivalent_iff ps qs).mp same)
  rwa [List.map_map, List.map_map] at checks

/-- Lists that correspond to two others are equal when those correspond. -/
theorem eq_iff_forall₂ {α β γ : Type} {R : α → γ → Prop} {S : β → γ → Prop} {P : α → β → Prop}
    {as : List α} {bs : List β} {xs ys : List γ}
    (each : ∀ a b x y, R a x → S b y → (x = y ↔ P a b)) (first : List.Forall₂ R as xs)
    (second : List.Forall₂ S bs ys) : xs = ys ↔ List.Forall₂ P as bs := by
  induction first generalizing bs ys with
  | nil => cases second <;> simp
  | cons head _ ih =>
    cases second with
    | nil => simp
    | cons other rest => rw [List.cons.injEq, List.forall₂_cons, each _ _ _ _ head other, ih rest]

theorem allEquivalent_iff_alike {s t : Duration} {as bs : List CheckSpec} {ps qs : List Probe}
    (built : Builds s as ps) (rebuilt : Builds t bs qs) :
    allEquivalent ps qs = true ↔ List.Forall₂ (CheckSpec.Alike s t) as bs := by
  rw [allEquivalent_iff]
  exact eq_iff_forall₂ (fun _ _ _ _ first second => CheckSpec.ofSpec_eq_iff first second)
    (mapM_eq_ok_iff.mp built) (mapM_eq_ok_iff.mp rebuilt)

end Probe

namespace Backend

/-- The probes are kept just when they are equivalent to the new ones. -/
theorem probes_updateFrom_eq_iff (b : Backend) (d : BackendDefinition) :
    (b.updateFrom d).2.probes = b.probes ↔ Probe.allEquivalent b.probes d.probes = true := by
  change (if _ then b.probes else d.probes) = b.probes ↔ _
  split
  · rename_i same
    exact iff_of_true rfl same
  · rename_i different
    refine iff_of_false (fun same => different ?_) different
    exact (Probe.allEquivalent_iff _ _).mpr (congrArg _ same.symm)

theorem updateFrom_of_different {b : Backend} {d : BackendDefinition}
    (different : Probe.allEquivalent b.probes d.probes = false) :
    (b.updateFrom d).2.probes = d.probes ∧ (b.updateFrom d).1 = true := by
  change Probe.allEquivalent b.definition.probes d.probes = false at different
  simp only [updateFrom, probes, mergeDefinition, definitionChanged, different]
  simp

end Backend

namespace Probe

/-- Lists of probes are equivalent just when their checks agree one by one in kind, parameters
and timeout. That is an equivalence under which tags are the same, the order of keys makes no
difference to it nor does the name of a profile in the place of its body, and an update keeps the
old probes just then and takes and reports the new ones otherwise. -/
theorem allEquivalent_decides {s t : Duration} {as bs : List CheckSpec} {ps qs : List Probe}
    (built : Builds s as ps) (rebuilt : Builds t bs qs) :
    (allEquivalent ps qs = true ↔ List.Forall₂ (CheckSpec.Alike s t) as bs) ∧
    (allEquivalent ps qs = true → ps.map tag = qs.map tag) ∧
    Equivalence (fun ps qs => allEquivalent ps qs = true) ∧
    (∀ a b, CheckSpec.Reordered a b → CheckSpec.Alike s s a b) ∧
    (∀ own shared name body, Check.IsBody own shared name body →
      (CheckSpec.ofValue? body).isSome →
      Check.ofPlace own shared (.string name) s = Check.ofPlace own shared body s) ∧
    ∀ (b : Backend) (d : BackendDefinition), b.probes = ps → d.probes = qs →
      ((b.updateFrom d).2.probes = ps ↔ List.Forall₂ (CheckSpec.Alike s t) as bs) ∧
      (¬ List.Forall₂ (CheckSpec.Alike s t) as bs →
        (b.updateFrom d).2.probes = qs ∧ (b.updateFrom d).1 = true) := by
  have compared := allEquivalent_iff_alike built rebuilt
  refine ⟨compared, tags_of_allEquivalent, equivalence_allEquivalent,
    fun _ _ reordered => reordered.alike s,
    fun _ _ _ _ body inPlace => Check.ofPlace_of_isBody body inPlace s, ?_⟩
  rintro b d rfl rfl
  constructor
  · exact (b.probes_updateFrom_eq_iff d).trans compared
  · intro apart
    apply Backend.updateFrom_of_different
    exact Bool.eq_false_iff.mpr fun same => apart (compared.mp same)

/-- A check of a page, and the same with its keys in another order and one that is written out
though it says what is taken anyway. -/
def plainPage : CheckSpec :=
  ⟨"http", .mapping [(.string "port", .number (.int 80)), (.string "enable_tls", .bool false)]⟩

def fullPage : CheckSpec :=
  ⟨"http", .mapping [(.string "enable_tls", .bool false), (.string "uri", .string "/"),
    (.string "port", .number (.int 80))]⟩

/-- A check of a port, and the same with its kind in capitals and a setting that nothing reads. -/
def plainPort : CheckSpec := ⟨"tcp", .mapping [(.string "port", .number (.int 80))]⟩

def loudPort : CheckSpec :=
  ⟨" TCP", .mapping [(.string "note", .null), (.string "port", .number (.int 80))]⟩

def pageParams : HttpParams := { port := 80, enableTls := false }

/-- The probes of both checks, with serial numbers from `serial` on. -/
def pageAndPort (serial : Nat) : List Probe :=
  [⟨.http pageParams (.ofSeconds 5), serial⟩, ⟨.tcp ⟨80, none⟩ (.ofSeconds 5), serial + 1⟩]

theorem allEquivalent_ports : Builds (.ofSeconds 5) [fullPage, loudPort] (pageAndPort 0) ∧
    Builds (.ofSeconds 5) [plainPage, plainPort] (pageAndPort 2) ∧
    allEquivalent (pageAndPort 0) (pageAndPort 2) = true := by
  have loud : Builds (.ofSeconds 5) [fullPage, loudPort] (pageAndPort 0) :=
    mapM_eq_ok_iff.mpr (.cons rfl (.cons rfl .nil))
  have plain : Builds (.ofSeconds 5) [plainPage, plainPort] (pageAndPort 2) :=
    mapM_eq_ok_iff.mpr (.cons rfl (.cons rfl .nil))
  refine ⟨loud, plain, (allEquivalent_decides loud plain).1.mpr ?_⟩
  have full : fullPage.decoded? = some (.http pageParams) := rfl
  have short : plainPage.decoded? = some (.http pageParams) := rfl
  have first : loudPort.decoded? = some (.tcp ⟨80, none⟩) := rfl
  have second : plainPort.decoded? = some (.tcp ⟨80, none⟩) := rfl
  have pages : CheckSpec.Alike (.ofSeconds 5) (.ofSeconds 5) fullPage plainPage :=
    ⟨by decide, full.trans short.symm, by rw [full, short]⟩
  have ports : CheckSpec.Alike (.ofSeconds 5) (.ofSeconds 5) loudPort plainPort :=
    ⟨by decide, first.trans second.symm, by rw [first, second]⟩
  exact .cons pages (.cons ports .nil)

end Probe

end DnsBalancer
