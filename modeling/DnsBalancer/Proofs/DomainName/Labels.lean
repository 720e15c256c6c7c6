import DnsBalancer.Balancer.Queries
import DnsBalancer.Proofs.DomainName
import DnsBalancer.Zone.Load

/-!
# Labels

A name in normal form is its labels with a dot behind each, and the root, which has none, is a
dot. A name lies at or below a zone when its labels end in those of the zone. The membership
test compares texts instead: it looks for a dot and the zone's text at the end of the name. For
every zone but the root the two come to the same. A name does not end in two dots, so that
nothing but the root itself is ever found in the root.
-/
namespace DnsBalancer

namespace Text

theorem flatMap_splitOn (sep : Char) (s : List Char) :
    (splitOn sep s).flatMap (· ++ [sep]) = s ++ [sep] := by
  induction s with
  | nil => rfl
  | cons c cs ih =>
    rw [splitOn]
    split
    · rename_i equal
      rw [List.flatMap_cons, ih, equal]
      rfl
    · cases parts : splitOn sep cs with
      | nil => exact absurd parts (splitOn_ne_nil sep cs)
      | cons part rest =>
        rw [parts, List.flatMap_cons] at ih
        simp [List.flatMap_cons, ih]

theorem notMem_of_mem_splitOn {sep : Char} {s part : List Char} (member : part ∈ splitOn sep s) :
    sep ∉ part := by
  induction s generalizing part with
  | nil =>
    obtain rfl := List.mem_singleton.mp member
    exact List.not_mem_nil
  | cons c cs ih =>
    rw [splitOn] at member
    split at member
    · rcases List.mem_cons.mp member with rfl | later
      · exact List.not_mem_nil
      · exact ih later
    · rename_i different
      cases parts : splitOn sep cs with
      | nil => exact absurd parts (splitOn_ne_nil sep cs)
      | cons front rest =>
        rw [parts] at member ih
        rcases List.mem_cons.mp member with rfl | later
        · exact List.not_mem_cons_of_ne_of_not_mem (Ne.symm different) (ih List.mem_cons_self)
        · exact ih (List.mem_cons_of_mem _ later)

end Text

namespace DomainName

/-- The labels of a name, first to last. The root has none. -/
def labels (name : String) : List (List Char) :=
  if name.toList.dropLast = [] then [] else Text.splitOn '.' name.toList.dropLast

/-- The name is the zone's own or one below it. -/
def AtOrBelow (name zone : String) : Prop := labels zone <:+ labels name

instance (name zone : String) : Decidable (AtOrBelow name zone) :=
  inferInstanceAs (Decidable (labels zone <:+ labels name))

/-- What is taken to lie in a zone: the names at or below it, but in the root the root alone. -/
def Held (name zone : String) : Prop := AtOrBelow name zone ∧ (zone = "." → name = ".")

instance (name zone : String) : Decidable (Held name zone) :=
  inferInstanceAs (Decidable (_ ∧ _))

/-- Each label with a dot behind it. -/
def dotted (ls : List (List Char)) : List Char := ls.flatMap (· ++ ['.'])

def Dotless (ls : List (List Char)) : Prop := ∀ l ∈ ls, '.' ∉ l

section

variable {l z s t : List Char} {ls zs : List (List Char)}

theorem dotted_cons : dotted (l :: ls) = l ++ '.' :: dotted ls := by
  rw [dotted, List.flatMap_cons, List.append_assoc]
  rfl

theorem append_dot_inj (plain : '.' ∉ l) (plain' : '.' ∉ z) :
    l ++ '.' :: s = z ++ '.' :: t ↔ l = z ∧ s = t := by
  induction l generalizing z with
  | nil => cases z <;> grind
  | cons c l ih => cases z <;> grind

theorem dotted_inj (plain : Dotless ls) (plain' : Dotless zs) :
    dotted ls = dotted zs ↔ ls = zs := by
  induction ls generalizing zs with
  | nil => cases zs <;> simp [dotted]
  | cons l ls ih =>
    cases zs with
    | nil => simp [dotted]
    | cons z zs =>
      obtain ⟨first, rest⟩ := List.forall_mem_cons.mp plain
      obtain ⟨first', rest'⟩ := List.forall_mem_cons.mp plain'
      rw [dotted_cons, dotted_cons, append_dot_inj first first', ih rest rest', List.cons.injEq]

theorem dot_suffix_append (plain : '.' ∉ l) : '.' :: s <:+ l ++ t ↔ '.' :: s <:+ t := by
  induction l with
  | nil => rfl
  | cons c l ih =>
    rw [List.mem_cons, not_or] at plain
    rw [List.cons_append, List.suffix_cons_iff, ih plain.2, or_iff_right]
    intro equal
    exact plain.1 (List.cons.inj equal).1

theorem dotted_suffix_iff (plain : Dotless ls) (plain' : Dotless zs) (some : zs ≠ []) :
    dotted ls = dotted zs ∨ '.' :: dotted zs <:+ dotted ls ↔ zs <:+ ls := by
  induction ls with
  | nil => cases zs <;> simp_all [dotted]
  | cons l ls ih =>
    obtain ⟨first, rest⟩ := List.forall_mem_cons.mp plain
    rw [dotted_inj plain plain', dotted_cons, dot_suffix_append first, List.suffix_cons_iff,
      List.cons.injEq, eq_self, true_and, @eq_comm _ (dotted zs), ih rest, List.suffix_cons_iff,
      @eq_comm _ (l :: ls)]

end

section

variable {name fqdn zone : String}

/-- A name in normal form is what is left of it when it is normalized, and a dot. -/
theorem toList_of_normal (normal : Normal name) : name.toList = core name.toList ++ ['.'] := by
  have same : normalizeChars name.toList = name.toList := by
    rw [← String.toList_ofList (l := normalizeChars name.toList)]
    exact congrArg String.toList normal
  have kept := core_normalizeChars name.toList
  rw [same] at kept
  rw [kept, ← normalizeChars_eq, same]

theorem getLast?_core (name : List Char) : (core name).getLast? ≠ some '.' := by
  intro last
  obtain ⟨more, own⟩ := List.mem_getLast?_eq_getLast last
  exact List.rdropWhile_last_not (· == '.') (Text.trimBlank name) more (beq_iff_eq.mpr own.symm)

theorem dropLast_of_normal (normal : Normal name) : name.toList.dropLast = core name.toList := by
  have split := congrArg List.dropLast (toList_of_normal normal)
  rwa [List.dropLast_concat] at split

theorem eq_root_iff (normal : Normal name) : name = "." ↔ core name.toList = [] := by
  rw [← dropLast_of_normal normal]
  constructor
  · rintro rfl
    rfl
  · intro bare
    have split := toList_of_normal normal
    rw [← dropLast_of_normal normal, bare] at split
    exact String.toList_injective split

theorem labels_eq_nil_iff (normal : Normal name) : labels name = [] ↔ name = "." := by
  rw [labels, eq_root_iff normal, dropLast_of_normal normal, ite_eq_left_iff]
  constructor
  · intro bare
    by_contra more
    exact Text.splitOn_ne_nil _ _ (bare more)
  · exact fun bare more => absurd bare more

/-- A name that is not the root is written label by label, with a dot behind each. -/
theorem toList_eq_dotted (normal : Normal name) (other : name ≠ ".") :
    name.toList = dotted (labels name) := by
  rw [Ne, eq_root_iff normal] at other
  rw [labels, dropLast_of_normal normal, if_neg other, dotted, Text.flatMap_splitOn]
  exact toList_of_normal normal

theorem dotless_labels (name : String) : Dotless (labels name) := by
  unfold labels
  split
  · exact List.forall_mem_nil _
  · exact fun l member => Text.notMem_of_mem_splitOn member

theorem inZone_iff : inZone fqdn zone = true ↔
    fqdn.toList = zone.toList ∨ '.' :: zone.toList <:+ fqdn.toList := by
  rw [inZone, Bool.or_eq_true, beq_iff_eq, List.isSuffixOf_iff_suffix]

theorem inZone_root_iff (normal : Normal fqdn) : inZone fqdn "." = true ↔ fqdn = "." := by
  rw [inZone_iff, String.toList_inj, or_iff_left]
  intro twoDots
  have dots : ['.'] ++ ['.'] <:+ core fqdn.toList ++ ['.'] := toList_of_normal normal ▸ twoDots
  obtain ⟨front, last⟩ := ((List.suffix_append_inj_of_length_eq rfl).mp dots).1
  exact getLast?_core fqdn.toList (by rw [← last, List.getLast?_concat])

theorem inZone_iff_held (normal : Normal fqdn) (normal' : Normal zone) :
    inZone fqdn zone = true ↔ Held fqdn zone := by
  by_cases root : zone = "."
  · subst root
    have below : AtOrBelow fqdn "." := List.nil_suffix
    rw [inZone_root_iff normal, Held, and_iff_right below, eq_self, true_implies]
  · have written := toList_eq_dotted normal' root
    have some : labels zone ≠ [] := mt (labels_eq_nil_iff normal').mp root
    rw [Held, and_iff_left fun equal => absurd equal root]
    by_cases bare : fqdn = "."
    · subst bare
      refine iff_of_false (fun inside => ?_) fun below => some (List.suffix_nil.mp below)
      rcases inZone_iff.mp inside with equal | longer
      · exact root (String.toList_inj.mp equal).symm
      · have short := longer.length_le
        rw [toList_of_normal normal', List.length_cons, List.length_append] at short
        exact absurd short (by simp)
    · rw [inZone_iff, toList_eq_dotted normal bare, written]
      exact dotted_suffix_iff (dotless_labels fqdn) (dotless_labels zone) some

end

/-- Normalizing is done for good after one time. Among names in normal form the test for a zone
accepts what lies at or below it, but in the root it accepts the root alone. So the registry has
authority over the names that lie at or below one of its zones, and the entries of a zone file
that are let in are those whose names do, with the same exception for the root. -/
theorem inZone_labelled (fqdn zone name : String) (b : Balancer) (key : Yaml.Value) :
    normalize (normalize name) = normalize name ∧
    (Normal fqdn → Normal zone → (inZone fqdn zone = true ↔ Held fqdn zone)) ∧
    ((∀ zone ∈ b.zoneNames, Normal zone) →
      (b.isAuthoritative name = true ↔ ∃ zone ∈ b.zoneNames, Held (normalize name) zone)) ∧
    (key.text? = some name →
      ZoneFile.recordName (normalize zone) key =
        if Held (normalize name) (normalize zone) then .ok (normalize name)
        else .error (.zoneMismatch (normalize name) (normalize zone))) := by
  refine ⟨normal_normalize name, inZone_iff_held, ?_, ?_⟩
  · intro normal
    refine List.any_eq_true.trans (exists_congr fun zone => and_congr_right fun configured => ?_)
    exact inZone_iff_held (normal_normalize name) (normal zone configured)
  · intro text
    have own := inZone_iff_held (normal_normalize name) (normal_normalize zone)
    rw [ZoneFile.recordName, text]
    simp only [own]

theorem inZone_labelled_nested :
    let b := Balancer.ofDefinitions [⟨"example.org.", [], []⟩, ⟨"net.", [], []⟩]
    Normal "a.b.example.org." ∧ Normal "example.org." ∧
      inZone "a.b.example.org." "example.org." = true ∧
      (∀ zone ∈ b.zoneNames, Normal zone) ∧ b.isAuthoritative "B.example.ORG" = true ∧
      (Yaml.Value.string "B.example.ORG").text? = some "B.example.ORG" ∧
      ZoneFile.recordName (normalize "example.org.") (.string "B.example.ORG") =
        .ok (normalize "B.example.ORG") := by
  intro b
  have names : ∀ zone ∈ b.zoneNames, Normal zone := by decide
  obtain ⟨_, inside, authority, accepted⟩ :=
    inZone_labelled "a.b.example.org." "example.org." "B.example.ORG" b (.string "B.example.ORG")
  refine ⟨by decide, by decide, ?_, names, ?_, rfl, ?_⟩
  · exact (inside (by decide) (by decide)).mpr (by decide)
  · exact (authority names).mpr (by decide)
  · exact (accepted rfl).trans (if_pos (by decide))

/-- The root is above every name, and finds none of them. -/
theorem inZone_root_refused : ¬ ∀ fqdn zone, Normal fqdn → Normal zone →
    (inZone fqdn zone = true ↔ AtOrBelow fqdn zone) := by
  intro exact
  have inside := (exact "example.org." "." (by decide) (by decide)).mpr (by decide)
  revert inside
  decide

end DomainName

end DnsBalancer
