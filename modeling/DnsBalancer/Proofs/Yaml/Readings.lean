import DnsBalancer.Check.Spec
import Mathlib.Data.List.Forall2

/-!
# One node read in two ways

What a node says does not depend on how deep it may nest nor on how many references may be followed
when it is read: these only decide whether it is read. A node that can be read as text and as a
value that is text says the same either way, and so a check is the same whether its node is read as
one or its value is.
-/
namespace DnsBalancer.Yaml.Read

variable {α β : Type} {d : Document}

/-- The reader has given this, whatever it was allowed to follow. -/
def Gives (d : Document) (get : Read α) (a : α) : Prop := ∃ k m, get d k = some (a, m)

theorem gives_bind {get : Read α} {next : α → Read β} {b : β} (gives : Gives d (get >>= next) b) :
    ∃ a, Gives d get a ∧ Gives d (next a) b := by
  obtain ⟨k, m, ran⟩ := gives
  obtain ⟨⟨a, l⟩, first, second⟩ := Option.bind_eq_some_iff.mp ran
  exact ⟨a, ⟨k, l, first⟩, l, m, second⟩

theorem eq_of_gives_pure {a b : α} (gives : Gives d (pure a) b) : b = a := by
  obtain ⟨k, m, ran⟩ := gives
  exact (Prod.mk.inj (Option.some.inj ran)).1.symm

theorem not_gives_refuse {a : α} : ¬ Gives d (refuse : Read α) a := by
  rintro ⟨k, m, ran⟩
  cases ran

theorem eq_of_gives_ofOption {o : Option α} {a : α} (gives : Gives d (ofOption o) a) :
    o = some a := by
  cases o with
  | none => exact absurd gives not_gives_refuse
  | some b => rw [eq_of_gives_pure gives]

theorem gives_mapM {get : α → Read β} {as : List α} {bs : List β}
    (gives : Gives d (as.mapM get) bs) : List.Forall₂ (fun a b => Gives d (get a) b) as bs := by
  induction as generalizing bs with
  | nil =>
    rw [List.mapM_nil] at gives
    rw [eq_of_gives_pure gives]
    exact .nil
  | cons a as ih =>
    rw [List.mapM_cons] at gives
    obtain ⟨b, first, gives⟩ := gives_bind gives
    obtain ⟨rest, later, gives⟩ := gives_bind gives
    rw [eq_of_gives_pure gives]
    exact .cons first (ih later)

theorem forall₂_of_mapM {get : α → Option β} {as : List α} {bs : List β}
    (read : as.mapM get = some bs) : List.Forall₂ (fun a b => get a = some b) as bs := by
  induction as generalizing bs with
  | nil =>
    obtain rfl := Option.some.inj read
    exact .nil
  | cons a as ih =>
    rw [List.mapM_cons] at read
    obtain ⟨b, first, read⟩ := Option.bind_eq_some_iff.mp read
    obtain ⟨rest, later, read⟩ := Option.bind_eq_some_iff.mp read
    obtain rfl := Option.some.inj read
    exact .cons first (ih later)

/-- What two relations to one list leave no choice about is one list. -/
theorem eq_of_forall₂ {γ : Type} {R S : α → γ → Prop} {as : List α} {bs cs : List γ}
    (unique : ∀ a b c, R a b → S a c → b = c) (first : List.Forall₂ R as bs)
    (second : List.Forall₂ S as cs) : bs = cs := by
  induction first generalizing cs with
  | nil =>
    cases second
    rfl
  | cons head _ ih =>
    cases second with
    | cons other rest => rw [unique _ _ _ head other, ih rest]

/-! ### Values -/

/-- The node itself, or the one of the document that it refers to. -/
def target? (d : Document) : Node → Option Node
  | .reference anchor => d.anchors[anchor]?
  | n => some n

theorem target?_of_gives {n m : Node} (gives : Gives d (follow n) m) : target? d n = some m := by
  cases n with
  | reference anchor =>
    rw [follow] at gives
    obtain ⟨left, _, gives⟩ := gives_bind gives
    cases left with
    | zero => exact absurd gives not_gives_refuse
    | succ left =>
      obtain ⟨_, _, gives⟩ := gives_bind gives
      obtain ⟨doc, own, gives⟩ := gives_bind gives
      obtain ⟨k, l, ran⟩ := own
      obtain rfl := (Prod.mk.inj (Option.some.inj ran)).1
      exact eq_of_gives_ofOption gives
  | _ => exact congrArg some (eq_of_gives_pure gives).symm

theorem follow_unique {n m m' : Node} (first : Gives d (follow n) m)
    (second : Gives d (follow n) m') : m = m' :=
  Option.some.inj ((target?_of_gives first).symm.trans (target?_of_gives second))

/-- The value of a scalar is no text but what is written. -/
def Literal (s : String) (o : Option Value) : Prop := ∀ v ∈ o, ∀ t, v.text? = some t → t = s

theorem literal_plainValue? (s : String) : Literal s (plainValue? s) := by
  unfold plainValue?
  repeat' split
  all_goals simp [Literal, Value.text?, Value.untagged]

theorem literal_map {s : String} {o : Option α} {f : α → Value} (other : ∀ a, (f a).text? = none) :
    Literal s (o.map f) := by
  intro v member t written
  obtain ⟨a, _, rfl⟩ := Option.map_eq_some_iff.mp member
  rw [other a] at written
  cases written

theorem literal_taggedValue? (tag s : String) : Literal s (taggedValue? tag s) := by
  unfold taggedValue?
  split
  · exact literal_map fun _ => rfl
  split
  · exact literal_map fun _ => rfl
  split
  · exact literal_map fun _ => rfl
  · repeat' split
    all_goals simp [Literal, Value.text?, Value.untagged]

theorem Literal.tagged {s : String} {o : Option Value} (literal : Literal s o) (tag : String) :
    Literal s (o.map (.tagged tag)) := by
  intro v member t written
  obtain ⟨w, inside, rfl⟩ := Option.map_eq_some_iff.mp member
  exact literal w inside t written

/-- A scalar resolves in one way, and to its own text if to text at all. -/
theorem exists_scalar (tag : Option String) (style : Style) (s : String) :
    ∃ o, scalar tag style s = ofOption o ∧ Literal s o := by
  have untagged : Literal s (if style == .plain then plainValue? s else some (.string s)) := by
    split
    · exact literal_plainValue? s
    · simp [Literal, Value.text?, Value.untagged]
  unfold scalar
  dsimp only
  split
  · exact ⟨_, rfl, untagged⟩
  · split
    · exact ⟨_, rfl, untagged.tagged _⟩
    · refine ⟨_, rfl, ?_⟩
      split
      · exact untagged
      · exact literal_taggedValue? _ s

theorem scalar_unique {tag : Option String} {style : Style} {s : String} {v w : Value}
    (first : Gives d (scalar tag style s) v) (second : Gives d (scalar tag style s) w) : v = w := by
  obtain ⟨o, same, _⟩ := exists_scalar tag style s
  rw [same] at first second
  exact Option.some.inj ((eq_of_gives_ofOption first).symm.trans (eq_of_gives_ofOption second))

/-- Entries are collected in the order in which they stand. -/
theorem gives_addEntries {depth : Nat} {es : List (Node × Node)} {acc out : List (Value × Value)}
    (gives : Gives d (es.foldlM
      (fun acc (k, v) => do addEntry acc (← value depth k) (← value depth v)) acc) out) :
    ∃ added, out = acc ++ added ∧ List.Forall₂
      (fun e x => Gives d (value depth e.1) x.1 ∧ Gives d (value depth e.2) x.2) es added := by
  induction es generalizing acc with
  | nil =>
    rw [List.foldlM_nil] at gives
    exact ⟨[], by rw [eq_of_gives_pure gives, List.append_nil], .nil⟩
  | cons e es ih =>
    rw [List.foldlM_cons] at gives
    obtain ⟨next, collected, rest⟩ := gives_bind gives
    obtain ⟨k, key, collected⟩ := gives_bind collected
    obtain ⟨v, val, collected⟩ := gives_bind collected
    rw [addEntry] at collected
    split at collected
    · exact absurd collected not_gives_refuse
    · obtain ⟨added, rfl, each⟩ := ih rest
      rw [eq_of_gives_pure collected]
      exact ⟨(k, v) :: added, by simp, .cons ⟨key, val⟩ each⟩

/-- The value of a node is the same however deep it may nest. -/
theorem value_unique {i j : Nat} {n : Node} {v w : Value} (first : Gives d (value i n) v)
    (second : Gives d (value j n) w) : v = w := by
  induction i generalizing j n v w with
  | zero =>
    rw [value] at first second
    obtain ⟨m, own, first⟩ := gives_bind first
    obtain ⟨m', other, second⟩ := gives_bind second
    obtain rfl := follow_unique own other
    cases m with
    | scalar tag style s => exact scalar_unique first second
    | _ => exact absurd first not_gives_refuse
  | succ i ih =>
    rw [value] at first second
    obtain ⟨m, own, first⟩ := gives_bind first
    obtain ⟨m', other, second⟩ := gives_bind second
    obtain rfl := follow_unique own other
    cases m with
    | scalar tag style s => exact scalar_unique first second
    | sequence tag ns =>
      cases j with
      | zero => exact absurd second not_gives_refuse
      | succ j =>
        obtain ⟨vs, items, first⟩ := gives_bind first
        obtain ⟨ws, others, second⟩ := gives_bind second
        have same : vs = ws := by
          refine eq_of_forall₂ ?_ (gives_mapM items) (gives_mapM others)
          exact fun _ _ _ one two => ih one two
        rw [eq_of_gives_pure first, eq_of_gives_pure second, same]
    | mapping tag es =>
      cases j with
      | zero => exact absurd second not_gives_refuse
      | succ j =>
        obtain ⟨vs, entries, first⟩ := gives_bind first
        obtain ⟨ws, others, second⟩ := gives_bind second
        obtain ⟨vs, rfl, each⟩ := gives_addEntries entries
        obtain ⟨ws, rfl, again⟩ := gives_addEntries others
        have same : vs = ws := eq_of_forall₂
          (fun _ _ _ one two => Prod.ext (ih one.1 two.1) (ih one.2 two.2)) each again
        rw [eq_of_gives_pure first, eq_of_gives_pure second, same]
    | reference anchor => exact absurd first not_gives_refuse
    | unfinished => exact absurd first not_gives_refuse

/-! ### Fields -/

/-- The node can be read as this value. -/
def IsValue (d : Document) (n : Node) (v : Value) : Prop := ∃ i, Gives d (value i n) v

/-- A scalar that is text as a value is the text that is written. -/
theorem text_unique {i : Nat} {n : Node} {v : Value} {s t : String}
    (first : Gives d (value i n) v) (written : v.text? = some s) (second : Gives d (text n) t) :
    s = t := by
  rw [text] at second
  obtain ⟨m, own, second⟩ := gives_bind second
  rw [value.eq_def] at first
  obtain ⟨m', other, first⟩ := gives_bind first
  obtain rfl := follow_unique own other
  cases m with
  | scalar tag style text =>
    obtain ⟨o, same, literal⟩ := exists_scalar tag style text
    dsimp only at first
    rw [same] at first
    rw [eq_of_gives_pure second]
    exact literal v (eq_of_gives_ofOption first) s written
  | _ => exact absurd second not_gives_refuse

theorem untagged_wrap (tag : Option String) (es : List (Value × Value)) :
    (wrap tag (.mapping es)).untagged = .mapping es := by
  unfold wrap
  split <;> rfl

/-- Each entry is paired with its text on one side and its value on the other. -/
theorem pair_entries {i : Nat} {ns : List (Node × Node)} {vs : List (Value × Value)}
    {es : List (String × Node)} {fs : List (String × Value)}
    (named : List.Forall₂ (fun x e => Gives d (do return (← text x.1, x.2)) e) ns es)
    (each : List.Forall₂
      (fun x y => Gives d (value i x.1) y.1 ∧ Gives d (value i x.2) y.2) ns vs)
    (read : List.Forall₂ (fun y f => (y.1.text?).map (·, y.2) = some f) vs fs) :
    List.Forall₂ (fun e f => e.1 = f.1 ∧ IsValue d e.2 f.2) es fs := by
  induction each generalizing es fs with
  | nil =>
    cases named
    cases read
    exact .nil
  | cons entry _ ih =>
    cases named with
    | cons name named =>
      cases read with
      | cons field read =>
        refine .cons ?_ (ih named read)
        obtain ⟨t, text, made⟩ := gives_bind name
        obtain ⟨s, written, rfl⟩ := Option.map_eq_some_iff.mp field
        rw [eq_of_gives_pure made]
        exact ⟨(text_unique entry.1 written text).symm, i, entry.2⟩

/-- The entries of a node are those of its value, in the same order and under the same names. -/
theorem textEntries_unique {i : Nat} {n : Node} {v : Value} {es : List (String × Node)}
    {fs : List (String × Value)} (first : Gives d (textEntries n) es) (nonempty : es ≠ [])
    (second : Gives d (value i n) v) (fields : v.entries? = some fs) :
    List.Forall₂ (fun e f => e.1 = f.1 ∧ IsValue d e.2 f.2) es fs := by
  rw [textEntries] at first
  obtain ⟨ns, held, first⟩ := gives_bind first
  rw [entries] at held
  obtain ⟨m, own, held⟩ := gives_bind held
  rw [value.eq_def] at second
  obtain ⟨m', other, second⟩ := gives_bind second
  obtain rfl := follow_unique own other
  have named := gives_mapM first
  have missing (bare : ns = []) : False := by
    rw [bare] at named
    cases named
    exact nonempty rfl
  cases m with
  | mapping tag written =>
    obtain rfl := eq_of_gives_pure held
    cases i with
    | zero => exact absurd second not_gives_refuse
    | succ i =>
      obtain ⟨vs, collected, second⟩ := gives_bind second
      obtain ⟨vs, rfl, each⟩ := gives_addEntries collected
      rw [eq_of_gives_pure second, Value.entries?, untagged_wrap] at fields
      exact pair_entries named each (forall₂_of_mapM fields)
  | _ =>
    dsimp only at held
    split at held
    · exact (missing (eq_of_gives_pure held)).elim
    · exact absurd held not_gives_refuse

theorem lookup_of_forall₂ {R : α → β → Prop} {es : List (String × α)} {fs : List (String × β)}
    (pairs : List.Forall₂ (fun e f => e.1 = f.1 ∧ R e.2 f.2) es fs) (name : String) :
    Option.Rel R (es.lookup name) (fs.lookup name) := by
  induction pairs with
  | nil => exact .none
  | @cons e f _ _ pair _ ih =>
    obtain ⟨n, a⟩ := e
    obtain ⟨m, b⟩ := f
    obtain ⟨rfl, related⟩ := pair
    rw [List.lookup_cons, List.lookup_cons]
    dsimp only
    cases name == n with
    | true => exact .some related
    | false => exact ih

theorem ne_nil_of_required {get : Node → Read α} {name : String} {es : List (String × Node)} {a : α}
    (gives : Gives d (required name get es) a) : es ≠ [] := by
  rintro rfl
  exact not_gives_refuse gives

/-- What two readings of one field, as a node and as a value, go back to. -/
theorem exists_of_required {R : Node → Value → Prop} {getNode : Node → Read α}
    {get : Value → Option β} {name : String} {es : List (String × Node)}
    {fs : List (String × Value)} {a : α} {b : β}
    (pairs : List.Forall₂ (fun e f => e.1 = f.1 ∧ R e.2 f.2) es fs)
    (first : Gives d (required name getNode es) a) (second : Value.required? name get fs = some b) :
    ∃ n v, R n v ∧ Gives d (getNode n) a ∧ get v = some b := by
  have related := lookup_of_forall₂ pairs name
  rw [required] at first
  rw [Value.required?] at second
  obtain ⟨v, found, second⟩ := Option.bind_eq_some_iff.mp second
  generalize es.lookup name = here at related first
  rw [found] at related
  cases related with
  | some related => exact ⟨_, v, related, first, second⟩

theorem fields_unique {i : Nat} {n : Node} {v : Value} {known : List String}
    {es : List (String × Node)} {fs : List (String × Value)}
    (first : Gives d (fields known n) es) (nonempty : es ≠ []) (second : Gives d (value i n) v)
    (read : v.fields? known = some fs) :
    List.Forall₂ (fun e f => e.1 = f.1 ∧ IsValue d e.2 f.2) es fs := by
  rw [fields] at first
  obtain ⟨es', named, first⟩ := gives_bind first
  split at first
  · exact absurd first not_gives_refuse
  · obtain rfl := eq_of_gives_pure first
    exact textEntries_unique named nonempty second (Option.filter_eq_some_iff.mp read).1

end DnsBalancer.Yaml.Read
