/-!
# Maps by name

A map from names to values, sorted by name, so that a name has one value and a map
is known by what its look-ups find. The lemmas say what a look-up finds after each
operation.
-/
namespace DnsBalancer

structure NameMap (α : Type) where
  entries : List (String × α)
  sorted : entries.Pairwise (·.1 < ·.1)
  deriving Repr, DecidableEq

namespace NameMap

variable {α : Type}

def empty : NameMap α := ⟨[], .nil⟩

instance : EmptyCollection (NameMap α) := ⟨empty⟩

instance : Inhabited (NameMap α) := ⟨empty⟩

def lookup (name : String) : List (String × α) → Option α
  | [] => none
  | (n, a) :: rest => if n = name then some a else lookup name rest

def place (name : String) (a : α) : List (String × α) → List (String × α)
  | [] => [(name, a)]
  | (n, b) :: rest =>
    if n = name then (name, a) :: rest
    else if name < n then (name, a) :: (n, b) :: rest
    else (n, b) :: place name a rest

theorem mem_place {name : String} {a : α} {e : String × α} {es : List (String × α)}
    (member : e ∈ place name a es) : e = (name, a) ∨ e ∈ es := by
  induction es with
  | nil => simpa [place] using member
  | cons head tail ih => grind [place]

theorem pairwise_place (name : String) (a : α) {es : List (String × α)}
    (sorted : es.Pairwise (·.1 < ·.1)) : (place name a es).Pairwise (·.1 < ·.1) := by
  induction es with
  | nil => simp [place]
  | cons head tail ih =>
    obtain ⟨n, b⟩ := head
    obtain ⟨below, rest⟩ := List.pairwise_cons.mp sorted
    rw [place]
    split
    · subst n
      exact List.pairwise_cons.mpr ⟨below, rest⟩
    · rename_i different
      split
      · rename_i before
        refine List.pairwise_cons.mpr ⟨fun e member => ?_, sorted⟩
        rcases List.mem_cons.mp member with rfl | later
        · exact before
        · exact String.lt_trans before (below e later)
      · rename_i notBefore
        refine List.pairwise_cons.mpr ⟨fun e member => ?_, ih rest⟩
        rcases mem_place member with rfl | later
        · exact Std.lt_of_le_of_ne (String.not_lt.mp notBefore) different
        · exact below e later

def find? (m : NameMap α) (name : String) : Option α := lookup name m.entries

def contains (m : NameMap α) (name : String) : Bool := (m.find? name).isSome

/-- Gives `name` a value, in the place of any it had. -/
def insert (m : NameMap α) (name : String) (a : α) : NameMap α :=
  ⟨place name a m.entries, pairwise_place name a m.sorted⟩

def erase (m : NameMap α) (name : String) : NameMap α :=
  ⟨m.entries.filter (·.1 ≠ name), m.sorted.filter _⟩

def names (m : NameMap α) : List String := m.entries.map (·.1)

def values (m : NameMap α) : List α := m.entries.map (·.2)

def size (m : NameMap α) : Nat := m.entries.length

/-- Applies `f` to every value, which keeps its name. -/
def mapValues (f : α → α) (m : NameMap α) : NameMap α :=
  ⟨m.entries.map fun (n, a) => (n, f a), List.pairwise_map.mpr m.sorted⟩

/-- Applies `f` to the value of `name`, if there is one. -/
def modify (m : NameMap α) (name : String) (f : α → α) : NameMap α :=
  match m.find? name with
  | some a => m.insert name (f a)
  | none => m

theorem lookup_map (f : α → α) (name : String) (es : List (String × α)) :
    lookup name (es.map fun (n, a) => (n, f a)) = (lookup name es).map f := by
  induction es with
  | nil => rfl
  | cons e es ih => grind [lookup]

@[simp] theorem find?_mapValues (f : α → α) (m : NameMap α) (name : String) :
    (m.mapValues f).find? name = (m.find? name).map f :=
  lookup_map f name m.entries

theorem lookup_place (name other : String) (a : α) (es : List (String × α)) :
    lookup other (place name a es) = if name = other then some a else lookup other es := by
  induction es with
  | nil => rfl
  | cons e es ih => grind [place, lookup]

@[simp] theorem find?_insert (m : NameMap α) (name other : String) (a : α) :
    (m.insert name a).find? other = if name = other then some a else m.find? other :=
  lookup_place name other a m.entries

/-- A filter that looks at names alone hides some of them. -/
theorem lookup_filter (p : String → Bool) (name : String) (es : List (String × α)) :
    lookup name (es.filter fun e => p e.1) = if p name then lookup name es else none := by
  induction es with
  | nil => simp [lookup]
  | cons e es ih => grind [lookup]

@[simp] theorem find?_erase (m : NameMap α) (name other : String) :
    (m.erase name).find? other = if name = other then none else m.find? other := by
  rw [find?, erase, lookup_filter (decide <| · ≠ name) other]
  by_cases equal : name = other
  · simp [equal]
  · simp [equal, Ne.symm equal, find?]

@[simp] theorem find?_empty (name : String) : (∅ : NameMap α).find? name = none := rfl

theorem mem_of_lookup {name : String} {a : α} {es : List (String × α)}
    (found : lookup name es = some a) : (name, a) ∈ es := by
  induction es with
  | nil => simp [lookup] at found
  | cons e es ih => grind [lookup]

theorem lookup_of_mem {name : String} {a : α} {es : List (String × α)}
    (sorted : es.Pairwise (·.1 < ·.1)) (member : (name, a) ∈ es) :
    lookup name es = some a := by
  induction es with
  | nil => simp at member
  | cons head tail ih =>
    obtain ⟨below, rest⟩ := List.pairwise_cons.mp sorted
    rcases List.mem_cons.mp member with rfl | later
    · simp [lookup]
    · have different : head.1 ≠ name := String.ne_of_lt (below _ later)
      simpa [lookup, different] using ih rest later

/-- An entry is what a look-up of its name finds, since no name stands twice. -/
theorem mem_entries_iff {m : NameMap α} {name : String} {a : α} :
    (name, a) ∈ m.entries ↔ m.find? name = some a :=
  ⟨lookup_of_mem m.sorted, mem_of_lookup⟩

theorem mem_values_iff {m : NameMap α} {a : α} :
    a ∈ m.values ↔ ∃ name, m.find? name = some a := by
  simp [values, ← mem_entries_iff]

theorem mem_names_iff {m : NameMap α} {name : String} :
    name ∈ m.names ↔ ∃ a, m.find? name = some a := by
  simp [names, ← mem_entries_iff]

theorem pairwise_names (m : NameMap α) : m.names.Pairwise (· < ·) :=
  List.pairwise_map.mpr m.sorted

/-- Maps that find something under the same names have the same names. -/
theorem names_eq_of_isSome {m₁ m₂ : NameMap α}
    (same : ∀ name, (m₁.find? name).isSome = (m₂.find? name).isSome) : m₁.names = m₂.names := by
  have nodup (m : NameMap α) : m.names.Nodup := m.pairwise_names.imp String.ne_of_lt
  have perm : m₁.names.Perm m₂.names := by
    refine (List.perm_ext_iff_of_nodup (nodup m₁) (nodup m₂)).mpr fun name => ?_
    rw [mem_names_iff, mem_names_iff, ← Option.isSome_iff_exists, ← Option.isSome_iff_exists, same]
  exact perm.eq_of_pairwise (fun a b _ _ before after => absurd after (String.lt_asymm before))
    m₁.pairwise_names m₂.pairwise_names

/-- Maps that answer every look-up alike are equal. -/
theorem ext_find? {m₁ m₂ : NameMap α} (same : ∀ name, m₁.find? name = m₂.find? name) :
    m₁ = m₂ := by
  have nodup (m : NameMap α) : m.entries.Nodup :=
    m.sorted.imp fun before equal => String.ne_of_lt before (congrArg Prod.fst equal)
  have perm : m₁.entries.Perm m₂.entries := by
    refine (List.perm_ext_iff_of_nodup (nodup m₁) (nodup m₂)).mpr fun e => ?_
    rw [mem_entries_iff, mem_entries_iff, same]
  have entries : m₁.entries = m₂.entries :=
    perm.eq_of_pairwise
      (fun a b _ _ before after => absurd after (String.lt_asymm before)) m₁.sorted m₂.sorted
  cases m₁
  cases m₂
  simpa using entries

/-- Inserting entries that stand in order hides what the map had under their names. -/
theorem find?_foldl_insert (m : NameMap α) (name : String) {es : List (String × α)}
    (sorted : es.Pairwise (·.1 < ·.1)) :
    (es.foldl (fun m e => m.insert e.1 e.2) m).find? name =
      (lookup name es).or (m.find? name) := by
  induction es generalizing m with
  | nil => simp [lookup]
  | cons head tail ih =>
    obtain ⟨below, rest⟩ := List.pairwise_cons.mp sorted
    rw [List.foldl_cons, ih _ rest, find?_insert, lookup]
    split
    · rename_i equal
      have absent : lookup name tail = none := by
        cases found : lookup name tail with
        | none => rfl
        | some a =>
          have before := below _ (mem_of_lookup found)
          exact absurd equal (String.ne_of_lt before)
      simp [absent]
    · rfl

theorem insert_of_find? {m : NameMap α} {name : String} {a : α}
    (found : m.find? name = some a) : m.insert name a = m := by
  apply ext_find?
  intro other
  rw [find?_insert]
  split
  · subst other
    exact found.symm
  · rfl

end NameMap

end DnsBalancer
