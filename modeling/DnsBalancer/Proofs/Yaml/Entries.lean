import DnsBalancer.Yaml.Fields

/-!
# Entries of mappings

What a look-up finds after an insertion, and that a mapping in which a known field stands twice
has no fields to give.
-/
namespace DnsBalancer.Yaml

/-- The key is this text, under no tag. -/
def Value.isText (name : String) : Value → Bool
  | .string s => s == name
  | _ => false

theorem Value.isText_eq_true {name : String} {k : Value} :
    k.isText name = true ↔ k = .string name := by
  cases k <;> simp [isText]

theorem Value.isText_of_same {name : String} {k l : Value} (same : k.same l = true) :
    k.isText name = l.isText name := by
  cases k <;> cases l <;> simp_all [Value.same, isText]

theorem Value.same_string (k : Value) (name : String) :
    k.same (.string name) = k.isText name := by
  cases k <;> simp [Value.same, isText]

variable {name : String} {k v : Value} {es : List (Value × Value)}

theorem lookup_cons (name : String) (e : Value × Value) (es : List (Value × Value)) :
    lookup name (e :: es) = if e.1.isText name then some e.2 else lookup name es := by
  obtain ⟨k, v⟩ := e
  cases k <;> simp [lookup, Value.isText]

theorem insert_cons (k v : Value) (e : Value × Value) (es : List (Value × Value)) :
    insert k v (e :: es) = if e.1.same k then (e.1, v) :: es else e :: insert k v es := rfl

@[simp] theorem lookup_insert (name : String) (v : Value) (es : List (Value × Value)) :
    lookup name (insert (.string name) v es) = some v := by
  induction es with
  | nil => simp [insert, lookup]
  | cons e es ih =>
    rw [insert_cons, Value.same_string]
    split
    · rename_i own
      rw [lookup_cons, if_pos own]
    · rename_i other
      rw [lookup_cons, if_neg other, ih]

@[simp] theorem insert_insert (name : String) (v w : Value) (es : List (Value × Value)) :
    insert (.string name) w (insert (.string name) v es) = insert (.string name) w es := by
  induction es with
  | nil => simp [insert, Value.same]
  | cons e es ih =>
    rw [insert_cons, insert_cons, Value.same_string]
    split
    · rename_i own
      rw [insert_cons, Value.same_string, if_pos own]
    · rename_i other
      rw [insert_cons, Value.same_string, if_neg other, ih]

theorem keys_insert (found : lookup name es = some v) (w : Value) :
    (insert (.string name) w es).map (·.1) = es.map (·.1) := by
  induction es with
  | nil => simp [lookup] at found
  | cons e es ih =>
    rw [insert_cons, Value.same_string]
    split
    · rfl
    · rename_i other
      rw [lookup_cons, if_neg other] at found
      rw [List.map_cons, List.map_cons, ih found]

/-- How often the text is a key. -/
def occurrences (name : String) (es : List (Value × Value)) : Nat :=
  es.countP (·.1.isText name)

theorem occurrences_congr {es fs : List (Value × Value)} (same : es.map (·.1) = fs.map (·.1)) :
    occurrences name es = occurrences name fs := by
  have keys (es : List (Value × Value)) :
      occurrences name es = (es.map (·.1)).countP (·.isText name) := by
    rw [List.countP_map]
    rfl
  rw [keys, keys, same]

theorem occurrences_le_of_mapM {fs : List (String × Value)}
    (read : (es.mapM fun (k, v) => (Value.text? k).map (·, v)) = some fs) :
    occurrences name es ≤ fs.countP (·.1 == name) := by
  induction es generalizing fs with
  | nil => exact Nat.zero_le _
  | cons e es ih =>
    rw [List.mapM_cons] at read
    obtain ⟨f, first, read⟩ := Option.bind_eq_some_iff.mp read
    obtain ⟨rest, later, read⟩ := Option.bind_eq_some_iff.mp read
    obtain rfl := Option.some.inj read
    obtain ⟨s, written, rfl⟩ := Option.map_eq_some_iff.mp first
    have below := ih later
    rw [occurrences] at below ⊢
    rw [List.countP_cons, List.countP_cons]
    have one : (if e.1.isText name = true then 1 else 0) ≤ if (s == name) = true then 1 else 0 := by
      split
      · rename_i own
        rw [Value.isText_eq_true.mp own] at written
        obtain rfl := Option.some.inj written
        simp
      · exact Nat.zero_le _
    exact Nat.add_le_add below one

theorem Value.fields?_of_repeated {known : List String} (field : name ∈ known)
    (repeated : 1 < occurrences name es) : (Value.mapping es).fields? known = none := by
  rw [fields?, Option.filter_eq_none_iff]
  intro fs read allowed
  have atMost : (fs.filter (·.1 == name)).length ≤ 1 :=
    of_decide_eq_true (List.all_eq_true.mp allowed name field)
  rw [← List.countP_eq_length_filter] at atMost
  have many := @occurrences_le_of_mapM name _ _ read
  omega

end DnsBalancer.Yaml
