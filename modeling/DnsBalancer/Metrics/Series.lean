import DnsBalancer.Duration
import DnsBalancer.Text.Binary64

/-!
# Series of numbers

A family of series holds one number, or one histogram, for every row of label values
that was seen. What a row is known by is made of its values by the keeper of the
family: rows of one key are one, under the values seen first.
-/
namespace DnsBalancer

/-- What a row is known by, made of its label values. -/
abbrev RowKey := List String → List String

/-- The values written in one piece, without anything between them. -/
def RowKey.joined : RowKey := fun labels => [String.join labels]

/-- One value for every row of label values, in the order the rows were first seen. -/
structure Series (α : Type) where
  key : RowKey
  rows : List (List String × α)
  distinct : (rows.map (key ·.1)).Nodup

namespace Series

variable {α : Type} (key : RowKey)

/-- A family with no rows. -/
def empty : Series α := ⟨key, [], .nil⟩

instance : EmptyCollection (Series α) := ⟨empty .joined⟩

instance : Inhabited (Series α) := ⟨∅⟩

def lookup (k : List String) : List (List String × α) → Option α
  | [] => none
  | (l, a) :: rest => if key l = k then some a else lookup k rest

/-- Gives a row its value where it stands, or appends it. -/
def place (labels : List String) (a : α) : List (List String × α) → List (List String × α)
  | [] => [(labels, a)]
  | (l, b) :: rest =>
    if key l = key labels then (l, a) :: rest else (l, b) :: place labels a rest

section

variable {key}

/-- A row that is placed keeps the labels it was first seen under. -/
theorem mem_place {labels l : List String} {a v : α} {rows : List (List String × α)}
    (distinct : (rows.map (key ·.1)).Nodup) (member : (l, v) ∈ place key labels a rows) :
    key l = key labels ∧ v = a ∧ (l = labels ∨ ∃ w, (l, w) ∈ rows) ∨
      key l ≠ key labels ∧ (l, v) ∈ rows := by
  induction rows with
  | nil => grind [place]
  | cons e es ih => grind [place]

theorem nodup_place (labels : List String) (a : α) {rows : List (List String × α)}
    (distinct : (rows.map (key ·.1)).Nodup) :
    ((place key labels a rows).map (key ·.1)).Nodup := by
  induction rows with
  | nil => simp [place]
  | cons e es ih =>
    obtain ⟨first, rest⟩ := List.nodup_cons.mp distinct
    rw [place]
    split
    · exact distinct
    · rename_i different
      refine List.nodup_cons.mpr ⟨fun again => ?_, ih rest⟩
      obtain ⟨⟨l, v⟩, member, same⟩ := List.mem_map.mp again
      rcases mem_place rest member with ⟨placed, _⟩ | ⟨_, before⟩
      · exact different (same.symm.trans placed)
      · exact first (same ▸ List.mem_map_of_mem before)

end

def find? (s : Series α) (labels : List String) : Option α := lookup s.key (s.key labels) s.rows

def insert (s : Series α) (labels : List String) (a : α) : Series α :=
  ⟨s.key, place s.key labels a s.rows, nodup_place labels a s.distinct⟩

def erase (s : Series α) (labels : List String) : Series α :=
  ⟨s.key, s.rows.filter (s.key ·.1 ≠ s.key labels),
    s.distinct.sublist (List.filter_sublist.map _)⟩

/-- Changes the value of a row, which is `initial` when it is new. -/
def update (s : Series α) (labels : List String) (initial : α) (f : α → α) : Series α :=
  s.insert labels (f ((s.find? labels).getD initial))

/-- Counts one more. -/
def count (s : Series Nat) (labels : List String) : Series Nat :=
  s.update labels 0 (· + 1)

@[simp] theorem key_insert (s : Series α) (labels : List String) (a : α) :
    (s.insert labels a).key = s.key := rfl

theorem lookup_place (labels k : List String) (a : α) (rows : List (List String × α)) :
    lookup key k (place key labels a rows) =
      if key labels = k then some a else lookup key k rows := by
  induction rows with
  | nil => rfl
  | cons e es ih => grind [place, lookup]

@[simp] theorem find?_insert (s : Series α) (labels other : List String) (a : α) :
    (s.insert labels a).find? other =
      if s.key labels = s.key other then some a else s.find? other :=
  lookup_place s.key labels (s.key other) a s.rows

theorem lookup_filter_ne (k other : List String) (rows : List (List String × α)) :
    lookup key other (rows.filter (key ·.1 ≠ k)) =
      if k = other then none else lookup key other rows := by
  induction rows with
  | nil => simp [lookup]
  | cons e es ih => grind [lookup]

theorem mem_erase {s : Series α} {labels : List String} {e : List String × α} :
    e ∈ (s.erase labels).rows ↔ e ∈ s.rows ∧ s.key e.1 ≠ s.key labels := by
  simp [erase]

@[simp] theorem find?_erase (s : Series α) (labels other : List String) :
    (s.erase labels).find? other =
      if s.key labels = s.key other then none else s.find? other :=
  lookup_filter_ne s.key (s.key labels) (s.key other) s.rows

end Series

/-- Durations sorted into buckets by their upper bounds, and their sum in seconds. -/
structure Histogram where
  /-- How many observations fell into each bucket and into none of those before. -/
  counts : List Nat
  sum : Float
  /-- How many observations there were in all. -/
  total : Nat
  deriving Repr

namespace Histogram

/-- The buckets' upper bounds in seconds; one without bound follows them. -/
def bounds : List Float :=
  [0.005, 0.01, 0.025, 0.05, 0.1, 0.25, 0.5, 1.0, 2.5, 5.0, 10.0]

instance : Inhabited Histogram := ⟨⟨bounds.map fun _ => 0, 0.0, 0⟩⟩

def empty : Histogram := default

/-- Adds one to the count of the first bucket that holds `x`. -/
def countIn (x : Float) : List Float → List Nat → List Nat
  | b :: bs, n :: ns => if x ≤ b then (n + 1) :: ns else n :: countIn x bs ns
  | _, ns => ns

def seconds (d : Duration) : Float :=
  Float.ofNat (d.nanos / 1000000000) + Float.ofNat (d.nanos % 1000000000) / 1000000000.0

def observe (h : Histogram) (d : Duration) : Histogram where
  counts := countIn (seconds d) bounds h.counts
  sum := h.sum + seconds d
  total := h.total + 1

/-- The number of observations up to each bound. -/
def cumulative (h : Histogram) : List Nat :=
  (h.counts.foldl (fun (acc, n) c => (acc ++ [n + c], n + c)) (([] : List Nat), 0)).1

end Histogram

end DnsBalancer
