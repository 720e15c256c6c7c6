import DnsBalancer.Location.Table
import Mathlib.Data.List.Nodup
import Mathlib.Data.List.Induction

/-!
# The most specific subnet

An address is in a subnet when it becomes the subnet's network once the bits after the prefix are
cleared. Subnets of one length that hold the same address are therefore the same network, so that
among the entries that hold an address the order matters only between repetitions of one network.
-/
namespace DnsBalancer

namespace Subnet

/-- The first `n` of `w` bits. -/
def mask (w n : Nat) : BitVec w := BitVec.allOnes w <<< (w - n)

/-- The address with the bits after the prefix cleared. -/
def maskAddress (bits : Nat) : Address → Address
  | .v4 a => .v4 (a &&& mask 32 bits)
  | .v6 a => .v6 (a &&& mask 128 bits)

/-- The subnet as its masked network. -/
def denoted (s : Subnet) : Subnet := ⟨maskAddress s.bits s.network, s.bits⟩

/-- Clearing the bits after a prefix is shifting them out and back in. -/
theorem agree_iff {w n : Nat} {a b : BitVec w} :
    agree n a b = true ↔ a &&& mask w n = b &&& mask w n := by
  have shifted (x : BitVec w) : x &&& mask w n = x >>> (w - n) <<< (w - n) :=
    BitVec.shiftLeft_ushiftRight.symm
  have kept (x : BitVec w) : (x &&& mask w n) >>> (w - n) = x >>> (w - n) := by
    apply BitVec.eq_of_getLsbD_eq
    intro i inside
    simp only [mask, BitVec.getLsbD_ushiftRight, BitVec.getLsbD_and, BitVec.getLsbD_shiftLeft,
      BitVec.getLsbD_allOnes]
    by_cases bound : w - n + i < w
    · simp [bound, inside]
    · simp [BitVec.getLsbD_of_ge x _ (Nat.not_lt.mp bound)]
  rw [agree, beq_iff_eq]
  constructor
  · intro same
    rw [shifted, shifted, same]
  · intro same
    rw [← kept a, ← kept b, same]

theorem contains_iff {s : Subnet} {a : Address} :
    s.contains a = true ↔ maskAddress s.bits s.network = maskAddress s.bits a.canonical := by
  rw [contains]
  cases s.network with
  | v4 network =>
    cases a.canonical with
    | v4 bits => simp only [agree_iff, maskAddress, Address.v4.injEq]
    | v6 bits => simp only [maskAddress, Bool.false_eq_true, reduceCtorEq]
  | v6 network =>
    cases a.canonical with
    | v4 bits => simp only [maskAddress, Bool.false_eq_true, reduceCtorEq]
    | v6 bits => simp only [agree_iff, maskAddress, Address.v6.injEq]

/-- Two subnets of one length that hold the same address are one network. -/
theorem denoted_eq {s t : Subnet} {a : Address} (first : s.contains a = true)
    (second : t.contains a = true) (length : s.bits = t.bits) : s.denoted = t.denoted := by
  have network : maskAddress s.bits s.network = maskAddress t.bits t.network := by
    rw [contains_iff.mp first, contains_iff.mp second, length]
  rw [denoted, denoted, network, length]

end Subnet

namespace LocationTable

/-- The last of the most specific entries. -/
def Longest (es : List LocationEntry) (e : LocationEntry) : Prop :=
  ∃ before after, es = before ++ e :: after ∧
    (∀ x ∈ before, x.subnet.bits ≤ e.subnet.bits) ∧ ∀ x ∈ after, x.subnet.bits < e.subnet.bits

/-- The entry that decides about an address: of those whose subnets hold it the most specific,
and of several such the one listed last. -/
def Decides (t : LocationTable) (a : Address) (e : LocationEntry) : Prop :=
  ∃ before after, t.entries = before ++ e :: after ∧ e.subnet.contains a = true ∧
    (∀ x ∈ before, x.subnet.contains a = true → x.subnet.bits ≤ e.subnet.bits) ∧
    ∀ x ∈ after, x.subnet.contains a = true → x.subnet.bits < e.subnet.bits

section

variable {es : List LocationEntry} {e : LocationEntry} {t : LocationTable} {a : Address}

theorem exists_longest (nonempty : es ≠ []) : ∃ e, Longest es e := by
  induction es using List.reverseRecOn with
  | nil => contradiction
  | append_singleton past x ih =>
    by_cases first : past = []
    · exact ⟨x, [], [], by simp [first], by simp, by simp⟩
    · obtain ⟨e, before, after, rfl, earlier, later⟩ := ih first
      by_cases shorter : x.subnet.bits < e.subnet.bits
      · refine ⟨e, before, after ++ [x], by simp, earlier, fun y member => ?_⟩
        rcases List.mem_append.mp member with kept | last
        · exact later y kept
        · rwa [List.mem_singleton.mp last]
      · have least := Nat.not_lt.mp shorter
        refine ⟨x, before ++ e :: after, [], by simp, fun y member => ?_, by simp⟩
        rcases List.mem_append.mp member with kept | kept
        · exact Nat.le_trans (earlier y kept) least
        · rcases List.mem_cons.mp kept with rfl | kept
          · exact least
          · exact Nat.le_trans (Nat.le_of_lt (later y kept)) least

theorem mem_of_foldl (held : es.foldl moreSpecific none = some e) : e ∈ es := by
  induction es using List.reverseRecOn generalizing e with
  | nil => cases held
  | append_singleton past x ih =>
    rw [List.foldl_concat] at held
    cases best : past.foldl moreSpecific none with
    | none =>
      rw [best, moreSpecific] at held
      simp [Option.some.inj held]
    | some b =>
      rw [best, moreSpecific] at held
      split at held
      · simp [Option.some.inj held]
      · obtain rfl := Option.some.inj held
        exact List.mem_append_left _ (ih best)

/-- The walk ends on the last of the most specific entries. -/
theorem foldl_of_longest (longest : Longest es e) : es.foldl moreSpecific none = some e := by
  obtain ⟨before, after, rfl, earlier, later⟩ := longest
  have taken : moreSpecific (before.foldl moreSpecific none) e = some e := by
    cases best : before.foldl moreSpecific none with
    | none => rfl
    | some b => rw [moreSpecific, if_pos (earlier b (mem_of_foldl best))]
  have kept : after.foldl moreSpecific (some e) = some e := by
    induction after with
    | nil => rfl
    | cons x after ih =>
      obtain ⟨shorter, rest⟩ := List.forall_mem_cons.mp later
      rw [List.foldl_cons, moreSpecific, if_neg (Nat.not_le.mpr shorter), ih rest]
  rw [List.foldl_append, List.foldl_cons, taken, kept]

theorem foldl_eq_some_iff : es.foldl moreSpecific none = some e ↔ Longest es e := by
  refine ⟨fun held => ?_, foldl_of_longest⟩
  obtain ⟨x, longest⟩ := exists_longest (List.ne_nil_of_mem (mem_of_foldl held))
  obtain rfl := Option.some.inj ((foldl_of_longest longest).symm.trans held)
  exact longest

theorem longest_filter_iff : Longest (t.entries.filter (·.subnet.contains a)) e ↔
    t.Decides a e := by
  constructor
  · rintro ⟨before, after, split, earlier, later⟩
    obtain ⟨front, rest, whole, rfl, kept⟩ := List.filter_eq_append_iff.mp split
    obtain ⟨out, back, rfl, outside, inside, rfl⟩ := List.filter_eq_cons_iff.mp kept
    refine ⟨front ++ out, back, by simp [whole], inside, fun x member held => ?_,
      fun x member held => later x (List.mem_filter.mpr ⟨member, held⟩)⟩
    rcases List.mem_append.mp member with member | member
    · exact earlier x (List.mem_filter.mpr ⟨member, held⟩)
    · exact absurd held (outside x member)
  · rintro ⟨before, after, split, inside, earlier, later⟩
    refine ⟨before.filter (·.subnet.contains a), after.filter (·.subnet.contains a), ?_, ?_, ?_⟩
    · rw [split, List.filter_append, List.filter_cons, if_pos inside]
    · intro x member
      exact earlier x (List.mem_of_mem_filter member) (List.mem_filter.mp member).2
    · intro x member
      exact later x (List.mem_of_mem_filter member) (List.mem_filter.mp member).2

theorem lookup_eq_some_iff {label : String} :
    t.lookup a = some label ↔ ∃ e, t.Decides a e ∧ e.location = label := by
  rw [lookup, Option.map_eq_some_iff]
  simp only [foldl_eq_some_iff, longest_filter_iff]

theorem exists_decides_iff :
    (∃ e, t.Decides a e) ↔ ∃ e ∈ t.entries, e.subnet.contains a = true := by
  constructor
  · rintro ⟨e, before, after, split, inside, _⟩
    exact ⟨e, by simp [split], inside⟩
  · rintro ⟨e, member, inside⟩
    have held : e ∈ t.entries.filter (·.subnet.contains a) := List.mem_filter.mpr ⟨member, inside⟩
    obtain ⟨x, longest⟩ := exists_longest (List.ne_nil_of_mem held)
    exact ⟨x, longest_filter_iff.mp longest⟩

theorem Decides.mem (decides : t.Decides a e) : e ∈ t.entries := by
  obtain ⟨before, after, split, _⟩ := decides
  simp [split]

theorem Decides.contains (decides : t.Decides a e) : e.subnet.contains a = true := by
  obtain ⟨_, _, _, inside, _⟩ := decides
  exact inside

theorem Decides.le (decides : t.Decides a e) {x : LocationEntry} (member : x ∈ t.entries)
    (inside : x.subnet.contains a = true) : x.subnet.bits ≤ e.subnet.bits := by
  obtain ⟨before, after, split, _, earlier, later⟩ := decides
  rw [split] at member
  rcases List.mem_append.mp member with member | member
  · exact earlier x member inside
  · rcases List.mem_cons.mp member with rfl | member
    · exact Nat.le_refl _
    · exact Nat.le_of_lt (later x member inside)

/-- Where no network is listed twice, the same entry decides in any order. -/
theorem decides_of_perm {u : LocationTable} (perm : u.entries.Perm t.entries)
    (distinct : (t.entries.map (·.subnet.denoted)).Nodup) (decides : u.Decides a e) :
    t.Decides a e := by
  have there : e ∈ t.entries := perm.mem_iff.mp decides.mem
  obtain ⟨x, other⟩ := exists_decides_iff.mpr ⟨e, there, decides.contains⟩
  -- Each holds the address in its table, so neither prefix is the longer one.
  have length : e.subnet.bits = x.subnet.bits :=
    Nat.le_antisymm (other.le there decides.contains)
      (decides.le (perm.mem_iff.mpr other.mem) other.contains)
  have network := Subnet.denoted_eq decides.contains other.contains length
  rwa [List.inj_on_of_nodup_map distinct there other.mem network]

theorem lookup_of_perm {u : LocationTable} (perm : u.entries.Perm t.entries)
    (distinct : (t.entries.map (·.subnet.denoted)).Nodup) (a : Address) :
    u.lookup a = t.lookup a := by
  have back : (u.entries.map (·.subnet.denoted)).Nodup := (perm.map _).nodup_iff.mpr distinct
  refine Option.ext fun label => ?_
  rw [lookup_eq_some_iff, lookup_eq_some_iff]
  refine exists_congr fun e => and_congr_left' ?_
  exact ⟨decides_of_perm perm distinct, decides_of_perm perm.symm back⟩

/-- A label is found just when some entry holds the address, and it is that of the last of the
most specific entries that do. An entry holds an address when both are the same under its mask,
whatever the kind of address and the length of the prefix, so entries of one length that hold it
are the same masked network. Where none of these is listed twice the order of the table says
nothing. -/
theorem lookup_most_specific (t : LocationTable) :
    (∀ a, (∃ label, t.lookup a = some label) ↔ ∃ e ∈ t.entries, e.subnet.contains a = true) ∧
    (∀ a label, t.lookup a = some label ↔ ∃ e, t.Decides a e ∧ e.location = label) ∧
    (∀ a, ∀ e ∈ t.entries, e.subnet.contains a = true ↔
      Subnet.maskAddress e.subnet.bits e.subnet.network =
        Subnet.maskAddress e.subnet.bits a.canonical) ∧
    (∀ a, ∀ e ∈ t.entries, ∀ f ∈ t.entries, e.subnet.contains a = true →
      f.subnet.contains a = true → e.subnet.bits = f.subnet.bits →
      e.subnet.denoted = f.subnet.denoted) ∧
    ((t.entries.map (·.subnet.denoted)).Nodup →
      ∀ u : LocationTable, u.entries.Perm t.entries → ∀ a, u.lookup a = t.lookup a) := by
  refine ⟨fun a => ?_, fun a label => lookup_eq_some_iff, fun a e _ => Subnet.contains_iff,
    fun a e _ f _ first second length => Subnet.denoted_eq first second length,
    fun distinct u perm a => lookup_of_perm perm distinct a⟩
  rw [← exists_decides_iff]
  simp only [lookup_eq_some_iff]
  rw [exists_comm]
  simp

end

/-- Subnets of every length within each other, with bits set after some of the prefixes. -/
def nested : LocationTable where
  entries := [
    ⟨⟨.v4 0x00000000#32, 0⟩, "anywhere"⟩,
    ⟨⟨.v4 0x0a010203#32, 32⟩, "host"⟩,
    ⟨⟨.v4 0x0a000000#32, 8⟩, "west"⟩,
    ⟨⟨.v4 0x0a010203#32, 16⟩, "central"⟩,
    ⟨⟨.v6 0x00000000000000000000ffff0a010203#128, 128⟩, "embedded"⟩,
    ⟨⟨.v6 0x20010db8000000000000000000000000#128, 32⟩, "lab"⟩]

/-- `::ffff:10.1.9.9` is looked for as `10.1.9.9`, and the table read backwards tells the same. -/
theorem lookup_most_specific_nested :
    ((nested.entries.map (·.subnet.denoted)).Nodup ∧
      nested.entries.reverse.Perm nested.entries) ∧
    nested.lookup (.v6 0x00000000000000000000ffff0a010909#128) = some "central" ∧
    (⟨nested.entries.reverse⟩ : LocationTable).lookup
      (.v6 0x00000000000000000000ffff0a010909#128) = some "central" := by
  have distinct : (nested.entries.map (·.subnet.denoted)).Nodup := by decide +kernel
  have perm : nested.entries.reverse.Perm nested.entries := List.reverse_perm _
  obtain ⟨_, _, _, _, unordered⟩ := lookup_most_specific nested
  have found : nested.lookup (.v6 0x00000000000000000000ffff0a010909#128) = some "central" := by
    decide +kernel
  exact ⟨⟨distinct, perm⟩, found, (unordered distinct ⟨_⟩ perm _).trans found⟩

end LocationTable

end DnsBalancer
