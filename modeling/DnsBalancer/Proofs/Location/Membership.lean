import DnsBalancer.Proofs.Address
import DnsBalancer.Proofs.Location.Lookup

/-!
# Membership in subnets

A subnet holds the addresses of its network's family that share the network's first bits. An
address that embeds an IPv4 one is asked about as that one. A network that embeds one stays as it
is written, so that no address is left for it to hold once its prefix covers the embedding.
-/
namespace DnsBalancer

/-- Two addresses of one kind that have the same first `n` bits. -/
def Address.Agree (n : Nat) : Address → Address → Prop
  | .v4 a, .v4 b => ∀ i < n, a.getMsbD i = b.getMsbD i
  | .v6 a, .v6 b => ∀ i < n, a.getMsbD i = b.getMsbD i
  | _, _ => False

instance (n : Nat) : (a b : Address) → Decidable (a.Agree n b)
  | .v4 a, .v4 b => inferInstanceAs (Decidable (∀ i < n, a.getMsbD i = b.getMsbD i))
  | .v6 a, .v6 b => inferInstanceAs (Decidable (∀ i < n, a.getMsbD i = b.getMsbD i))
  | .v4 _, .v6 _ => inferInstanceAs (Decidable False)
  | .v6 _, .v4 _ => inferInstanceAs (Decidable False)

namespace Subnet

/-- The subnet of the IPv4 addresses that the network's embedding leaves, where it is one. -/
def canonical (s : Subnet) : Subnet :=
  match s.network.canonical with
  | .v4 bits => ⟨.v4 bits, s.bits - (width s.network - 32)⟩
  | .v6 bits => ⟨.v6 bits, s.bits⟩

/-- The address is of the subnet's family and shares its prefix, an embedded IPv4 address taken for
itself on both sides. -/
def Covers (s : Subnet) (a : Address) : Prop :=
  s.canonical.network.Agree s.canonical.bits a.canonical

instance (s : Subnet) (a : Address) : Decidable (s.Covers a) :=
  inferInstanceAs (Decidable (s.canonical.network.Agree s.canonical.bits a.canonical))

/-- A shift in a word, which overflows where nothing of the word is left. -/
def shiftLeft? {w : Nat} (a : BitVec w) (n : Nat) : Option (BitVec w) :=
  if n < w then some (a <<< n) else none

/-- The mask of a prefix, which the shift makes but for the empty one. -/
def prefixMask? (w n : Nat) : Option (BitVec w) :=
  if n = 0 then some 0
  else if n ≤ w then shiftLeft? (BitVec.allOnes w) (w - n) else none

/-- Membership by masked words. Nothing is the answer where a shift overflows. -/
def containsMasked? (s : Subnet) (a : Address) : Option Bool :=
  match s.network, a.canonical with
  | .v4 network, .v4 bits =>
    (prefixMask? 32 s.bits).map fun m => network &&& m == bits &&& m
  | .v6 network, .v6 bits =>
    (prefixMask? 128 s.bits).map fun m => network &&& m == bits &&& m
  | _, _ => some false

end Subnet

namespace Address

variable {a b c : Address} {n : Nat}

theorem Agree.refl : ∀ a : Address, a.Agree n a
  | .v4 _ => fun _ _ => rfl
  | .v6 _ => fun _ _ => rfl

theorem Agree.symm (same : a.Agree n b) : b.Agree n a := by
  cases a <;> cases b
  · exact fun i bound => (same i bound).symm
  · exact same
  · exact same
  · exact fun i bound => (same i bound).symm

theorem Agree.trans (first : a.Agree n b) (second : b.Agree n c) : a.Agree n c := by
  cases a <;> cases b <;> cases c <;> first
    | exact fun i bound => (first i bound).trans (second i bound)
    | exact False.elim first
    | exact False.elim second

end Address

namespace Subnet

variable {s : Subnet} {a : Address} {w n : Nat}

theorem getMsbD_mask (fits : n ≤ w) (i : Nat) : (mask w n).getMsbD i = decide (i < n) := by
  rw [mask, BitVec.getMsbD_shiftLeft, BitVec.getMsbD_allOnes]
  congr 1
  rw [eq_iff_iff]
  omega

theorem agree_iff_getMsbD (fits : n ≤ w) {a b : BitVec w} :
    agree n a b = true ↔ ∀ i < n, a.getMsbD i = b.getMsbD i := by
  rw [agree_iff]
  constructor
  · intro same i bound
    have bit := congrArg (BitVec.getMsbD · i) same
    simpa [getMsbD_mask fits, bound] using bit
  · intro same
    refine BitVec.eq_of_getMsbD_eq fun i _ => ?_
    rw [BitVec.getMsbD_and, BitVec.getMsbD_and, getMsbD_mask fits]
    by_cases bound : i < n
    · rw [same i bound]
    · simp [bound]

theorem contains_iff_agree (fits : s.bits ≤ width s.network) :
    s.contains a = true ↔ s.network.Agree s.bits a.canonical := by
  rw [contains]
  cases network : s.network with
  | v4 bits =>
    rw [network] at fits
    cases a.canonical with
    | v4 other => exact agree_iff_getMsbD fits
    | v6 other => simp [Address.Agree]
  | v6 bits =>
    rw [network] at fits
    cases a.canonical with
    | v4 other => simp [Address.Agree]
    | v6 other => exact agree_iff_getMsbD fits

theorem prefixMask?_eq (fits : n ≤ w) : prefixMask? w n = some (mask w n) := by
  rw [prefixMask?, mask]
  split
  · rename_i empty
    rw [empty, Nat.sub_zero, BitVec.shiftLeft_eq_zero (Nat.le_refl w)]
    rfl
  · rw [shiftLeft?, if_pos (by omega)]

/-- No shift overflows for the prefixes that a network of the kind can have. -/
theorem containsMasked?_eq (fits : s.bits ≤ width s.network) :
    s.containsMasked? a = some (s.contains a) := by
  have masked {w : Nat} (fits : s.bits ≤ w) (x y : BitVec w) :
      (prefixMask? w s.bits).map (fun m => x &&& m == y &&& m) = some (agree s.bits x y) := by
    rw [prefixMask?_eq fits, Option.map_some, Option.some_inj, Bool.eq_iff_iff, agree_iff,
      beq_iff_eq]
  rw [containsMasked?, contains]
  cases network : s.network with
  | v4 bits =>
    rw [network] at fits
    cases a.canonical with
    | v4 other => exact masked fits bits other
    | v6 other => rfl
  | v6 bits =>
    rw [network] at fits
    cases a.canonical with
    | v4 other => rfl
    | v6 other => exact masked fits bits other

theorem le_width_of_parse? {text : String} (read : parse? text = some s) :
    s.bits ≤ width s.network := by
  rw [parse?, ofChars?] at read
  split at read
  · cases read
  · split at read
    · split at read
      · rename_i fits
        obtain rfl := Option.some.inj read
        exact fits
      · cases read
    · cases read

theorem canonical_of_plain (plain : s.network.canonical = s.network) : s.canonical = s := by
  rw [canonical, plain]
  obtain ⟨network, bits⟩ := s
  cases network <;> rfl

/-- Addresses that share the bits of the embedding embed an IPv4 address alike. -/
theorem embedded?_eq_none_iff {a b : BitVec 128} (same : agree 96 a b = true) :
    Address.embedded? a = none ↔ Address.embedded? b = none := by
  have front : a.toNat / Nat.pow 2 32 = b.toNat / Nat.pow 2 32 := by
    have shifted := congrArg BitVec.toNat (beq_iff_eq.mp same)
    rwa [BitVec.toNat_ushiftRight, BitVec.toNat_ushiftRight, Nat.shiftRight_eq_div_pow,
      Nat.shiftRight_eq_div_pow] at shifted
  rw [Address.embedded?, Address.embedded?, front]
  split <;> simp

/-- A network that embeds an IPv4 address holds nothing once its prefix covers the embedding. -/
theorem contains_of_embedded (fits : s.bits ≤ width s.network)
    (embeds : s.network.canonical ≠ s.network) (long : 96 ≤ s.bits) (a : Address) :
    s.contains a = false := by
  rw [Bool.eq_false_iff]
  intro inside
  have shared := (contains_iff_agree fits).mp inside
  -- Only an address that embeds none is asked about as IPv6, and then its prefix is another.
  cases network : s.network with
  | v4 bits => exact embeds (by rw [network]; rfl)
  | v6 bits =>
    rw [network] at shared fits embeds
    cases asked : a.canonical with
    | v4 other =>
      rw [asked] at shared
      exact shared
    | v6 other =>
      rw [asked] at shared
      have same : agree 96 bits other = true :=
        (agree_iff_getMsbD (by decide)).mpr fun i bound => shared i (by omega)
      exact embeds (Address.canonical_of_plain
        ((embedded?_eq_none_iff same).mpr (Address.embedded?_of_canonical asked)))

theorem covers_network (s : Subnet) : s.Covers s.network := by
  have network : s.canonical.network = s.network.canonical := by
    rw [canonical]
    cases s.network.canonical <;> rfl
  rw [Covers, network]
  exact Address.Agree.refl _

/-- A subnet that is read holds the addresses that share its network's prefix as it is written, no
shift overflows on the way, and what the network has behind the prefix makes no difference. Unless
the network embeds an IPv4 address this is membership by prefix, and the network is a member. One
that embeds an IPv4 address, with the embedding in its prefix, has itself and others for members
and holds none. -/
theorem contains_prefix : ∀ text s, parse? text = some s →
    (∀ a, s.containsMasked? a = some (s.contains a)) ∧
    (∀ a, s.contains a = true ↔ s.network.Agree s.bits a.canonical) ∧
    (∀ network, s.network.Agree s.bits network →
      ∀ a, contains ⟨network, s.bits⟩ a = s.contains a) ∧
    (s.network.canonical = s.network →
      (∀ a, s.contains a = true ↔ s.Covers a) ∧ s.contains s.network = true) ∧
    (s.network.canonical ≠ s.network → 96 ≤ s.bits →
      s.Covers s.network ∧ ∀ a, s.contains a = false) := by
  intro text s read
  have fits := le_width_of_parse? read
  refine ⟨fun a => containsMasked?_eq fits, fun a => contains_iff_agree fits, ?_, ?_, ?_⟩
  · intro network same a
    have other : s.bits ≤ width network := by
      cases written : s.network <;> cases network <;> rw [written] at same fits
      · exact fits
      · exact same.elim
      · exact same.elim
      · exact fits
    rw [Bool.eq_iff_iff, contains_iff_agree (s := ⟨network, s.bits⟩) other,
      contains_iff_agree fits]
    exact ⟨same.trans, same.symm.trans⟩
  · intro plain
    have covers (a : Address) : s.contains a = true ↔ s.Covers a := by
      rw [Covers, canonical_of_plain plain]
      exact contains_iff_agree fits
    exact ⟨covers, (covers _).mpr s.covers_network⟩
  · exact fun embeds long => ⟨s.covers_network, contains_of_embedded fits embeds long⟩

/-- A network with bits set behind its prefix. -/
theorem contains_prefix_hosted : parse? "10.1.2.3/9" = some ⟨.v4 0x0a010203#32, 9⟩ ∧
    (Address.v4 0x0a010203#32).Agree 9 (.v4 0x0a7f0000#32) ∧
    (Address.v4 0x0a010203#32).canonical = .v4 0x0a010203#32 ∧
    (∀ a, contains ⟨.v4 0x0a7f0000#32, 9⟩ a = contains ⟨.v4 0x0a010203#32, 9⟩ a) ∧
    contains ⟨.v4 0x0a010203#32, 9⟩ (.v4 0x0a010203#32) = true ∧
    parse? "::ffff:10.0.0.0/104" = some ⟨.v6 0xffff0a000000#128, 104⟩ ∧
    (Address.v6 0xffff0a000000#128).canonical ≠ .v6 0xffff0a000000#128 ∧ 96 ≤ 104 ∧
    Covers ⟨.v6 0xffff0a000000#128, 104⟩ (.v6 0xffff0a000000#128) := by
  have plain : parse? "10.1.2.3/9" = some ⟨.v4 0x0a010203#32, 9⟩ := by decide +kernel
  have embedded : parse? "::ffff:10.0.0.0/104" = some ⟨.v6 0xffff0a000000#128, 104⟩ := by
    decide +kernel
  have same : (Address.v4 0x0a010203#32).Agree 9 (.v4 0x0a7f0000#32) := by decide
  have embeds : (Address.v6 0xffff0a000000#128).canonical ≠ .v6 0xffff0a000000#128 := by decide
  obtain ⟨_, _, hosts, prefixed, _⟩ := contains_prefix _ _ plain
  obtain ⟨_, _, _, _, excluded⟩ := contains_prefix _ _ embedded
  exact ⟨plain, same, rfl, hosts _ same, (prefixed rfl).2, embedded, embeds, by decide,
    (excluded embeds (by decide)).1⟩

/-- `10.1.2.3` is of the network `10.0.0.0/8` that the text embeds, and the network is its own
first member; neither is held. -/
theorem not_contains_embedded :
    parse? "::ffff:10.0.0.0/104" = some ⟨.v6 0xffff0a000000#128, 104⟩ ∧
    canonical ⟨.v6 0xffff0a000000#128, 104⟩ = ⟨.v4 0x0a000000#32, 8⟩ ∧
    Covers ⟨.v6 0xffff0a000000#128, 104⟩ (.v4 0x0a010203#32) ∧
    contains ⟨.v6 0xffff0a000000#128, 104⟩ (.v4 0x0a010203#32) = false ∧
    Covers ⟨.v6 0xffff0a000000#128, 104⟩ (.v6 0xffff0a000000#128) ∧
    contains ⟨.v6 0xffff0a000000#128, 104⟩ (.v6 0xffff0a000000#128) = false := by
  decide +kernel

end Subnet

end DnsBalancer
