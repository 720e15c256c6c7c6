import DnsBalancer.Address
import DnsBalancer.Text.Blank
import DnsBalancer.Text.Decimal

/-!
# Addresses as text

IPv4 addresses are four decimal octets without leading zeros. IPv6 addresses are
eight groups of up to four hexadecimal digits, one run of zero groups may be
written `::`, and the last two groups may be an IPv4 address. An address is written
in its shortest form, the longest run of two or more zero groups as `::`.
-/
namespace DnsBalancer.Address

open Text

def octet? (s : List Char) : Option Nat :=
  if s.length ≤ 3 && (s.length == 1 || s.head? != some '0') then
    (Decimal.read? s).filter (· < 256)
  else none

/-- The 32 bits of a dotted address. -/
def dotted? (s : List Char) : Option Nat :=
  match (splitOn '.' s).map octet? with
  | [some a, some b, some c, some d] => some (((a * 256 + b) * 256 + c) * 256 + d)
  | _ => none

def group? (s : List Char) : Option Nat :=
  if s.length ≤ 4 then Decimal.readIn? 16 s else none

/-- The groups of a row such as `1:2:3`; with `tail`, the last item may be a dotted
address and counts for two. -/
def groups? (tail : Bool) : List (List Char) → Option (List Nat)
  | [] => some []
  | [last] =>
    match group? last with
    | some g => some [g]
    | none =>
      if tail then (dotted? last).map fun n => [n / 65536, n % 65536] else none
  | item :: rest =>
    match group? item, groups? tail rest with
    | some g, some gs => some (g :: gs)
    | _, _ => none

def side? (tail : Bool) (s : List Char) : Option (List Nat) :=
  if s.isEmpty then some [] else groups? tail (splitOn ':' s)

/-- The text before and after the first `::`. -/
def splitAtGap : List Char → Option (List Char × List Char)
  | ':' :: ':' :: rest => some ([], rest)
  | c :: rest => (splitAtGap rest).map fun (front, back) => (c :: front, back)
  | [] => none

/-- The eight groups of an IPv6 address. -/
def colonGroups? (s : List Char) : Option (List Nat) :=
  match splitAtGap s with
  | none => (groups? true (splitOn ':' s)).filter (·.length == 8)
  | some (front, back) =>
    match side? false front, side? true back with
    | some gs, some hs =>
      if gs.length + hs.length ≤ 7 then
        some (gs ++ List.replicate (8 - gs.length - hs.length) 0 ++ hs)
      else none
    | _, _ => none

def ofChars? (s : List Char) : Option Address :=
  match dotted? s with
  | some n => some (.v4 (BitVec.ofNat 32 n))
  | none =>
    (colonGroups? s).map fun gs =>
      .v6 (BitVec.ofNat 128 (gs.foldl (fun n g => n * 65536 + g) 0))

def parse? (s : String) : Option Address :=
  ofChars? s.toList

def hexDigit (n : Nat) : Char :=
  if n < 10 then Char.ofNat ('0'.toNat + n) else Char.ofNat ('a'.toNat + (n - 10))

/-- A group in hexadecimal, without leading zeros. -/
def groupChars (g : Nat) : List Char :=
  if g < 16 then [hexDigit g]
  else groupChars (g / 16) ++ [hexDigit (g % 16)]
termination_by g

def octetOf (n i : Nat) : List Char :=
  Decimal.digits (n / Nat.pow 256 (3 - i) % 256)

def dottedChars (n : Nat) : List Char :=
  octetOf n 0 ++ '.' :: octetOf n 1 ++ '.' :: octetOf n 2 ++ '.' :: octetOf n 3

/-- Start and length of the first longest run of zero groups. -/
def longestZeroRun (gs : List Nat) : Nat × Nat :=
  let runs := (List.range gs.length).map fun i => (i, ((gs.drop i).takeWhile (· == 0)).length)
  runs.foldl (fun best run => if best.2 < run.2 then run else best) (0, 0)

def joinGroups (gs : List Nat) : List Char :=
  [':'].intercalate (gs.map groupChars)

def toChars : Address → List Char
  | .v4 bits => dottedChars bits.toNat
  | .v6 bits =>
    match embedded? bits with
    | some inner => "::ffff:".toList ++ dottedChars inner.toNat
    | none =>
      let gs := (List.range 8).map fun i => bits.toNat / Nat.pow 65536 (7 - i) % 65536
      let run := longestZeroRun gs
      if 1 < run.2 then
        joinGroups (gs.take run.1) ++ [':', ':'] ++ joinGroups (gs.drop (run.1 + run.2))
      else joinGroups gs

def render (a : Address) : String :=
  String.ofList a.toChars

end DnsBalancer.Address
