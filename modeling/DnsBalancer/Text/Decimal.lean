/-!
# Decimal digits

Natural numbers in base ten: the digits written and the value read back, in both
the plain form and the forms that a base other than ten needs.
-/
namespace DnsBalancer.Text.Decimal

def digit (n : Nat) : Char :=
  Char.ofNat ('0'.toNat + n)

/-- The decimal digits of `n`, the most significant first and no leading zero. -/
def digits (n : Nat) : List Char :=
  if n < 10 then [digit n]
  else digits (n / 10) ++ [digit (n % 10)]
termination_by n

def render (n : Nat) : String :=
  String.ofList (digits n)

theorem digit_eq_digitChar : ∀ d < 10, digit d = Nat.digitChar d := by decide

theorem digits_eq_toDigits (n : Nat) : digits n = Nat.toDigits 10 n := by
  induction n using digits.induct with
  | case1 n small =>
    rw [digits, if_pos small, Nat.toDigits_of_lt_base small, digit_eq_digitChar n small]
  | case2 n large ih =>
    have last : n % 10 < 10 := Nat.mod_lt n (by decide)
    have front : 0 < n / 10 := Nat.div_pos (Nat.not_lt.mp large) (by decide)
    rw [digits, if_neg large, ih, digit_eq_digitChar _ last, ← Nat.toDigits_of_lt_base last,
      Nat.toDigits_append_toDigits (by decide) front last, Nat.div_add_mod]

/-- The text that Lean itself gives a natural number. -/
theorem render_eq_toString (n : Nat) : render n = toString n := by
  rw [render, digits_eq_toDigits]
  rfl

def renderInt : Int → String
  | .ofNat n => render n
  | .negSucc n => "-" ++ render (n + 1)

/-- The value of a row of decimal digits. -/
def value (s : List Char) : Nat :=
  s.foldl (fun n c => 10 * n + (c.toNat - '0'.toNat)) 0

/-- Reads a non-empty row of decimal digits and nothing else. -/
def read? (s : List Char) : Option Nat :=
  if s.isEmpty || !s.all Char.isDigit then none else some (value s)

/-- The value of one digit in a base up to sixteen. -/
def digitIn? (base : Nat) (c : Char) : Option Nat :=
  let n :=
    if c.isDigit then c.toNat - '0'.toNat
    else if 'a' ≤ c && c ≤ 'f' then c.toNat - 'a'.toNat + 10
    else if 'A' ≤ c && c ≤ 'F' then c.toNat - 'A'.toNat + 10
    else base
  if n < base then some n else none

/-- Reads a non-empty row of digits of the given base. -/
def readIn? (base : Nat) (s : List Char) : Option Nat :=
  if s.isEmpty then none
  else s.foldlM (fun n c => (digitIn? base c).map (base * n + ·)) 0

/-- Reads digits of the given base after an optional plus sign, up to a limit. -/
def readUnsigned? (base limit : Nat) (s : List Char) : Option Nat :=
  let body := match s with
    | '+' :: rest => rest
    | rest => rest
  (readIn? base body).filter (· ≤ limit)

/-- Reads digits of the given base after an optional sign, within the range of a
signed number of `bits` bits. -/
def readSigned? (base bits : Nat) (s : List Char) : Option Int :=
  match s with
  | '-' :: rest => ((readIn? base rest).filter (· ≤ Nat.pow 2 (bits - 1))).map fun n => -(n : Int)
  | _ => (readUnsigned? base (Nat.pow 2 (bits - 1) - 1) s).map Int.ofNat

end DnsBalancer.Text.Decimal
