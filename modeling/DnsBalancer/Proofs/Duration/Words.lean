import DnsBalancer.ConfigError
import DnsBalancer.Proofs.Duration.Terms

/-!
# Reading durations in machine words

The reading as it runs on the bytes of a text and on words of 128 bits. A cut inside of a
character, and a result of more bits where nobody checks for it, are stops of their own. Neither
is ever reached, the loop over the terms ends, and what the words hold is what the numbers are.
-/
namespace DnsBalancer.Duration.Words

open Text

/-- How the reading stops without a duration. -/
inductive Stop where
  /-- The text is no duration, or a checked result passes its word. -/
  | refused
  /-- A text is cut inside of a character or behind its end. -/
  | misplacedCut
  /-- A result passes its word where nobody checks for it. -/
  | overflow
  deriving DecidableEq, Repr

def bytes (s : List Char) : List UInt8 := s.flatMap String.utf8EncodeChar

def isDigitByte (b : UInt8) : Bool := 48 ≤ b && b ≤ 57

/-- The byte where the first character begins that satisfies `p`. Without one it is the end. -/
def find (p : Char → Bool) : List Char → Nat
  | [] => 0
  | c :: cs => if p c then 0 else c.utf8Size + find p cs

/-- The text in front of byte `i` and from there on. -/
def splitAt : List Char → Nat → Except Stop (List Char × List Char)
  | s, 0 => .ok ([], s)
  | [], _ + 1 => .error .misplacedCut
  | c :: cs, i + 1 =>
    if c.utf8Size ≤ i + 1 then
      (splitAt cs (i + 1 - c.utf8Size)).map fun (front, back) => (c :: front, back)
    else .error .misplacedCut

def checked (bits n : Nat) : Except Stop Nat :=
  if n < 2 ^ bits then .ok n else .error .refused

def unchecked (n : Nat) : Except Stop Nat :=
  if n < 2 ^ 128 then .ok n else .error .overflow

def orRefused {α : Type} : Option α → Except Stop α
  | some a => .ok a
  | none => .error .refused

/-- The number that a row of digits writes. -/
def word (bits : Nat) (s : List Char) : Except Stop Nat :=
  orRefused (Decimal.readUnsigned? 10 (2 ^ bits - 1) s)

/-- The places before the point, counted in units. -/
def scaledWhole (whole : List Char) (unit : Nat) : Except Stop Nat :=
  if whole.isEmpty then .ok 0 else do checked 128 ((← word 128 whole) * unit)

/-- `value` and the places behind the point. -/
def addFraction (fraction : List Char) (unit value : Nat) : Except Stop Nat := do
  let (kept, _) ← splitAt fraction (min (bytes fraction).length 18)
  if kept.isEmpty then return value
  let product ← unchecked ((← word 128 kept) * unit)
  let power ← unchecked (10 ^ (bytes kept).length)
  checked 128 (value + product / power)

def scaled (number : List Char) (unit : Nat) : Except Stop Nat :=
  let (whole, fraction) := (splitOnce '.' number).getD (number, [])
  if whole.isEmpty && fraction.isEmpty then .error .refused
  else if (bytes whole ++ bytes fraction).all isDigitByte then do
    addFraction fraction unit (← scaledWhole whole unit)
  else .error .refused

/-- The sum with the next term added, and the text behind that term. -/
def round (rest : List Char) (total : Nat) : Except Stop (Nat × List Char) := do
  let (number, tail) ← splitAt rest (find (!isNumberChar ·) rest)
  let (name, tail) ← splitAt tail (find isNumberChar tail)
  let unit ← orRefused (unitNanos? name)
  let term ← scaled number unit
  let total ← checked 128 (total + term)
  return (total, tail)

section

variable {p : Char → Bool} {s front back : List Char} {i bits n : Nat}

theorem ok_bind {α β : Type} (a : α) (f : α → Except Stop β) : (Except.ok a >>= f) = f a := rfl

theorem exists_of_bind {α β : Type} {x : Except Stop α} {f : α → Except Stop β} {b : β}
    (made : (x >>= f) = .ok b) : ∃ a, x = .ok a ∧ f a = .ok b := by
  cases x with
  | error stop => cases made
  | ok a => exact ⟨a, rfl, made⟩

@[simp] theorem bytes_nil : bytes [] = [] := rfl

@[simp] theorem length_bytes_cons (c : Char) (s : List Char) :
    (bytes (c :: s)).length = c.utf8Size + (bytes s).length := by
  rw [bytes, List.flatMap_cons, List.length_append, String.length_utf8EncodeChar]
  rfl

theorem splitAt_zero (s : List Char) : splitAt s 0 = .ok ([], s) := by
  cases s <;> rfl

theorem splitAt_cons {c : Char} (positive : 0 < i) :
    splitAt (c :: s) i = if c.utf8Size ≤ i then
      (splitAt s (i - c.utf8Size)).map fun (front, back) => (c :: front, back)
    else .error .misplacedCut := by
  obtain ⟨i, rfl⟩ := Nat.exists_eq_add_one_of_ne_zero (Nat.ne_of_gt positive)
  rfl

/-- A text is cut just where the bytes of a front end. -/
theorem splitAt_eq_ok_iff :
    splitAt s i = .ok (front, back) ↔ s = front ++ back ∧ (bytes front).length = i := by
  constructor
  · intro cut
    -- By the characters of the text, each of which takes its bytes off the place of the cut.
    induction s generalizing i front with
    | nil =>
      cases i with
      | zero =>
        cases cut
        exact ⟨rfl, rfl⟩
      | succ i => cases cut
    | cons c s ih =>
      by_cases start : i = 0
      · subst start
        cases cut
        exact ⟨rfl, rfl⟩
      · rw [splitAt_cons (Nat.pos_of_ne_zero start)] at cut
        split at cut
        · rename_i within
          cases later : splitAt s (i - c.utf8Size) with
          | error stop =>
            rw [later] at cut
            cases cut
          | ok parts =>
            rw [later] at cut
            cases cut
            obtain ⟨joined, length⟩ := ih later
            refine ⟨by rw [joined]; rfl, ?_⟩
            rw [length_bytes_cons, length, Nat.add_sub_of_le within]
        · cases cut
  · rintro ⟨rfl, rfl⟩
    induction front with
    | nil => exact splitAt_zero back
    | cons c front ih =>
      have positive := Char.utf8Size_pos c
      rw [List.cons_append, length_bytes_cons, splitAt_cons (by omega),
        if_pos (Nat.le_add_right _ _), Nat.add_sub_cancel_left, ih]
      rfl

/-- The places where a text can be cut are the positions in its UTF-8 string. -/
theorem splitAt_isValid (s : List Char) (i : Nat) :
    (∃ parts, splitAt s i = .ok parts) ↔ String.Pos.Raw.IsValid (String.ofList s) ⟨i⟩ := by
  rw [String.Pos.Raw.isValid_ofList]
  have size (t : List Char) : (String.ofList t).utf8ByteSize = (bytes t).length := by
    rw [← String.size_toByteArray, String.toByteArray_ofList, List.utf8Encode,
      List.size_toByteArray]
    rfl
  constructor
  · rintro ⟨⟨front, back⟩, cut⟩
    obtain ⟨rfl, length⟩ := splitAt_eq_ok_iff.mp cut
    exact ⟨front.length, by rw [List.take_left, size, length]⟩
  · rintro ⟨k, length⟩
    refine ⟨(s.take k, s.drop k), splitAt_eq_ok_iff.mpr ⟨(List.take_append_drop k s).symm, ?_⟩⟩
    rw [← size, ← length]

theorem isDigitByte_ofNat (n : Nat) :
    isDigitByte (UInt8.ofNat n) = (decide (48 ≤ n % 256) && decide (n % 256 ≤ 57)) := by
  simp [isDigitByte, UInt8.le_iff_toNat_le]

theorem isDigit_eq (c : Char) :
    c.isDigit = (decide (48 ≤ c.toNat) && decide (c.toNat ≤ 57)) := by
  rw [Bool.eq_iff_iff, Char.isDigit_iff_toNat]
  simp

/-- A character of several bytes begins with one that is no digit. -/
theorem all_isDigitByte (c : Char) :
    (String.utf8EncodeChar c).all isDigitByte = c.isDigit := by
  have value : c.val.toNat = c.toNat := rfl
  rw [isDigit_eq, String.utf8EncodeChar]
  simp only [value]
  by_cases ascii : c.toNat ≤ 127
  · have fits : c.toNat % 256 = c.toNat := by omega
    rw [if_pos ascii, List.all_cons, isDigitByte_ofNat, fits, List.all_nil, Bool.and_true]
  · have other : (decide (48 ≤ c.toNat) && decide (c.toNat ≤ 57)) = false := by
      simp only [Bool.and_eq_false_iff, decide_eq_false_iff_not]
      omega
    have lead (n : Nat) (low : 192 ≤ n) (high : n < 256) :
        isDigitByte (UInt8.ofNat n) = false := by
      rw [isDigitByte_ofNat, Bool.and_eq_false_iff, decide_eq_false_iff_not,
        decide_eq_false_iff_not]
      omega
    rw [other, if_neg ascii]
    split
    · rw [List.all_cons, lead _ (by omega) (by omega), Bool.false_and]
    · split <;> rw [List.all_cons, lead _ (by omega) (by omega), Bool.false_and]

theorem bytes_all (s : List Char) : (bytes s).all isDigitByte = s.all Char.isDigit := by
  rw [bytes, List.all_flatMap]
  simp only [all_isDigitByte]

/-- Digits are a byte each. -/
theorem length_bytes (digits : ∀ c ∈ s, c.isDigit = true) : (bytes s).length = s.length := by
  induction s with
  | nil => rfl
  | cons c s ih =>
    obtain ⟨first, rest⟩ := List.forall_mem_cons.mp digits
    have single : c.utf8Size = 1 := by
      have small : c.toNat ≤ 57 := (Char.isDigit_iff_toNat.mp first).2
      rw [Char.utf8Size_eq_one_iff, UInt32.le_iff_toNat_le]
      exact Nat.le_trans small (by decide)
    rw [length_bytes_cons, ih rest, single, List.length_cons, Nat.add_comm]

theorem splitAt_find (p : Char → Bool) (s : List Char) :
    splitAt s (find p s) = .ok (s.takeWhile (!p ·), s.dropWhile (!p ·)) := by
  rw [splitAt_eq_ok_iff]
  refine ⟨List.takeWhile_append_dropWhile.symm, ?_⟩
  induction s with
  | nil => rfl
  | cons c s ih =>
    rw [find]
    cases stops : p c with
    | true => simp [stops]
    | false => simp [stops, ih]

theorem splitOnce_getD (s : List Char) :
    (splitOnce '.' s).getD (s, []) =
      (s.takeWhile (· != '.'), (s.dropWhile (· != '.')).drop 1) := by
  induction s with
  | nil => rfl
  | cons c s ih =>
    rw [splitOnce]
    by_cases point : c = '.'
    · simp [point]
    · rw [if_neg point, List.takeWhile_cons_of_pos (by simpa using point),
        List.dropWhile_cons_of_pos (by simpa using point)]
      cases later : splitOnce '.' s with
      | none =>
        rw [later] at ih
        rw [← (Prod.mk.inj ih).1, ← (Prod.mk.inj ih).2]
        rfl
      | some parts =>
        rw [later] at ih
        rw [← (Prod.mk.inj ih).1, ← (Prod.mk.inj ih).2]
        rfl

theorem checked_of_lt (fits : n < 2 ^ bits) : checked bits n = .ok n := if_pos fits

theorem unchecked_of_lt (fits : n < 2 ^ 128) : unchecked n = .ok n := if_pos fits

theorem checked_of_le (passes : 2 ^ bits ≤ n) : checked bits n = .error .refused :=
  if_neg (Nat.not_lt.mpr passes)

/-- What follows a check has the number that fits. -/
theorem checked_bind {α : Type} {next : Nat → Except Stop α} {result : Except Stop α}
    (within : n < 2 ^ bits → next n = result)
    (beyond : 2 ^ bits ≤ n → result = .error .refused) : (checked bits n >>= next) = result := by
  rcases Nat.lt_or_ge n (2 ^ bits) with fits | passes
  · rw [checked_of_lt fits]
    exact within fits
  · rw [checked_of_le passes, beyond passes]
    rfl

/-- A check before another one that grants less goes without saying. -/
theorem checked_bind_checked {narrow m : Nat} {next : Nat → Except Stop Nat}
    (width : narrow ≤ bits) (grows : n ≤ m) (agrees : n < 2 ^ bits → next n = checked narrow m) :
    (checked bits n >>= next) = checked narrow m :=
  checked_bind agrees fun passes => checked_of_le
    (Nat.le_trans (Nat.pow_le_pow_right (by decide) width) (Nat.le_trans passes grows))

theorem word_digits (nonempty : s ≠ []) (digits : ∀ c ∈ s, c.isDigit = true) :
    word bits s = checked bits (Decimal.value s) := by
  have limit : Decimal.value s ≤ 2 ^ bits - 1 ↔ Decimal.value s < 2 ^ bits := by
    have positive : 0 < 2 ^ bits := Nat.pow_pos (by decide)
    omega
  rw [word, Decimal.readUnsigned?_ten nonempty digits, checked]
  simp only [limit]
  by_cases fits : Decimal.value s < 2 ^ bits
  · rw [if_pos fits, if_pos fits]
    rfl
  · rw [if_neg fits, if_neg fits]
    rfl

variable {unit : Nat}

theorem scaledWhole_eq (positive : 0 < unit) (digits : ∀ c ∈ s, c.isDigit = true) :
    scaledWhole s unit = checked 128 (Decimal.value s * unit) := by
  cases s with
  | nil => rw [Decimal.value_nil, Nat.zero_mul]; rfl
  | cons c s =>
    rw [scaledWhole, if_neg (by simp), word_digits (List.cons_ne_nil c s) digits]
    exact checked_bind_checked (Nat.le_refl _) (Nat.le_mul_of_pos_right _ positive) fun _ => rfl

/-- The eighteen digits, their product with the unit and the power of ten all fit a word. -/
theorem addFraction_eq (small : unit ≤ 10 ^ 18) (digits : ∀ c ∈ s, c.isDigit = true)
    {value : Nat} (fits : value < 2 ^ 128) :
    addFraction s unit value =
      checked 128 (value + Decimal.value (s.take 18) * unit / Nat.pow 10 (s.take 18).length) := by
  have inside : ∀ c ∈ s.take 18, c.isDigit = true := fun c member =>
    digits c (List.mem_of_mem_take member)
  have cut : splitAt s (min (bytes s).length 18) = .ok (s.take 18, s.drop 18) := by
    rw [splitAt_eq_ok_iff, length_bytes digits, length_bytes inside, List.length_take,
      Nat.min_comm]
    exact ⟨(List.take_append_drop 18 s).symm, rfl⟩
  rw [addFraction, cut, ok_bind]
  dsimp only
  by_cases empty : s.take 18 = []
  · rw [if_pos (by simp [empty]), empty, Decimal.value_nil, Nat.zero_mul, Nat.zero_div,
      Nat.add_zero, checked_of_lt fits]
    rfl
  · have power : (10 : ℕ) ^ (s.take 18).length ≤ 10 ^ 18 :=
      Nat.pow_le_pow_right (by decide) (List.length_take_le 18 s)
    have below : Decimal.value (s.take 18) < 10 ^ 18 :=
      Nat.lt_of_lt_of_le (Decimal.value_lt inside) power
    have product : Decimal.value (s.take 18) * unit ≤ 10 ^ 18 * 10 ^ 18 :=
      Nat.mul_le_mul (Nat.le_of_lt below) small
    have room : (10 : ℕ) ^ 18 * 10 ^ 18 < 2 ^ 128 := by decide
    rw [if_neg (by simpa using empty), word_digits empty inside, length_bytes inside,
      checked_of_lt (by omega), ok_bind, unchecked_of_lt (by omega), ok_bind,
      unchecked_of_lt (Nat.lt_of_le_of_lt power (by decide)), ok_bind]
    rfl

/-- A number in words is the number, and where it is refused it passes the widest word. -/
theorem scaled_eq (positive : 0 < unit) (small : unit ≤ 10 ^ 18) (s : List Char) :
    scaled s unit = orRefused (scaled? s unit) >>= checked 128 := by
  rw [scaled, splitOnce_getD, scaled?]
  generalize s.takeWhile (· != '.') = whole
  generalize (s.dropWhile (· != '.')).drop 1 = fraction
  dsimp only
  split
  · rfl
  · rw [List.all_append, bytes_all, bytes_all, ← List.all_append]
    split
    · rename_i digits
      obtain ⟨front, back⟩ := List.forall_mem_append.mp (List.all_eq_true.mp digits)
      rw [scaledWhole_eq positive front]
      exact checked_bind_checked (Nat.le_refl _) (Nat.le_add_right _ _) fun fits =>
        addFraction_eq small back fits
    · rfl

/-- The next term is read off the characters, and only a sum that passes the word is refused on
top of what is no term. -/
theorem round_eq (s : List Char) (total : Nat) :
    round s total =
      orRefused (unitNanos? ((s.dropWhile isNumberChar).takeWhile (!isNumberChar ·))) >>=
        fun unit => orRefused (scaled? (s.takeWhile isNumberChar) unit) >>= fun term =>
          checked 128 (total + term) >>= fun total =>
            .ok (total, (s.dropWhile isNumberChar).dropWhile (!isNumberChar ·)) := by
  have number : splitAt s (find (!isNumberChar ·) s) =
      .ok (s.takeWhile isNumberChar, s.dropWhile isNumberChar) := by
    simpa using splitAt_find (!isNumberChar ·) s
  rw [round, number, ok_bind]
  dsimp only
  rw [splitAt_find, ok_bind]
  dsimp only
  cases named : unitNanos? ((s.dropWhile isNumberChar).takeWhile (!isNumberChar ·)) with
  | none => rfl
  | some unit =>
    obtain ⟨positive, small, _⟩ := units_bounded _ (unitNanos?_eq_some_iff.mp named)
    rw [orRefused, ok_bind, ok_bind, scaled_eq positive small]
    cases scaled? (s.takeWhile isNumberChar) unit with
    | none => rfl
    | some term =>
      have sum : (checked 128 term >>= fun term => checked 128 (total + term)) =
          checked 128 (total + term) :=
        checked_bind_checked (Nat.le_refl _) (Nat.le_add_left term total) fun _ => rfl
      rw [orRefused, ok_bind, ok_bind, ← sum, bind_assoc]
      rfl

/-- Each round takes something off the text. -/
theorem length_round_lt {c : Char} {total : Nat}
    (turn : round (c :: s) total = .ok (n, back)) : back.length < (c :: s).length := by
  rw [round_eq] at turn
  obtain ⟨_, _, turn⟩ := exists_of_bind turn
  obtain ⟨_, _, turn⟩ := exists_of_bind turn
  obtain ⟨_, _, turn⟩ := exists_of_bind turn
  cases turn
  exact length_after_term_lt c s

end

/-- The rounds until the text has ended. -/
def sum : List Char → Nat → Except Stop Nat
  | [], total => .ok total
  | c :: cs, total =>
    match _turn : round (c :: cs) total with
    | .ok (total, rest) => sum rest total
    | .error stop => .error stop
termination_by s => s.length
decreasing_by exact length_round_lt _turn

/-- A duration from a text. -/
def read (text : String) : Except Stop Duration :=
  let s := trimBlank text.toList
  if s.isEmpty then .error .refused
  else if (bytes s).all isDigitByte then do return ofSeconds (← word 64 s)
  else do return ⟨← checked 64 (← sum s 0)⟩

/-- A duration from a text, or the error that names the text. The other stops remain. -/
def parse (text : String) : Except Stop (Except ConfigError Duration) :=
  match read text with
  | .ok d => .ok (.ok d)
  | .error .refused => .ok (.error (.invalidDuration (trim text)))
  | .error stop => .error stop

theorem sum_cons (c : Char) (cs : List Char) (total : Nat) :
    sum (c :: cs) total = round (c :: cs) total >>= fun (total, rest) => sum rest total := by
  rw [sum]
  split
  · rename_i turn
    rw [turn]
    rfl
  · rename_i turn
    rw [turn]
    rfl

/-- The loop adds up what the terms come to, or refuses the text. -/
theorem sum_eq : ∀ (s : List Char) (total : Nat), total < 2 ^ 128 →
    sum s total = orRefused (termsNanos? s) >>= fun n => checked 128 (total + n)
  | [], total, fits => by
    rw [sum, termsNanos?, orRefused, ok_bind, Nat.add_zero, checked_of_lt fits]
  -- By the rounds. A sum that passes the word on the way has a whole that passes it.
  | c :: cs, total, _ => by
    rw [sum_cons, round_eq, termsNanos?_eq (List.cons_ne_nil c cs)]
    cases unitNanos? (((c :: cs).dropWhile isNumberChar).takeWhile (!isNumberChar ·)) with
    | none => rfl
    | some unit =>
      rw [orRefused, ok_bind, Option.bind_some]
      cases scaled? ((c :: cs).takeWhile isNumberChar) unit with
      | none => rfl
      | some term =>
        rw [orRefused, ok_bind, Option.bind_some, bind_assoc]
        have later (next : Nat) (fits : next < 2 ^ 128) :=
          sum_eq (((c :: cs).dropWhile isNumberChar).dropWhile (!isNumberChar ·)) next fits
        cases summed :
            termsNanos? (((c :: cs).dropWhile isNumberChar).dropWhile (!isNumberChar ·)) with
        | none =>
          rw [summed] at later
          exact checked_bind (later _) fun _ => rfl
        | some n =>
          rw [summed] at later
          rw [Option.map_some, orRefused, ok_bind, ← Nat.add_assoc]
          exact checked_bind_checked (Nat.le_refl _) (Nat.le_add_right _ _) (later _)
termination_by s => s.length
decreasing_by exact length_after_term_lt c cs

/-- The text is read as the duration it writes, or refused. -/
theorem read_eq (text : String) : read text = orRefused (Duration.parse? text) := by
  rw [read, Duration.parse?, ofChars?]
  generalize trimBlank text.toList = s
  split
  · rfl
  · rename_i some
    have within {d : Duration} {n : Nat} (fits : n < 2 ^ 64) :
        Except.ok d = orRefused (if n < Nat.pow 2 64 then Option.some d else none) := by
      rw [Nat.pow_eq, if_pos fits]
      rfl
    have beyond {d : Duration} {n : Nat} (passes : 2 ^ 64 ≤ n) :
        orRefused (if n < Nat.pow 2 64 then Option.some d else none) = .error .refused := by
      rw [Nat.pow_eq, if_neg (Nat.not_lt.mpr passes)]
      rfl
    rw [bytes_all]
    split
    · rename_i digits
      rw [word_digits (by simpa using some) (List.all_eq_true.mp digits)]
      exact checked_bind within beyond
    · rw [sum_eq s 0 (by decide)]
      cases termsNanos? s with
      | none => rfl
      | some n =>
        rw [orRefused, ok_bind, Nat.zero_add, ← bind_assoc,
          checked_bind_checked (by decide) (Nat.le_refl n) fun _ => rfl]
        exact checked_bind within beyond

/-- The text is read as the duration it writes, or else the error names it. -/
theorem parse_eq (text : String) :
    parse text = .ok ((Duration.parse? text).elim (.error (.invalidDuration (trim text))) .ok) := by
  rw [parse, read_eq]
  cases Duration.parse? text <;> rfl

/-- The reading comes to an end on every text, with no cut inside of a character and no overflow
that nobody checks for. It gives a duration for the written forms and for nothing else, and two
rows of terms after one another are read as their sum when it fits. -/
theorem parse_written :
    (∀ text, parse text =
      .ok ((Duration.parse? text).elim (.error (.invalidDuration (trim text))) .ok)) ∧
    (∀ text d, parse text = .ok (.ok d) ↔ Written (trimBlank text.toList) d) ∧
    ∀ (s t : String) (d e : Duration), Compound s → Compound t →
      parse s = .ok (.ok d) → parse t = .ok (.ok e) → d.nanos + e.nanos ≤ 2 ^ 64 - 1 →
      parse (s ++ t) = .ok (.ok (d + e)) := by
  have reads (text : String) (d : Duration) :
      parse text = .ok (.ok d) ↔ Duration.parse? text = some d := by
    rw [parse_eq]
    cases Duration.parse? text <;> simp
  refine ⟨parse_eq, fun text d => (reads text d).trans parse?_eq_some_iff, ?_⟩
  intro s t d e first second front back fits
  exact (reads _ _).mpr
    (parse?_append first second ((reads _ _).mp front) ((reads _ _).mp back) fits)

theorem parse_written_micros : Compound "1.5s" ∧ Compound ".25µs" ∧
    parse "1.5s" = .ok (.ok ⟨1500000000⟩) ∧ parse ".25µs" = .ok (.ok ⟨250⟩) ∧
    1500000000 + 250 ≤ 2 ^ 64 - 1 ∧ parse ("1.5s" ++ ".25µs") = .ok (.ok ⟨1500000250⟩) := by
  have seconds : Compound "1.5s" :=
    ⟨[⟨⟨['1'], some ['5'], List.all_eq_true.mp (by decide), by decide⟩, ['s'], 1000000000,
      by decide⟩], by decide, rfl⟩
  have micros : Compound ".25µs" :=
    ⟨[⟨⟨[], some ['2', '5'], List.all_eq_true.mp (by decide), by decide⟩, ['µ', 's'], 1000,
      by decide⟩], by decide, rfl⟩
  have front : parse "1.5s" = .ok (.ok ⟨1500000000⟩) := by decide +kernel
  have back : parse ".25µs" = .ok (.ok ⟨250⟩) := by decide +kernel
  have fits : 1500000000 + 250 ≤ 2 ^ 64 - 1 := by decide
  obtain ⟨_, _, appended⟩ := parse_written
  exact ⟨seconds, micros, front, back, fits, appended _ _ _ _ seconds micros front back fits⟩

end DnsBalancer.Duration.Words
