import DnsBalancer.Proofs.DomainName
import DnsBalancer.Proofs.Duration.Numeral

/-!
# The grammar of durations

A duration is written as a number of seconds, or as a row of numbers each followed by its unit.
No unit has a character that a number can have, so that the text tells where the terms end, and
two rows of terms after one another are a row of terms.
-/
namespace DnsBalancer.Duration

open Text

/-- A number and its unit. -/
structure Term where
  number : Numeral
  name : List Char
  unit : Nat
  listed : (name, unit) ∈ units

namespace Term

def toChars (t : Term) : List Char := t.number.toChars ++ t.name

def nanos (t : Term) : Nat := t.number.scaled t.unit

/-- A row of terms, nothing between them. -/
def text (ts : List Term) : List Char := ts.flatMap toChars

def total (ts : List Term) : Nat := (ts.map nanos).sum

end Term

/-- How a duration may be written. -/
inductive Written : List Char → Duration → Prop where
  | seconds {s : List Char} (nonempty : s ≠ []) (digits : ∀ c ∈ s, c.isDigit = true)
      (fits : Decimal.value s ≤ 2 ^ 64 - 1) : Written s (ofSeconds (Decimal.value s))
  | terms {ts : List Term} (nonempty : ts ≠ []) (fits : Term.total ts ≤ 2 ^ 64 - 1) :
      Written (Term.text ts) ⟨Term.total ts⟩

theorem units_named : ∀ u ∈ units, u.1 ≠ [] ∧
    u.1.all (fun c => !isNumberChar c && !isBlank c) = true := by
  decide

theorem isBlank_of_isNumberChar {c : Char} (number : isNumberChar c = true) :
    isBlank c = false := by
  rcases Bool.or_eq_true _ _ |>.mp number with digit | point
  · obtain ⟨low, high⟩ := Char.isDigit_iff_toNat.mp digit
    have least : '0'.toNat = 48 := rfl
    have greatest : '9'.toNat = 57 := rfl
    rw [Bool.eq_false_iff, isBlank]
    simp only [ne_eq, Bool.or_eq_true, Bool.and_eq_true, decide_eq_true_eq, beq_iff_eq]
    omega
  · obtain rfl := beq_iff_eq.mp point
    rfl

namespace Term

variable {t : Term} {ts us : List Term} {s : List Char} {n : Nat}

@[simp] theorem text_nil : text [] = [] := rfl

@[simp] theorem text_cons : text (t :: ts) = t.number.toChars ++ (t.name ++ text ts) := by
  rw [text, List.flatMap_cons, toChars, List.append_assoc]
  rfl

theorem text_append : text (ts ++ us) = text ts ++ text us := List.flatMap_append

@[simp] theorem total_nil : total [] = 0 := rfl

@[simp] theorem total_cons : total (t :: ts) = t.nanos + total ts := rfl

theorem total_append : total (ts ++ us) = total ts + total us := by
  rw [total, List.map_append, List.sum_append]
  rfl

theorem name_ne_nil (t : Term) : t.name ≠ [] := (units_named _ t.listed).1

theorem plain_of_mem_name {c : Char} (member : c ∈ t.name) :
    isNumberChar c = false ∧ isBlank c = false := by
  have plain := List.all_eq_true.mp (units_named _ t.listed).2 c member
  simpa using plain

theorem text_ne_nil (nonempty : ts ≠ []) : text ts ≠ [] := by
  cases ts with
  | nil => contradiction
  | cons t ts => simp [t.number.toChars_ne_nil]

theorem isNumberChar_of_head?_name {c : Char} (first : (t.name ++ s).head? = some c) :
    isNumberChar c = false := by
  obtain ⟨d, rest, split⟩ := List.exists_cons_of_ne_nil t.name_ne_nil
  rw [split] at first
  obtain rfl := Option.some.inj first
  exact (plain_of_mem_name (t := t) (by simp [split])).1

/-- A row of terms begins with a number. -/
theorem isNumberChar_of_head? {c : Char} (first : (text ts).head? = some c) :
    isNumberChar c = true := by
  cases ts with
  | nil => cases first
  | cons t ts =>
    obtain ⟨d, rest, split⟩ := List.exists_cons_of_ne_nil t.number.toChars_ne_nil
    rw [text_cons, split] at first
    obtain rfl := Option.some.inj first
    exact Numeral.isNumberChar_of_mem (n := t.number) (by simp [split])

theorem isBlank_of_mem {c : Char} (member : c ∈ text ts) : isBlank c = false := by
  obtain ⟨t, _, inside⟩ := List.mem_flatMap.mp member
  rcases List.mem_append.mp inside with number | name
  · exact isBlank_of_isNumberChar (Numeral.isNumberChar_of_mem number)
  · exact (plain_of_mem_name name).2

theorem trimBlank_text (ts : List Term) : trimBlank (text ts) = text ts := by
  rcases List.eq_nil_or_concat (text ts) with empty | ⟨front, last, split⟩
  · rw [empty]
    rfl
  · rw [List.concat_eq_append] at split
    rw [split]
    have solid (c : Char) (member : c ∈ front ++ [last]) : isBlank c = false := by
      rw [← split] at member
      exact isBlank_of_mem member
    exact trimBlank_concat
      (fun c first => solid c (List.mem_append_left _ (List.mem_of_mem_head? first)))
      (solid last (by simp))

/-- The unit says that a row of terms is no number of seconds. -/
theorem exists_not_isDigit (nonempty : ts ≠ []) : ∃ c ∈ text ts, c.isDigit = false := by
  cases ts with
  | nil => contradiction
  | cons t ts =>
    obtain ⟨c, rest, split⟩ := List.exists_cons_of_ne_nil t.name_ne_nil
    have other : isNumberChar c = false := (plain_of_mem_name (t := t) (by simp [split])).1
    refine ⟨c, by simp [split], ?_⟩
    rw [isNumberChar, Bool.or_eq_false_iff] at other
    exact other.1

end Term

/-- A text parts where the first character stands that is not of its front's kind. -/
theorem span_append {p : Char → Bool} {front back : List Char}
    (inside : ∀ c ∈ front, p c = true) (after : ∀ c, back.head? = some c → p c = false) :
    (front ++ back).takeWhile p = front ∧ (front ++ back).dropWhile p = back := by
  rw [List.takeWhile_append_of_pos inside, List.dropWhile_append_of_pos inside]
  cases back with
  | nil => simp
  | cons c back => simp [after c rfl]

/-- What a text of terms comes to, by its first number, the unit after it and what follows. -/
theorem termsNanos?_eq {s : List Char} (nonempty : s ≠ []) :
    termsNanos? s =
      (unitNanos? ((s.dropWhile isNumberChar).takeWhile (!isNumberChar ·))).bind fun unit =>
        (scaled? (s.takeWhile isNumberChar) unit).bind fun term =>
          (termsNanos? ((s.dropWhile isNumberChar).dropWhile (!isNumberChar ·))).map
            (term + ·) := by
  cases s with
  | nil => contradiction
  | cons c cs =>
    rw [termsNanos?]
    cases unitNanos? (((c :: cs).dropWhile isNumberChar).takeWhile (!isNumberChar ·)) with
    | none => rfl
    | some unit =>
      dsimp only [Option.bind_some]
      cases scaled? ((c :: cs).takeWhile isNumberChar) unit with
      | none => rfl
      | some term =>
        cases termsNanos? (((c :: cs).dropWhile isNumberChar).dropWhile (!isNumberChar ·)) <;> rfl

/-- A row of terms is read as their sum. -/
theorem termsNanos?_text (ts : List Term) : termsNanos? (Term.text ts) = some (Term.total ts) := by
  induction ts with
  | nil => rw [Term.text_nil, termsNanos?, Term.total_nil]
  | cons t ts ih =>
    have named : ∀ c ∈ t.name, (!isNumberChar c) = true := fun c member => by
      rw [(Term.plain_of_mem_name member).1, Bool.not_false]
    have counted (c : Char) (first : (Term.text ts).head? = some c) :
        (!isNumberChar c) = false := by
      rw [Term.isNumberChar_of_head? first, Bool.not_true]
    obtain ⟨number, tail⟩ := span_append
      (fun _ member => Numeral.isNumberChar_of_mem (n := t.number) member)
      (fun c => Term.isNumberChar_of_head?_name (t := t) (s := Term.text ts))
    obtain ⟨name, rest⟩ := span_append named counted
    rw [termsNanos?_eq (Term.text_ne_nil (List.cons_ne_nil t ts)), Term.text_cons, number, tail,
      name, rest, unitNanos?_eq_some_iff.mpr t.listed, Option.bind_some, Numeral.scaled?_toChars,
      Option.bind_some, ih, Option.map_some, Term.total_cons, Term.nanos]

/-- Whatever is read as a sum of terms is a row of terms. -/
theorem exists_of_termsNanos? : ∀ (s : List Char) (n : Nat), termsNanos? s = some n →
    ∃ ts, Term.text ts = s
  | [], _, _ => ⟨[], rfl⟩
  | c :: cs, _, read => by
    rw [termsNanos?_eq (List.cons_ne_nil c cs)] at read
    obtain ⟨unit, named, summed⟩ := Option.bind_eq_some_iff.mp read
    obtain ⟨term, scaled, summed⟩ := Option.bind_eq_some_iff.mp summed
    obtain ⟨rest, after, _⟩ := Option.map_eq_some_iff.mp summed
    obtain ⟨number, split⟩ := Numeral.exists_of_scaled? scaled
    obtain ⟨ts, follows⟩ := exists_of_termsNanos? _ rest after
    refine ⟨⟨number, _, unit, unitNanos?_eq_some_iff.mp named⟩ :: ts, ?_⟩
    rw [Term.text_cons, split, follows, List.takeWhile_append_dropWhile,
      List.takeWhile_append_dropWhile]
termination_by s => s.length
decreasing_by exact length_after_term_lt c cs

/-- A row of terms is read when their sum fits. -/
theorem ofChars?_text {ts : List Term} (nonempty : ts ≠ []) :
    ofChars? (Term.text ts) =
      if Term.total ts < 2 ^ 64 then some ⟨Term.total ts⟩ else none := by
  have units : ¬(Term.text ts).all Char.isDigit = true := by
    obtain ⟨c, member, other⟩ := Term.exists_not_isDigit nonempty
    rw [List.all_eq_true]
    intro digits
    rw [digits c member] at other
    cases other
  rw [ofChars?, if_neg (by simpa using Term.text_ne_nil nonempty), if_neg units, termsNanos?_text]
  rfl

/-- A text without blanks at its ends is read just when it is one of the written forms. -/
theorem ofChars?_eq_some_iff {s : List Char} {d : Duration} :
    ofChars? s = some d ↔ Written s d := by
  constructor
  · intro read
    by_cases empty : s = []
    · subst empty
      cases read
    by_cases digits : s.all Char.isDigit = true
    · rw [ofChars?, if_neg (by simpa using empty), if_pos digits] at read
      split at read
      · rename_i fits
        obtain rfl := Option.some.inj read
        exact .seconds empty (List.all_eq_true.mp digits) (Nat.le_sub_one_of_lt fits)
      · cases read
    · cases summed : termsNanos? s with
      | none =>
        rw [ofChars?, if_neg (by simpa using empty), if_neg digits, summed] at read
        cases read
      | some n =>
        obtain ⟨ts, rfl⟩ := exists_of_termsNanos? s n summed
        have nonempty : ts ≠ [] := by
          rintro rfl
          exact empty rfl
        rw [ofChars?_text nonempty] at read
        split at read
        · rename_i fits
          obtain rfl := Option.some.inj read
          exact .terms nonempty (Nat.le_sub_one_of_lt fits)
        · cases read
  · intro written
    cases written with
    | seconds nonempty digits fits =>
      have below : Decimal.value s < Nat.pow 2 64 := Nat.lt_of_le_sub_one (by decide) fits
      rw [ofChars?, if_neg (by simpa using nonempty), if_pos (List.all_eq_true.mpr digits),
        if_pos below]
    | terms nonempty fits =>
      rw [ofChars?_text nonempty, if_pos (Nat.lt_of_le_sub_one (by decide) fits)]

theorem parse?_eq_some_iff {s : String} {d : Duration} :
    parse? s = some d ↔ Written (trimBlank s.toList) d :=
  ofChars?_eq_some_iff

/-- The text is a row of terms. -/
def Compound (s : String) : Prop := ∃ ts, ts ≠ [] ∧ s.toList = Term.text ts

theorem parse?_text {s : String} {ts : List Term} (nonempty : ts ≠ [])
    (text : s.toList = Term.text ts) :
    parse? s = if Term.total ts < 2 ^ 64 then some ⟨Term.total ts⟩ else none := by
  rw [parse?, text, Term.trimBlank_text, ofChars?_text nonempty]

theorem total_of_parse? {s : String} {ts : List Term} (nonempty : ts ≠ [])
    (text : s.toList = Term.text ts) {d : Duration} (read : parse? s = some d) :
    d.nanos = Term.total ts := by
  rw [parse?_text nonempty text] at read
  split at read
  · obtain rfl := Option.some.inj read
    rfl
  · cases read

/-- Two rows of terms after one another are read as their sum, when it fits. -/
theorem parse?_append {s t : String} {d e : Duration} (first : Compound s) (second : Compound t)
    (front : parse? s = some d) (back : parse? t = some e)
    (fits : d.nanos + e.nanos ≤ 2 ^ 64 - 1) : parse? (s ++ t) = some (d + e) := by
  obtain ⟨ts, nonempty, text⟩ := first
  obtain ⟨us, some, rest⟩ := second
  have joined : (s ++ t).toList = Term.text (ts ++ us) := by
    rw [String.toList_append, text, rest, Term.text_append]
  rw [total_of_parse? nonempty text front, total_of_parse? some rest back] at fits
  rw [parse?_text (by simp [nonempty]) joined, Term.total_append,
    if_pos (Nat.lt_of_le_sub_one (by decide) fits), ← total_of_parse? nonempty text front,
    ← total_of_parse? some rest back]
  rfl

end DnsBalancer.Duration
