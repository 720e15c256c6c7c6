import DnsBalancer.Settings.Setting

/-!
# Settings in JSON

Reads the standard form and nothing beyond it. Whole numbers that 64 bits do not hold,
sign included, are read as doubles; of equal names the last one counts.
-/
namespace DnsBalancer.Setting.Json

open Text

def isBlank (c : Char) : Bool := c == ' ' || c == '\t' || c == '\n' || c == '\r'

def skip (s : List Char) : List Char := s.dropWhile isBlank

/-- Collections nest less deep than this. -/
def nestingLimit : Nat := 128

/-- Four hexadecimal digits. -/
def unit? (s : List Char) : Option (Nat × List Char) :=
  if (s.take 4).length = 4 then (Decimal.readIn? 16 (s.take 4)).map (·, s.drop 4) else none

/-- The character behind `\u`, which may take a second unit. -/
def unicode? (s : List Char) : Option (Char × List Char) := do
  let (n, rest) ← unit? s
  if 0xD800 ≤ n && n < 0xDC00 then
    match rest with
    | '\\' :: 'u' :: rest =>
      let (m, rest) ← unit? rest
      if 0xDC00 ≤ m && m < 0xE000 then
        return (Char.ofNat (0x10000 + (n - 0xD800) * 0x400 + (m - 0xDC00)), rest)
      else none
    | _ => none
  else if 0xDC00 ≤ n && n < 0xE000 then none
  else return (Char.ofNat n, rest)

def escape? : Char → Option Char
  | '"' => some '"'
  | '\\' => some '\\'
  | '/' => some '/'
  | 'b' => some '\x08'
  | 'f' => some '\x0c'
  | 'n' => some '\n'
  | 'r' => some '\r'
  | 't' => some '\t'
  | _ => none

/-- The rest of a string, behind its opening quote. -/
def string? : (fuel : Nat) → List Char → Option (List Char × List Char)
  | 0, _ => none
  | _, [] => none
  | _, '"' :: rest => some ([], rest)
  | fuel + 1, '\\' :: 'u' :: rest => do
    let (c, rest) ← unicode? rest
    let (cs, rest) ← string? fuel rest
    return (c :: cs, rest)
  | fuel + 1, '\\' :: c :: rest => do
    let c ← escape? c
    let (cs, rest) ← string? fuel rest
    return (c :: cs, rest)
  | fuel + 1, c :: rest => do
    if c.toNat < 0x20 || c == '\\' then none
    else
      let (cs, rest) ← string? fuel rest
      return (c :: cs, rest)

/-- The digits at the front, at least one. -/
def digits? (s : List Char) : Option (List Char × List Char) :=
  let ds := s.takeWhile Char.isDigit
  if ds.isEmpty then none else some (ds, s.dropWhile Char.isDigit)

/-- The whole part of a number: no zero stands in front of other digits. -/
def integerDigits? (s : List Char) : Option (List Char × List Char) := do
  let (ds, rest) ← digits? s
  if ds.head? == some '0' && ds.length != 1 then none else return (ds, rest)

def fraction? : List Char → Option (List Char × List Char)
  | '.' :: s => (digits? s).map fun (ds, rest) => ('.' :: ds, rest)
  | s => some ([], s)

def power? : List Char → Option (List Char × List Char)
  | [] => some ([], [])
  | e :: s =>
    if e == 'e' || e == 'E' then
      match s with
      | '+' :: s => (digits? s).map fun (ds, rest) => ('e' :: ds, rest)
      | '-' :: s => (digits? s).map fun (ds, rest) => ('e' :: '-' :: ds, rest)
      | s => (digits? s).map fun (ds, rest) => ('e' :: ds, rest)
    else some ([], e :: s)

/-- A number; one that no double comes near is refused. -/
def number? (s : List Char) : Option (Setting × List Char) := do
  let (sign, body) := match s with
    | '-' :: rest => (['-'], rest)
    | rest => ([], rest)
  let (front, rest) ← integerDigits? body
  let (fraction, rest) ← fraction? rest
  let (power, rest) ← power? rest
  let small := Decimal.readSigned? 10 64 (sign ++ front)
  if fraction.isEmpty && power.isEmpty && small.isSome && sign ++ front != ['-', '0'] then
    return (.whole (small.getD 0), rest)
  else
    let x := (← Scientific.parse? (sign ++ front ++ fraction ++ power)).toFloat
    if x.isFinite then return (.real x, rest) else none

/-- The elements of a list, behind its opening bracket. -/
def elements? (value? : List Char → Option (Setting × List Char)) :
    (fuel : Nat) → List Char → Option (List Setting × List Char)
  | 0, _ => none
  | fuel + 1, s => do
    let (x, s) ← value? s
    match skip s with
    | ',' :: s =>
      let (xs, s) ← elements? value? fuel s
      return (x :: xs, s)
    | ']' :: s => return ([x], s)
    | _ => none

/-- The entries of a table, behind its opening brace, added to those read so far. -/
def members? (value? : List Char → Option (Setting × List Char)) :
    (fuel : Nat) → List (String × Setting) → List Char →
      Option (List (String × Setting) × List Char)
  | 0, _, _ => none
  | fuel + 1, es, s =>
    match skip s with
    | '"' :: s => do
      let (name, s) ← string? (s.length + 1) s
      match skip s with
      | ':' :: s =>
        let (x, s) ← value? s
        let es := place (String.ofList name) x es
        match skip s with
        | ',' :: s => members? value? fuel es s
        | '\x7d' :: s => return (es, s)
        | _ => none
      | _ => none
    | _ => none

def value? : (depth : Nat) → List Char → Option (Setting × List Char)
  | depth, s =>
    match skip s with
    | 'n' :: 'u' :: 'l' :: 'l' :: s => some (.nothing, s)
    | 't' :: 'r' :: 'u' :: 'e' :: s => some (.flag true, s)
    | 'f' :: 'a' :: 'l' :: 's' :: 'e' :: s => some (.flag false, s)
    | '"' :: s => (string? (s.length + 1) s).map fun (cs, s) => (.text (String.ofList cs), s)
    | '[' :: s =>
      match depth, skip s with
      | 0, _ => none
      | _, ']' :: s => some (.list [], s)
      | depth + 1, s => (elements? (value? depth) s.length s).map fun (xs, s) => (.list xs, s)
    | '\x7b' :: s =>
      match depth, skip s with
      | 0, _ => none
      | _, '\x7d' :: s => some (.table [], s)
      | depth + 1, s => (members? (value? depth) s.length [] s).map fun (es, s) => (.table es, s)
    | s => number? s

/-- Reads a text that holds one value. -/
def parse? (text : String) : Option Setting := do
  let (x, rest) ← value? (nestingLimit - 1) text.toList
  if (skip rest).isEmpty then return x else none

end DnsBalancer.Setting.Json
