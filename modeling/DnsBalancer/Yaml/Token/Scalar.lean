import DnsBalancer.Text.Decimal
import DnsBalancer.Yaml.Cursor
import DnsBalancer.Yaml.Token

/-!
# Scalars of a YAML text

Reads one scalar of each style from a cursor. Inside quoted and plain scalars a
line break folds into a space, and further breaks are kept; literal scalars keep
every break. All functions answer `none` for a text that is refused.
-/
namespace DnsBalancer.Yaml

open Text

/-- Blanks and breaks between two words of a scalar. -/
structure Gap where
  blanks : String := ""
  broken : Bool := false
  first : String := ""
  more : String := ""

/-- What a gap reads as: blanks on one line as they are, one line feed as a space,
several as those after the first. -/
def Gap.text (g : Gap) : String :=
  if !g.broken then g.blanks
  else if g.first == "\n" then (if g.more.isEmpty then " " else g.more)
  else g.first ++ g.more

/-- Reads the blanks and breaks ahead. In a plain scalar a tab may not stand before
column `tabColumn` on a later line. -/
def readGap (tabColumn : Nat) : Nat → Gap → Cursor → Option (Gap × Cursor)
  | 0, _, _ => none
  | fuel + 1, g, c =>
    match c.rest with
    | [] => some (g, c)
    | x :: _ =>
      if isGap x then
        if g.broken then
          if x == '\t' && c.column < tabColumn then none
          else readGap tabColumn fuel g c.skip
        else readGap tabColumn fuel { g with blanks := g.blanks.push x } c.skip
      else if c.isBreak x then
        let (read, c) := c.takeBreak
        if g.broken then readGap tabColumn fuel { g with more := g.more ++ read } c
        else readGap tabColumn fuel { g with blanks := "", broken := true, first := read } c
      else some (g, c)

/-- The character a one-letter escape stands for. A slash may be escaped in the strict
dialect, an apostrophe in the lenient one. -/
def escaped? (d : Dialect) : Char → Option Char
  | '0' => some '\x00'
  | 'a' => some '\x07'
  | 'b' => some '\x08'
  | 't' => some '\t'
  | '\t' => some '\t'
  | 'n' => some '\n'
  | 'v' => some '\x0b'
  | 'f' => some '\x0c'
  | 'r' => some '\r'
  | 'e' => some '\x1b'
  | ' ' => some ' '
  | '"' => some '"'
  | '/' => if d == .strict then some '/' else none
  | '\'' => if d == .lenient then some '\'' else none
  | '\\' => some '\\'
  | 'N' => some '\u0085'
  | '_' => some '\u00a0'
  | 'L' => some '\u2028'
  | 'P' => some '\u2029'
  | _ => none

/-- How many hexadecimal digits follow the escape letter. -/
def escapeWidth? : Char → Option Nat
  | 'x' => some 2
  | 'u' => some 4
  | 'U' => some 8
  | _ => none

/-- The character with the code point that `digits` give, if there is one. -/
def codePoint? (digits : List Char) : Option Char :=
  match Decimal.readIn? 16 digits with
  | some n => if n.isValidChar then some (Char.ofNat n) else none
  | none => none

/-- Reads the words of a quoted scalar up to a blank, a break or the end of the
scalar. The flag tells that an escaped line break ended the run. -/
def readQuotedRun (quote : Char) : Nat → String → Cursor → Option (String × Bool × Cursor)
  | 0, _, _ => none
  | fuel + 1, acc, c =>
    match c.rest with
    | [] => some (acc, false, c)
    | x :: more =>
      if isGap x || c.isBreak x then some (acc, false, c)
      else if quote == '\'' && x == '\'' && more.head? == some '\'' then
        readQuotedRun quote fuel (acc.push '\'') (c.skipBy 2)
      else if x == quote then some (acc, false, c)
      else if quote == '"' && x == '\\' then
        match more with
        | [] => none
        | e :: tail =>
          if c.isBreak e then some (acc, true, c.skip.skipBreak)
          else match escaped? c.dialect e with
            | some y => readQuotedRun quote fuel (acc.push y) (c.skipBy 2)
            | none =>
              match escapeWidth? e with
              | none => none
              | some width =>
                if tail.length < width then none
                else match codePoint? (tail.take width) with
                  | some y => readQuotedRun quote fuel (acc.push y) (c.skipBy (2 + width))
                  | none => none
      else readQuotedRun quote fuel (acc.push x) c.skip

/-- Reads a quoted scalar from behind its opening quote. -/
def readQuoted (quote : Char) : Nat → String → Cursor → Option (String × Cursor)
  | 0, _, _ => none
  | fuel + 1, acc, c =>
    if c.atDocumentMarker || c.atEnd then none
    else match readQuotedRun quote (c.rest.length + 1) acc c with
      | none => none
      | some (acc, joined, c) =>
        if c.sees quote then some (acc, c.skip)
        else match readGap 0 (c.rest.length + 1) { broken := joined } c with
          | none => none
          | some (g, c) => readQuoted quote fuel (acc ++ g.text) c

def isFlowIndicator (c : Char) : Bool :=
  c == ',' || c == '[' || c == ']' || c == '\x7b' || c == '\x7d'

/-- How a plain scalar goes on at the cursor. -/
inductive PlainStep where
  | stop
  | refuse
  | take

/-- A plain scalar ends before a colon that ends a word and, inside brackets,
before an indicator. A colon directly before an indicator is refused there in the
strict dialect and ends the scalar in the lenient one. -/
def plainStep (inFlow : Bool) (c : Cursor) : PlainStep :=
  let colon := c.sees ':'
  let joined (p : Char → Bool) : Bool := inFlow && colon && (c.ahead 1).any p
  if c.dialect == .strict && joined (fun x => isFlowIndicator x || x == '?') then .refuse
  else if c.dialect == .lenient && joined isFlowIndicator then .stop
  else if colon && c.endsWord 1 then .stop
  else if inFlow && c.satisfies isFlowIndicator then .stop
  else .take

/-- Reads one word of a plain scalar. -/
def readPlainWord (inFlow : Bool) : Nat → String → Cursor → Option (String × Cursor)
  | 0, _, _ => none
  | fuel + 1, acc, c =>
    match c.rest with
    | [] => some (acc, c)
    | x :: _ =>
      if isGap x || c.isBreak x then some (acc, c)
      else match plainStep inFlow c with
        | .stop => some (acc, c)
        | .refuse => none
        | .take => readPlainWord inFlow fuel (acc.push x) c.skip

/-- Reads a plain scalar whose lines stand at column `indent` or deeper. The flag
tells that the cursor has moved on to a later line. -/
def readPlain (inFlow : Bool) (indent : Nat) :
    Nat → String → Gap → Cursor → Option (String × Bool × Cursor)
  | 0, _, _, _ => none
  | fuel + 1, acc, g, c =>
    if c.atDocumentMarker || c.sees '#' then some (acc, g.broken, c)
    else match readPlainWord inFlow (c.rest.length + 1) "" c with
      | none => none
      | some (word, c) =>
        let joined := if word.isEmpty then acc else acc ++ g.text ++ word
        let g := if word.isEmpty then g else {}
        if !c.satisfies isGap && !c.atBreak then some (joined, g.broken, c)
        else match readGap indent (c.rest.length + 1) g c with
          | none => none
          | some (g, c) =>
            if !inFlow && c.column < indent then some (joined, g.broken, c)
            else readPlain inFlow indent fuel joined g c

/-- What becomes of the breaks at the end of a block scalar. -/
inductive Chomp where
  | clip
  | strip
  | keep
  deriving DecidableEq

def chomp? : Option Char → Option Chomp
  | some '+' => some .keep
  | some '-' => some .strip
  | _ => none

/-- The indicators behind `|` or `>`: a chomping sign and an indentation digit, in
either order. -/
def blockHeader? (c : Cursor) : Option (Chomp × Nat × Cursor) :=
  let digit? (c : Cursor) : Option (Option Nat) :=
    match c.ahead 0 with
    | some d =>
      if d == '0' then none
      else if d.isDigit then some (some (d.toNat - 48)) else some none
    | none => some none
  match chomp? (c.ahead 0) with
  | some chomp =>
    match digit? c.skip with
    | none => none
    | some none => some (chomp, 0, c.skip)
    | some (some n) => some (chomp, n, c.skipBy 2)
  | none =>
    match digit? c with
    | none => none
    | some none => some (.clip, 0, c)
    | some (some n) =>
      match chomp? (c.ahead 1) with
      | some chomp => some (chomp, n, c.skipBy 2)
      | none => some (.clip, n, c.skip)

/-- Reads the indentation and the empty lines ahead. Answers the breaks and the
deepest column met; an `indent` of zero is not yet known. -/
def readBlockBreaks (indent : Nat) : Nat → String → Nat → Cursor → Option (String × Nat × Cursor)
  | 0, _, _, _ => none
  | fuel + 1, acc, deepest, c =>
    let spaces := (c.rest.takeWhile (· == ' ')).length
    let c := c.skipBy (if indent == 0 then spaces else min spaces (indent - c.column))
    let deepest := if deepest < c.column then c.column else deepest
    if (indent == 0 || c.column < indent) && c.sees '\t' then none
    else if c.atBreak then
      let (read, c) := c.takeBreak
      readBlockBreaks indent fuel (acc ++ read) deepest c
    else some (acc, deepest, c)

/-- The lines of a block scalar read so far. -/
structure BlockText where
  text : String := ""
  leading : String := ""
  trailing : String := ""
  blankStart : Bool := false

/-- The text in front of a line that opens with a blank or not. -/
def BlockText.join (literal blank : Bool) (b : BlockText) : String :=
  if !literal && b.leading == "\n" && !b.blankStart && !blank then
    b.text ++ (if b.trailing.isEmpty then " " else "") ++ b.trailing
  else b.text ++ b.leading ++ b.trailing

/-- Reads the lines of a block scalar, which all stand at column `indent`. -/
def readBlockLines (literal : Bool) (indent : Nat) :
    Nat → BlockText → Cursor → Option (BlockText × Cursor)
  | 0, _, _ => none
  | fuel + 1, b, c =>
    if c.column != indent || c.atEnd then some (b, c)
    else
      let blank := c.satisfies isGap
      let joined := b.join literal blank
      let (line, c) := c.takeLine
      let (leading, c) := c.takeBreak
      match readBlockBreaks indent (c.rest.length + 1) "" 0 c with
      | none => none
      | some (trailing, _, c) =>
        readBlockLines literal indent fuel ⟨joined ++ line, leading, trailing, blank⟩ c

/-- Reads a block scalar from behind its indicator. `parent` is the column of the
block it stands in. -/
def readBlock (literal : Bool) (parent : Option Nat) (c : Cursor) : Option (String × Cursor) := do
  let (chomp, increment, c) ← blockHeader? c
  let c ← c.finishLine?
  let given := if increment == 0 then 0 else parent.getD 0 + increment
  let (trailing, deepest, c) ← readBlockBreaks given (c.rest.length + 1) "" 0 c
  let least := match parent with
    | some column => column + 1
    | none => 1
  let indent := if given == 0 then (if deepest < least then least else deepest) else given
  let (b, c) ← readBlockLines literal indent (c.rest.length + 1) { trailing } c
  let text := match chomp with
    | .strip => b.text
    | .clip => b.text ++ b.leading
    | .keep => b.text ++ b.leading ++ b.trailing
  some (text, c)

end DnsBalancer.Yaml
