import DnsBalancer.Yaml.Token.Directive
import DnsBalancer.Yaml.Token.Scalar

/-!
# Tokens from text

The scanner keeps the columns of the open blocks and, for each nesting level, the
token that may turn out to be a mapping key once a colon follows it. A key found so
late is inserted in front of the tokens it opens. The scan answers `none` for a
text that is refused.
-/
namespace DnsBalancer.Yaml

open Text

/-- A token that a later colon makes a key: its number and place, and whether the
block it stands in leaves no other reading. -/
structure KeyPlace where
  token : Nat
  required : Bool
  index : Nat
  line : Nat
  column : Nat
  deriving Repr

structure Scanner where
  cursor : Cursor
  tokens : Array Token := #[]
  /-- The possible key of each open flow collection, the innermost first. -/
  flowKeys : List (Option KeyPlace) := []
  /-- The possible key outside all flow collections. -/
  blockKey : Option KeyPlace := none
  /-- Columns of the open blocks, the innermost first. -/
  indents : List Nat := []
  keyAllowed : Bool := true
  /-- Where the last quoted scalar ended. -/
  quotedEnd : Nat := 0

namespace Scanner

def inFlow (s : Scanner) : Bool := !s.flowKeys.isEmpty

def isStrict (s : Scanner) : Bool := s.cursor.dialect == .strict

/-- The column of the innermost open block. -/
def indent? (s : Scanner) : Option Nat := s.indents.head?

def emit (s : Scanner) (t : Token) : Scanner :=
  { s with tokens := s.tokens.push t }

def currentKey (s : Scanner) : Option KeyPlace :=
  match s.flowKeys with
  | key :: _ => key
  | [] => s.blockKey

def setKey (s : Scanner) (key : Option KeyPlace) : Scanner :=
  match s.flowKeys with
  | _ :: rest => { s with flowKeys := key :: rest }
  | [] => { s with blockKey := key }

/-- Gives up the possible key of the current level, unless it has to be one. -/
def dropKey? (s : Scanner) : Option Scanner :=
  if s.currentKey.any (·.required) then none else some (s.setKey none)

/-- Notes that the token to come may be a key. At the column of the open block it has to
be one; in the lenient dialect that holds inside brackets, and there alone. -/
def markKey? (s : Scanner) : Option Scanner :=
  if s.keyAllowed then
    let c := s.cursor
    let required := s.inFlow != s.isStrict && s.indent? == some c.column
    s.dropKey?.map fun s => s.setKey (some ⟨s.tokens.size, required, c.index, c.line, c.column⟩)
  else some s

/-- A key stands on one line and within 1024 characters. -/
def KeyPlace.stale (c : Cursor) (key : KeyPlace) : Bool :=
  key.line < c.line || key.index + 1024 < c.index

def freshKey? (c : Cursor) : Option KeyPlace → Option (Option KeyPlace)
  | none => some none
  | some key =>
    if KeyPlace.stale c key then (if key.required then none else some none)
    else some (some key)

/-- Forgets the possible keys that are too far back by now. -/
def dropStaleKeys? (s : Scanner) : Option Scanner := do
  let blockKey ← freshKey? s.cursor s.blockKey
  let flowKeys ← s.flowKeys.mapM (freshKey? s.cursor)
  some { s with blockKey, flowKeys }

/-- Opens a block at `column` unless one is open there; its token goes in front of
token `number`. -/
def openBlock (s : Scanner) (column number : Nat) (t : Token) : Scanner :=
  if s.inFlow || s.indent?.any (column ≤ ·) then s
  else { s with
    indents := column :: s.indents
    tokens := s.tokens.insertIdxIfInBounds number t }

def closeBlocks (column : Option Nat) : List Nat → Array Token → List Nat × Array Token
  | [], tokens => ([], tokens)
  | indent :: outer, tokens =>
    if column.any (indent ≤ ·) then (indent :: outer, tokens)
    else closeBlocks column outer (tokens.push .blockEnd)

/-- Closes the blocks that stand deeper than `column`, or all of them. -/
def closeDeeper (s : Scanner) (column : Option Nat) : Scanner :=
  if s.inFlow then s
  else
    let (indents, tokens) := closeBlocks column s.indents s.tokens
    { s with indents, tokens }

def move (s : Scanner) (n : Nat) : Scanner :=
  { s with cursor := s.cursor.skipBy n }

def allowKey (s : Scanner) (allowed : Bool) : Scanner :=
  { s with keyAllowed := allowed }

/-- Passes blanks, comments and line breaks, and in the strict dialect a byte order mark
that opens a line. A tab may not stand where a block line could begin. -/
def skipToToken : Nat → Scanner → Scanner
  | 0, s => s
  | fuel + 1, s =>
    let marked := s.isStrict && s.cursor.column == 0 && s.cursor.sees '\ufeff'
    let c := if marked then s.cursor.skip else s.cursor
    let tabs := s.inFlow || !s.keyAllowed
    let c := (c.skipWhile fun x => x == ' ' || (tabs && x == '\t')).skipComment
    if c.atBreak then
      skipToToken fuel { s with cursor := c.skipBreak, keyAllowed := s.keyAllowed || !s.inFlow }
    else { s with cursor := c }

/-- Ends every block before a directive, a document marker or the end. -/
def endDocument? (s : Scanner) : Option Scanner :=
  (s.closeDeeper none).dropKey?.map (·.allowKey false)

/-- Reads an anchor or a reference to one. -/
def readAnchor? (c : Cursor) : Option (String × Cursor) :=
  let (name, c) := c.skip.takeWhile isWord
  let ends := c.endsWord 0 ||
    c.satisfies fun x => x == '?' || x == ':' || x == ',' || x == ']' || x == '\x7d' ||
      x == '%' || x == '@' || x == '\x60'
  if name.isEmpty || !ends then none else some (name, c)

/-- A colon makes the noted token a key, or stands for the value of a key that was
introduced by a question mark. -/
def readColon? (s : Scanner) : Option Scanner :=
  let s? :=
    match s.currentKey with
    | some key =>
      let s := { s with tokens := s.tokens.insertIdxIfInBounds key.token .key }
      some (((s.openBlock key.column key.token .blockMappingStart).setKey none).allowKey false)
    | none =>
      if s.inFlow then some (s.allowKey false)
      else if s.keyAllowed then
        some ((s.openBlock s.cursor.column s.tokens.size .blockMappingStart).allowKey true)
      else none
  s?.map fun s => (s.emit .value).move 1

/-- Characters that no plain scalar begins with, the dash, the question mark and the
colon apart. -/
def isIndicator (c : Char) : Bool :=
  isFlowIndicator c || "#&*!|>'\"%@\x60".toList.contains c

/-- A plain scalar begins here, at a character that opens no other token. -/
def beginsPlain (s : Scanner) (x : Char) : Bool :=
  if !s.isStrict then x != '%' && x != '@' && x != '\x60'
  else if x == '-' then !(s.cursor.ahead 1).any isGap
  else if x == '?' || x == ':' then !s.inFlow && !s.cursor.endsWord 1
  else !isGap x && !s.cursor.isBreak x && !isIndicator x

def readScalar? (s : Scanner) (x : Char) : Option Scanner := do
  let c := s.cursor
  let room := c.rest.length + 1
  if x == '\'' || x == '"' then
    let s ← s.markKey?
    let (text, c) ← readQuoted x room "" c.skip
    let style := if x == '"' then Style.doubleQuoted else .singleQuoted
    some { (s.emit (.scalar text style)).allowKey false with cursor := c, quotedEnd := c.index }
  else if s.beginsPlain x then
    let s ← s.markKey?
    let indent := match s.indent? with
      | some column => column + 1
      | none => 0
    let (text, moved, c) ← readPlain s.inFlow indent room "" {} c
    some { (s.emit (.scalar text .plain)).allowKey moved with cursor := c }
  else none

/-- Reads an indicator that needs the block or flow context checked. -/
def readBlockIndicator? (s : Scanner) (t opener : Token) : Option Scanner := do
  let s ←
    if s.inFlow then some s
    else if s.keyAllowed then some (s.openBlock s.cursor.column s.tokens.size opener)
    else none
  let s ← s.dropKey?
  some ((s.emit t).move 1)

/-- Brackets may stand this deep inside each other in the lenient dialect. -/
def bracketLimit : Nat := 255

/-- Reads an opening bracket, which may begin a key. -/
def readOpening? (s : Scanner) (t : Token) : Option Scanner := do
  let s ← s.markKey?
  if !s.isStrict && s.flowKeys.length == bracketLimit then none
  else
    let s := { s with flowKeys := none :: s.flowKeys, keyAllowed := true }
    some ((s.emit t).move 1)

def readClosing? (s : Scanner) (t : Token) : Option Scanner := do
  let s ← s.dropKey?
  let s := { s with flowKeys := s.flowKeys.drop 1, keyAllowed := false }
  some ((s.emit t).move 1)

/-- Reads a literal or folded scalar. It may be a key in the lenient dialect, as long as
no line has ended. -/
def readBlockScalar? (s : Scanner) (literal : Bool) : Option Scanner := do
  let s ← if s.isStrict then s.dropKey? else s.markKey?
  let (text, c) ← readBlock literal s.indent? s.cursor.skip
  let style := if literal then Style.literal else .folded
  some { (s.emit (.scalar text style)).allowKey true with cursor := c }

/-- The question mark ahead introduces a key: it ends a word, or stands anywhere inside
brackets in the strict dialect. -/
def marksKey (s : Scanner) : Bool :=
  s.cursor.endsWord 1 || (s.isStrict && s.inFlow)

/-- The colon ahead introduces a value: it ends a word, or it stands inside brackets. In
the lenient dialect, it has to stand there before a bracket or a comma or directly behind
a quoted scalar. -/
def marksValue (s : Scanner) : Bool :=
  let c := s.cursor
  c.endsWord 1 || (s.inFlow &&
    (s.isStrict || (c.ahead 1).any isFlowIndicator || c.index == s.quotedEnd))

/-- Reads the token at the cursor, which is not at the end. -/
def readToken? (s : Scanner) (x : Char) : Option Scanner := do
  let c := s.cursor
  if c.column == 0 && x == '%' then
    let s ← s.endDocument?
    let (t, c) ← readDirective? c
    some { s.emit t with cursor := c }
  else if c.atDocumentMarker then
    let s ← s.endDocument?
    some ((s.emit (if x == '-' then .documentStart else .documentEnd)).move 3)
  else if x == '[' then s.readOpening? .flowSequenceStart
  else if x == '\x7b' then s.readOpening? .flowMappingStart
  else if x == ']' then s.readClosing? .flowSequenceEnd
  else if x == '\x7d' then s.readClosing? .flowMappingEnd
  else if x == ',' then
    let s ← s.dropKey?
    some (((s.emit .flowEntry).allowKey true).move 1)
  else if x == '-' && c.endsWord 1 then
    (s.readBlockIndicator? .blockEntry .blockSequenceStart).map (·.allowKey true)
  else if x == '?' && s.marksKey then
    (s.readBlockIndicator? .key .blockMappingStart).map (·.allowKey !s.inFlow)
  else if x == ':' && s.marksValue then s.readColon?
  else if x == '*' || x == '&' then
    let s ← s.markKey?
    let (name, c) ← readAnchor? c
    let t := if x == '*' then Token.reference name else .anchor name
    some { (s.emit t).allowKey false with cursor := c }
  else if x == '!' then
    let s ← s.markKey?
    let (t, c) ← readTag? s.inFlow c
    some { (s.emit t).allowKey false with cursor := c }
  else if (x == '|' || x == '>') && !s.inFlow then s.readBlockScalar? (x == '|')
  else s.readScalar? x

/-- Reads tokens up to the end of the text. -/
def run : Nat → Scanner → Option (Array Token)
  | 0, _ => none
  | fuel + 1, s => do
    let s := skipToToken (s.cursor.rest.length + 1) s
    let s ← s.dropStaleKeys?
    let s := s.closeDeeper (some s.cursor.column)
    match s.cursor.rest with
    | [] => s.endDocument?.map (·.tokens)
    | x :: _ =>
      let s ← s.readToken? x
      run fuel s

end Scanner

/-- Characters that a YAML text may hold. -/
def isPrintable (c : Char) : Bool :=
  let n := c.toNat
  n == 0x09 || n == 0x0A || n == 0x0D || (0x20 ≤ n && n ≤ 0x7E) || n == 0x85 ||
    (0xA0 ≤ n && n ≤ 0xD7FF) || (0xE000 ≤ n && n ≤ 0xFFFD) || 0x10000 ≤ n

/-- The tokens of a text. In the strict dialect a byte order mark may open it and every
character has to be printable; in the lenient one it ends at the first null character. -/
def tokens? (d : Dialect) (text : String) : Option (Array Token) :=
  let cs := text.toList
  let body := match d with
    | .strict => if cs.head? == some '\ufeff' then cs.drop 1 else cs
    | .lenient => cs.takeWhile (· != '\x00')
  if d == .lenient || cs.all isPrintable then
    Scanner.run (body.length + 1) { cursor := Cursor.start d body }
  else none

end DnsBalancer.Yaml
