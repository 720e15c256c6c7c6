/-!
# Reading positions

A cursor is the text still ahead together with the place reached: how many
characters were passed, on which line, and how many of them on that line.

YAML is read in two dialects. The strict one follows the standard; a line ends there
at a line feed, a carriage return, both together, or one of the three Unicode line
breaks. The lenient one knows the first two alone, and a carriage return by itself
reads as a break but begins no new line.
-/
namespace DnsBalancer.Yaml

inductive Dialect where
  | strict
  | lenient
  deriving DecidableEq, Repr, Inhabited

/-- The character reads as a line break. -/
def Dialect.breaks (d : Dialect) (x : Char) : Bool :=
  x == '\n' || x == '\r' ||
    (d == .strict && (x == '\u0085' || x == '\u2028' || x == '\u2029'))

def isGap (c : Char) : Bool :=
  c == ' ' || c == '\t'

/-- The characters of anchor names and tag handles. -/
def isWord (c : Char) : Bool :=
  c.isAlphanum || c == '_' || c == '-'

structure Cursor where
  dialect : Dialect
  rest : List Char
  index : Nat
  line : Nat
  column : Nat
  deriving Repr, Inhabited

namespace Cursor

def start (dialect : Dialect) (text : List Char) : Cursor := ⟨dialect, text, 0, 0, 0⟩

/-- The character `n` places ahead. -/
def ahead (c : Cursor) (n : Nat) : Option Char := c.rest[n]?

def sees (c : Cursor) (x : Char) : Bool := c.rest.head? == some x

def satisfies (c : Cursor) (p : Char → Bool) : Bool := c.rest.head?.any p

def isBreak (c : Cursor) (x : Char) : Bool := c.dialect.breaks x

/-- A line break stands ahead. -/
def atBreak (c : Cursor) : Bool := c.satisfies c.isBreak

/-- A blank, a line break or the end of the text stands `n` places ahead. -/
def endsWord (c : Cursor) (n : Nat) : Bool :=
  match c.ahead n with
  | none => true
  | some x => isGap x || c.isBreak x

def atEnd (c : Cursor) : Bool := c.rest.isEmpty

/-- Passes one character, which is not a line break. -/
def skip (c : Cursor) : Cursor :=
  { c with rest := c.rest.drop 1, index := c.index + 1, column := c.column + 1 }

def skipBy (c : Cursor) (n : Nat) : Cursor :=
  { c with rest := c.rest.drop n, index := c.index + n, column := c.column + n }

/-- Passes `n` characters that end the line. -/
def nextLine (c : Cursor) (n : Nat) : Cursor :=
  { c with rest := c.rest.drop n, index := c.index + n, line := c.line + 1, column := 0 }

/-- Passes the line break ahead and tells what it reads as: the line and paragraph
separators as themselves, every other break as a line feed. -/
def takeBreak (c : Cursor) : String × Cursor :=
  match c.rest with
  | '\r' :: '\n' :: _ => ("\n", c.nextLine 2)
  | x :: _ =>
    if !c.isBreak x then ("", c)
    else if x == '\r' && c.dialect == .lenient then ("\n", c.skip)
    else if x == '\u2028' || x == '\u2029' then (x.toString, c.nextLine 1)
    else ("\n", c.nextLine 1)
  | [] => ("", c)

def skipBreak (c : Cursor) : Cursor := c.takeBreak.2

/-- Passes the longest run of characters that satisfy `p`, none of them a break. -/
def skipWhile (c : Cursor) (p : Char → Bool) : Cursor :=
  c.skipBy (c.rest.takeWhile p).length

def takeWhile (c : Cursor) (p : Char → Bool) : String × Cursor :=
  (String.ofList (c.rest.takeWhile p), c.skipWhile p)

/-- What is left of the line. -/
def takeLine (c : Cursor) : String × Cursor := c.takeWhile (!c.isBreak ·)

def skipLine (c : Cursor) : Cursor := c.takeLine.2

/-- Passes a comment, up to the end of its line. -/
def skipComment (c : Cursor) : Cursor :=
  if c.sees '#' then c.skipLine else c

/-- `---` or `...` stands at the start of the line and ends there as a word. -/
def atDocumentMarker (c : Cursor) : Bool :=
  c.column == 0 && (c.rest.take 3 == ['-', '-', '-'] || c.rest.take 3 == ['.', '.', '.']) &&
    c.endsWord 3

/-- Passes the blanks and the comment that may end a line, and the line break. -/
def finishLine? (c : Cursor) : Option Cursor :=
  let c := (c.skipWhile isGap).skipComment
  if c.atEnd then some c
  else if c.atBreak then some c.skipBreak
  else none

end Cursor

end DnsBalancer.Yaml
