import DnsBalancer.Text.Decimal
import DnsBalancer.Yaml.Cursor
import DnsBalancer.Yaml.Token

/-!
# Tags of a YAML text

Reads a tag with its handle. The two dialects take escapes apart in different ways: the
strict one puts bytes together to text, the lenient one knows one and two bytes only.
-/
namespace DnsBalancer.Yaml

open Text

/-- Characters of a tag, `%` with two hexadecimal digits standing for a byte. A comma
and square brackets are among them in verbatim tags, and everywhere in the lenient
dialect. -/
def isTagChar (d : Dialect) (verbatim : Bool) (c : Char) : Bool :=
  isWord c || ";/?:@&=+$.%!~*'()".toList.contains c ||
    ((verbatim || d == .lenient) && (c == ',' || c == '[' || c == ']'))

/-- How many bytes a character has whose first byte is `n`. -/
def byteCount? (n : Nat) : Option Nat :=
  if n < 0x80 then some 1
  else if 0xC0 ≤ n && n < 0xE0 then some 2
  else if 0xE0 ≤ n && n < 0xF0 then some 3
  else if 0xF0 ≤ n && n < 0xF8 then some 4
  else none

/-- The bytes of a tag. The escapes of one character follow each other; `waiting` tells
how many of its bytes are still to come. -/
def tagBytes? (waiting : Nat) : List Char → Option (List UInt8)
  | [] => if waiting = 0 then some [] else none
  | '%' :: a :: b :: rest => do
    let n ← Decimal.readIn? 16 [a, b]
    let left ←
      if waiting = 0 then (byteCount? n).map (· - 1)
      else if 0x80 ≤ n && n < 0xC0 then some (waiting - 1)
      else none
    return n.toUInt8 :: (← tagBytes? left rest)
  | '%' :: _ => none
  | c :: rest =>
    if waiting = 0 then (tagBytes? 0 rest).map (c.toString.toUTF8.toList ++ ·) else none

/-- The text of a tag in the strict dialect: up to a null byte, if it holds one. -/
def strictTag? (cs : List Char) : Option (List Char) :=
  (tagBytes? 0 cs).map fun bytes =>
    let bytes := bytes.takeWhile (· != 0)
    match String.fromUTF8? (ByteArray.mk bytes.toArray) with
    | some text => text.toList
    | none => (cs.takeWhile (· == '!')) ++ [unreadableMark]

/-- The character whose code point the two bytes of an escape make up, the first of
them in the upper byte. -/
def pairChar? (high low : Nat) : Option Char :=
  let n := 256 * high + low
  if 0xC0 ≤ high && high < 0xE0 && 0x80 ≤ low && low < 0xC0 && n.isValidChar then
    some (Char.ofNat n)
  else none

/-- The text of a tag in the lenient dialect, where one escape stands for an ASCII
character and two for the code point of their bytes. -/
def lenientTag? : List Char → Option (List Char)
  | [] => some []
  | '%' :: a :: b :: rest => do
    let high ← Decimal.readIn? 16 [a, b]
    if high < 0x80 then return Char.ofNat high :: (← lenientTag? rest)
    else match rest with
      | '%' :: a :: b :: rest =>
        let low ← Decimal.readIn? 16 [a, b]
        return (← pairChar? high low) :: (← lenientTag? rest)
      | _ => none
  | '%' :: _ => none
  | c :: rest => (lenientTag? rest).map (c :: ·)

/-- Reads the part of a tag that is not its handle. -/
def readTagText? (verbatim : Bool) (c : Cursor) : Option (String × Cursor) :=
  let chars := c.rest.takeWhile (isTagChar c.dialect verbatim)
  let text? := match c.dialect with
    | .strict => strictTag? chars
    | .lenient => lenientTag? chars
  text?.map fun text => (String.ofList text, c.skipBy chars.length)

/-- Reads tag text of one character or more. -/
def readSomeTagText? (verbatim : Bool) (c : Cursor) : Option (String × Cursor) :=
  (readTagText? verbatim c).filter fun (_, next) => c.index < next.index

/-- Reads `!`, `!name!` or the start of `!name`. -/
def readHandle? (c : Cursor) : Option (String × Cursor) :=
  if !c.sees '!' then none
  else
    let (name, c) := c.skip.takeWhile isWord
    if c.sees '!' then some ("!" ++ name ++ "!", c.skip) else some ("!" ++ name, c)

/-- Reads a tag. A comma may follow it inside brackets, in the strict dialect. -/
def readTag? (inFlow : Bool) (c : Cursor) : Option (Token × Cursor) := do
  let (t, c) ←
    if c.ahead 1 == some '<' then do
      let (text, c) ← readSomeTagText? true (c.skipBy 2)
      if c.sees '>' then some (Token.tag "" text, c.skip) else none
    else do
      let (handle, c) ← readHandle? c
      if 1 < handle.length && handle.toList.getLast? == some '!' then do
        let (text, c) ← readSomeTagText? false c
        some (Token.tag handle text, c)
      else do
        let (text, c) ← readTagText? false c
        let suffix := String.ofList (handle.toList.drop 1) ++ text
        some (if suffix.isEmpty then Token.tag "" "!" else Token.tag "!" suffix, c)
  if c.endsWord 0 || (c.dialect == .strict && inFlow && c.sees ',') then some (t, c) else none

end DnsBalancer.Yaml
