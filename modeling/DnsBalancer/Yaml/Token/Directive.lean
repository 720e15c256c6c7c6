import DnsBalancer.Yaml.Token.Tag

/-!
# Directives of a YAML text

The lines in front of a document that name its version or define tag handles.
-/
namespace DnsBalancer.Yaml

open Text

/-- Reads a number of at most nine digits. -/
def readVersionPart? (c : Cursor) : Option (Nat × Cursor) :=
  let ds := c.rest.takeWhile Char.isDigit
  if ds.isEmpty || 9 < ds.length then none else some (Decimal.value ds, c.skipBy ds.length)

def readVersion? (c : Cursor) : Option (Token × Cursor) := do
  let (major, c) ← readVersionPart? (c.skipWhile isGap)
  if !c.sees '.' then none
  else
    let (minor, c) ← readVersionPart? c.skip
    some (.versionDirective major minor, c)

/-- Reads a tag handle and what it expands to. Blanks divide them in the strict
dialect. -/
def readExpansion? (c : Cursor) : Option (Token × Cursor) := do
  let (handle, c) ← readHandle? (c.skipWhile isGap)
  if handle != "!" && handle.toList.getLast? != some '!' then none
  else if c.dialect == .strict && !c.satisfies isGap then none
  else
    let (expansion, c) ← readSomeTagText? true (c.skipWhile isGap)
    if c.endsWord 0 then some (.tagDirective handle expansion, c) else none

/-- Reads a directive. An unknown one counts, in the lenient dialect, as one that
defines nothing. -/
def readDirective? (c : Cursor) : Option (Token × Cursor) := do
  let (name, c) := c.skip.takeWhile isWord
  if name.isEmpty || !c.endsWord 0 then none
  else
    let (t, c) ←
      if name == "YAML" then readVersion? c
      else if name == "TAG" then readExpansion? c
      else if c.dialect == .lenient then some (.tagDirective "" "", c.skipLine)
      else none
    let c ← c.finishLine?
    some (t, c)

end DnsBalancer.Yaml
