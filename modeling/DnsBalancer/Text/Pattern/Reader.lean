import DnsBalancer.Text.Blank
import DnsBalancer.Text.Decimal
import DnsBalancer.Text.Letters
import DnsBalancer.Text.Pattern.Expr

/-!
# Reading regular expressions

Groups and classes are closed, every repetition has something to repeat, counts and
ranges do not run backwards, every escape and every property is known, and no two
groups share a name. There is no looking around and no reference to a group. Switches
hold up to the end of the group they stand in. All that may match must be UTF-8.
-/
namespace DnsBalancer.Text.Pattern

/-- The switches that reading depends on. -/
structure Switches where
  /-- Blanks and comments are passed over. -/
  spaced : Bool := false
  /-- Classes are those of Unicode. -/
  unicode : Bool := true
  /-- Letter case does not count. -/
  folding : Bool := false
  deriving DecidableEq, Repr, Inhabited

/-- What letters say of a switch: that it is on, that it is off, or nothing. The letters
behind a minus sign are switched off. -/
def Switches.named? (c : Char) (flags : List Char) : Option Bool :=
  if flags.contains c then some (!(flags.takeWhile (· != c)).contains '-') else none

/-- The switches once letters have set theirs. -/
def Switches.apply (s : Switches) (flags : List Char) : Switches where
  spaced := (named? 'x' flags).getD s.spaced
  unicode := (named? 'u' flags).getD s.unicode
  folding := (named? 'i' flags).getD s.folding

structure Position where
  rest : List Char
  switches : Switches := {}
  /-- The names of the groups so far. -/
  names : List String := []

abbrev Reader := StateT Position Option

namespace Reader

def refuse {α : Type} : Reader α := fun _ => none

def require (b : Bool) : Reader Unit := if b then return () else refuse

def rest : Reader (List Char) := do return (← get).rest

def setRest (s : List Char) : Reader Unit := modify fun p => { p with rest := s }

def peek : Reader (Option Char) := do return (← rest).head?

def switches : Reader Switches := do return (← get).switches

def setSwitches (s : Switches) : Reader Unit := modify fun p => { p with switches := s }

/-- What is left behind blanks and comments, which end with their line. -/
def dropSpace (inComment : Bool) : List Char → List Char
  | [] => []
  | c :: rest =>
    if inComment then dropSpace (c != '\n') rest
    else if isBlank c then dropSpace false rest
    else if c == '#' then dropSpace true rest
    else c :: rest

/-- Passes blanks and comments where they do not count. -/
def skipSpace : Reader Unit := do
  if (← switches).spaced then setRest (dropSpace false (← rest))

/-- Passes one character. -/
def pass : Reader Unit := do setRest ((← rest).drop 1)

/-- Passes one character and the space behind it. -/
def passSpaced : Reader Unit := do
  pass
  skipSpace

/-- Passes the given character, or refuses another. -/
def expect (c : Char) : Reader Unit := do
  require ((← peek) == some c)
  pass

/-- Takes up to `limit` characters that satisfy `p`, without the space behind each. -/
def takeSpaced (p : Char → Bool) : (limit : Nat) → Reader (List Char)
  | 0 => return []
  | limit + 1 => do
    match ← peek with
    | none => return []
    | some c =>
      if p c then
        passSpaced
        return c :: (← takeSpaced p limit)
      else return []

def takeAllSpaced (p : Char → Bool) : Reader (List Char) := do
  takeSpaced p (← rest).length

def isHexDigit (c : Char) : Bool := (Decimal.digitIn? 16 c).isSome

/-- A character by its code point, written in so many digits or between braces. The flag
tells that it may stand for a byte. -/
def codePoint (width : Nat) : Reader (Char × Bool) := do
  passSpaced
  let braced := (← peek) == some '\x7b'
  let digits ←
    if braced then
      passSpaced
      let digits ← takeAllSpaced isHexDigit
      require ((← peek) == some '\x7d')
      passSpaced
      pure digits
    else
      let digits ← takeSpaced isHexDigit width
      require (digits.length == width)
      pure digits
  match Decimal.readIn? 16 digits with
  | some n =>
    require n.isValidChar
    return (Char.ofNat n, width == 2 && !braced)
  | none => refuse

/-- A property by one letter or by what stands between braces. -/
def property : Reader Members := do
  passSpaced
  match ← peek with
  | some '\x7b' =>
    passSpaced
    let text ← takeAllSpaced (· != '\x7d')
    expect '\x7d'
    match Property.ofText? text with
    | some p => return .ofProperty p
    | none => refuse
  | some c =>
    require (c != '\\')
    passSpaced
    match Property.named? [c] with
    | some p => return .ofProperty p
    | none => refuse
  | none => refuse

/-- What stands for a character, for some, or for a place between them. -/
inductive Atom where
  /-- The flag tells that it was written as a byte. -/
  | char (c : Char) (byte : Bool)
  | members (m : Members)
  | place

/-- Letters that stand for a control character. -/
def control? : Char → Option Char
  | 'a' => some '\x07'
  | 'f' => some '\x0c'
  | 'n' => some '\n'
  | 'r' => some '\r'
  | 't' => some '\t'
  | 'v' => some '\x0b'
  | _ => none

/-- The name of a word's bound may stand in braces behind `\b`. What does not begin with
a letter or a hyphen there is a count. -/
def wordBound : Reader Unit := do
  let isNameChar (c : Char) : Bool := c.isAlpha || c == '-'
  let start ← rest
  if start.head? == some '\x7b' then
    passSpaced
    match ← peek with
    | none => refuse
    | some c =>
      if isNameChar c then
        let name := String.ofList (← takeAllSpaced isNameChar)
        require (["start", "end", "start-half", "end-half"].contains name)
        expect '\x7d'
      else setRest start

/-- An escape, from its backslash on. -/
def escape : Reader Atom := do
  pass
  let unicode := (← switches).unicode
  match ← peek with
  | none => refuse
  | some c =>
    match c with
    | 'x' => do let (c, byte) ← codePoint 2; return .char c byte
    | 'u' => do let (c, byte) ← codePoint 4; return .char c byte
    | 'U' => do let (c, byte) ← codePoint 8; return .char c byte
    | 'p' | 'P' =>
      let m ← property
      require unicode
      return .members (if c == 'P' then m.complement else m)
    | _ =>
      pass
      match Members.letterClass? unicode c.toLower with
      | some m =>
        require (unicode || c.isLower)
        return .members (if c.isUpper then m.complement else m)
      | none =>
        if c == 'b' then
          wordBound
          return .place
        else if "ABz<>".contains c then return .place
        else match control? c with
          | some control => return .char control false
          | none =>
            require (c.toNat < 0x80 && !c.isAlphanum)
            return .char c false

/-- The character behind the blanks and the first sign of a comment, looked for behind
the present one. -/
def peekBehind : Reader (Option Char) := do
  let behind := (← rest).drop 1
  if (← switches).spaced then
    let body := match behind.dropWhile isBlank with
      | '#' :: more => more.dropWhile isBlank
      | body => body
    return body.head?.or behind.head?
  else return behind.head?

/-- What a class holds so far: how many items, how deep they nest, and the members. -/
structure ClassItems where
  count : Nat := 0
  nesting : Nat := 0
  members : Members := {}

namespace ClassItems

def add (items : ClassItems) (nesting : Nat) (m : Members) : ClassItems :=
  ⟨items.count + 1, max items.nesting nesting, items.members.union m⟩

/-- Several items nest one deeper than the deepest. -/
def depth (items : ClassItems) : Nat :=
  if items.count ≤ 1 then items.nesting else items.nesting + 1

end ClassItems

/-- An operator of a class with its left side. -/
structure LeftSide where
  operator : SetOperator
  nesting : Nat
  members : Members

/-- Brings the items behind an operator together with its left side. -/
def joinSides (left : Option LeftSide) (items : ClassItems) : Nat × Members :=
  match left with
  | none => (items.depth, items.members)
  | some l => (max l.nesting items.depth + 1, l.members.combine items.members l.operator)

def classAtom : Reader Atom := do
  match ← peek with
  | none => refuse
  | some '\\' => escape
  | some c =>
    pass
    return .char c false

/-- The members that one item of a class stands for. -/
def single (folding : Bool) : Atom → Reader Members
  | .char c _ => return if folding then (Members.ofChar c).foldCase else .ofChar c
  | .members m => return m
  | .place => refuse

/-- Outside Unicode a class holds ASCII only. -/
def requireClassChar (c : Char) : Reader Unit := do
  require ((← switches).unicode || c.toNat < 0x80)

/-- A member of a class, or a range of them. -/
def classRange : Reader Members := do
  let folding := (← switches).folding
  let low ← classAtom
  if let .char c _ := low then requireClassChar c
  skipSpace
  let behind ← peekBehind
  match ← peek with
  | none => refuse
  | some '-' =>
    if behind == some ']' || behind == some '-' then single folding low
    else
      passSpaced
      match low, ← classAtom with
      | .char a _, .char b _ =>
        requireClassChar b
        require (a ≤ b)
        let m := Members.ofRanges [(a.toNat, b.toNat)]
        return if folding then m.foldCase else m
      | _, _ => refuse
  | some _ => single folding low

/-- A class with a name between colons, such as `[:alpha:]`. -/
def asciiClass? (s : List Char) : Option (Bool × Members × List Char) :=
  match s with
  | '[' :: ':' :: rest =>
    let (negated, rest) := match rest with
      | '^' :: rest => (true, rest)
      | rest => (false, rest)
    match rest.dropWhile (· != ':') with
    | ':' :: ']' :: after =>
      (Members.asciiClass? (String.ofList (rest.takeWhile (· != ':')))).map (negated, ·, after)
    | _ => none
  | _ => none

def setOperator? : List Char → Option SetOperator
  | '&' :: '&' :: _ => some .intersection
  | '-' :: '-' :: _ => some .difference
  | '~' :: '~' :: _ => some .symmetricDifference
  | _ => none

/-- Hyphens that open a class are members, and so is a bracket that comes first. -/
def openItems : Reader ClassItems := do
  let hyphens ← takeAllSpaced (· == '-')
  if hyphens.isEmpty then
    if (← peek) == some ']' then
      passSpaced
      return ClassItems.add {} 0 (.ofChar ']')
    else return {}
  else return ⟨hyphens.length, 0, .ofChar '-'⟩

mutual

/-- A class, from its bracket on, with its nesting. -/
def bracketed : Nat → Reader (Nat × Members)
  | 0 => refuse
  | fuel + 1 => do
    passSpaced
    let negated := (← peek) == some '^'
    if negated then passSpaced
    let (nesting, m) ← classItems fuel none (← openItems)
    require (!negated || (← switches).unicode)
    return (nesting + 1, if negated then m.complement else m)

/-- The items of a class up to its closing bracket. -/
def classItems : Nat → Option LeftSide → ClassItems → Reader (Nat × Members)
  | 0, _, _ => refuse
  | fuel + 1, left, items => do
    skipSpace
    let here ← rest
    match here with
    | [] => refuse
    | ']' :: _ =>
      pass
      return joinSides left items
    | '[' :: _ =>
      match asciiClass? here with
      | some (negated, m, after) =>
        require (!negated || (← switches).unicode)
        setRest after
        classItems fuel left (items.add 0 (if negated then m.complement else m))
      | none =>
        let (nesting, m) ← bracketed fuel
        classItems fuel left (items.add nesting m)
    | _ =>
      match setOperator? here with
      | some operator =>
        setRest (here.drop 2)
        let (nesting, m) := joinSides left items
        classItems fuel (some ⟨operator, nesting, m⟩) {}
      | none => classItems fuel left (items.add 0 (← classRange))

end

/-- A number of a count, with blanks on both sides; none where no digit stands. -/
def countNumber : Reader (Option Nat) := do
  setRest ((← rest).dropWhile isBlank)
  let digits ← takeAllSpaced Char.isDigit
  setRest ((← rest).dropWhile isBlank)
  skipSpace
  match Decimal.read? digits with
  | some n =>
    require (n < Nat.pow 2 32)
    return some n
  | none => return none

/-- A count between braces: one number, a least number, or a least and a greatest. -/
def count : Reader (Nat × Option Nat) := do
  passSpaced
  match ← countNumber with
  | none => refuse
  | some low =>
    let high ←
      if (← peek) == some ',' then
        passSpaced
        if (← peek) == some '\x7d' then pure none
        else
          match ← countNumber with
          | none => refuse
          | some high =>
            require (low ≤ high)
            pure (some high)
      else pure (some low)
    require ((← peek) == some '\x7d')
    passSpaced
    return (low, high)

/-- A question mark behind a repetition prefers few copies. -/
def skipPreference : Reader Unit := do
  if (← peek) == some '?' then pass

/-- Repeats the part read last, if there is one and it is no row of switches. -/
def repeatLast (parts : List Expr) (low : Nat) (high : Option Nat) : Reader (List Expr) :=
  match parts with
  | [] | .switches :: _ => refuse
  | e :: before => return .repeated e low high :: before

def isNameStart (c : Char) : Bool := c == '_' || letters.contains c

def isNameChar (c : Char) : Bool :=
  "_.[]".contains c || letters.contains c || numerals.contains c

/-- The name of a group, up to and with the angle that ends it. -/
def groupName : Reader Unit := do
  let name := (← rest).takeWhile (· != '>')
  require (name.head?.any isNameStart && name.all isNameChar)
  setRest ((← rest).drop name.length)
  expect '>'
  let name := String.ofList name
  let p ← get
  require (!p.names.contains name)
  set { p with names := name :: p.names }

/-- Reads letters of switches up to a colon or a parenthesis. None stands twice, and
the minus sign does not stand last. -/
def flags : Reader (List Char) := do
  let fs := (← rest).takeWhile fun c => c != ':' && c != ')'
  require (fs.all ("imsUuRx-".contains ·) && fs.eraseDups.length == fs.length)
  require (fs.getLast? != some '-')
  setRest ((← rest).drop fs.length)
  return fs

/-- How a group begins. -/
inductive Opening where
  | switches
  | group (captures : Bool)

def passPrefix (text : List Char) : Reader Bool := do
  let here ← rest
  if text.isPrefixOf here then
    setRest (here.drop text.length)
    return true
  else return false

/-- What stands behind the parenthesis that opens a group. -/
def opening : Reader Opening := do
  passSpaced
  for look in ["?=", "?!", "?<=", "?<!"] do
    require (!look.toList.isPrefixOf (← rest))
  if (← passPrefix ['?', 'P', '<']) || (← passPrefix ['?', '<']) then
    groupName
    return .group true
  else if ← passPrefix ['?'] then
    let fs ← flags
    let s ← switches
    match ← peek with
    | some ')' =>
      require (!fs.isEmpty)
      pass
      setSwitches (s.apply fs)
      return .switches
    | some ':' =>
      pass
      setSwitches (s.apply fs)
      return .group false
    | _ => refuse
  else return .group true

/-- A character or a class that is no group, or a place. -/
def primitive : Reader Expr := do
  let s ← switches
  match ← peek with
  | none => refuse
  | some '\\' =>
    match ← escape with
    | .char c byte =>
      require (s.unicode || !byte || c.toNat < 0x80)
      return .literal c s.folding
    | .members m => return .members 0 m
    | .place => return .place
  | some '.' =>
    pass
    require s.unicode
    return .members 0 .dot
  | some c =>
    pass
    if c == '^' || c == '$' then return .place else return .literal c s.folding

mutual

/-- Alternatives up to a closing parenthesis or the end, the latest of `before` first. -/
def choice : Nat → List Expr → Reader Expr
  | 0, _ => refuse
  | fuel + 1, before => do
    let e := Expr.ofSequence (← parts fuel []).reverse
    if (← peek) == some '|' then
      pass
      choice fuel (e :: before)
    else return .ofChoice (e :: before).reverse

/-- The parts of an alternative, the latest first. -/
def parts : Nat → List Expr → Reader (List Expr)
  | 0, _ => refuse
  | fuel + 1, before => do
    skipSpace
    match ← peek with
    | none | some ')' | some '|' => return before
    | some '(' =>
      let s ← switches
      match ← opening with
      | .switches => parts fuel (.switches :: before)
      | .group captures =>
        let e ← choice fuel []
        setSwitches s
        expect ')'
        parts fuel (.group captures e :: before)
    | some '[' =>
      let (nesting, m) ← bracketed fuel
      parts fuel (.members nesting m :: before)
    | some '\x7b' =>
      let (low, high) ← count
      skipPreference
      parts fuel (← repeatLast before low high)
    | some c =>
      if c == '*' || c == '+' || c == '?' then
        pass
        skipPreference
        parts fuel
          (← repeatLast before (if c == '+' then 1 else 0) (if c == '?' then some 1 else none))
      else parts fuel ((← primitive) :: before)

end

end Reader

/-- Reads a whole text as an expression. -/
def parse? (text : String) : Option Expr :=
  let cs := text.toList
  match (Reader.choice (2 * cs.length + 8) []).run ⟨cs, {}, []⟩ with
  | some (e, p) => if p.rest.isEmpty then some e else none
  | none => none

end DnsBalancer.Text.Pattern
