import DnsBalancer.Yaml.Node
import DnsBalancer.Yaml.Token.Scan

/-!
# Documents from tokens

Builds the one document of a token row. A place where a node may stand and none
does holds the empty node. Directives, undefined tag handles, unknown anchors and
text behind the document are judged here; the answer is `none` for a refused text.
-/
namespace DnsBalancer.Yaml

structure Builder where
  dialect : Dialect
  tokens : List Token
  /-- Tag handles and what each expands to. -/
  handles : List (String × String)
  /-- Anchor names with their numbers, the latest first. -/
  names : List (String × Nat) := []
  anchors : Array Node := #[]
  places : Array Nat := #[]
  /-- Numbers of the anchors whose nodes are not complete. -/
  pending : List Nat := []
  /-- How many different names were set. -/
  distinct : Nat := 0
  size : Nat := 0

abbrev Build := StateT Builder Option

namespace Build

def refuse {α : Type} : Build α := fun _ => none

def peek : Build (Option Token) := do return (← get).tokens.head?

def pass : Build Unit := modify fun b => { b with tokens := b.tokens.drop 1 }

/-- Passes the given token, or refuses another. -/
def expect (t : Token) : Build Unit := do
  if (← peek) == some t then pass else refuse

def count (n : Nat) : Build Unit := modify fun b => { b with size := b.size + n }

/-- An empty node, as if written. -/
def emptyNode : Build Node := do
  count 1
  return .empty (← get).dialect

/-- Numbers a new anchor. Its node follows once it is complete. -/
def openAnchor (name : String) : Build Nat := do
  let b ← get
  let n := b.anchors.size
  set { b with
    names := (name, n) :: b.names
    anchors := b.anchors.push .unfinished
    pending := n :: b.pending
    places := b.places.push b.distinct
    distinct := if (b.names.lookup name).isSome then b.distinct else b.distinct + 1 }
  return n

def closeAnchor (anchor : Option Nat) (node : Node) : Build Node := do
  match anchor with
  | some n => modify fun b => { b with
      anchors := b.anchors.setIfInBounds n node
      pending := b.pending.erase n }
  | none => pure ()
  return node

/-- The tag that a handle and a suffix stand for. In the lenient dialect two marks always
name a tag of the schema and every other tag is the document's own. -/
def expandTag (handle suffix : String) : Build String := do
  let b ← get
  match b.dialect with
  | .lenient => return if handle == "!!" then schemaTag suffix else "!" ++ suffix
  | .strict =>
    if handle.isEmpty then return suffix
    match b.handles.lookup handle with
    | some expansion => return expansion ++ suffix
    | none => refuse

/-- A reference by name. -/
def reference (name : String) : Build Node := do
  let b ← get
  match b.names.lookup name with
  | some n =>
    return if b.dialect == .lenient && b.pending.contains n then .unfinished else .reference n
  | none => refuse

def anchorHere : Build (Option Nat) := do
  match ← peek with
  | some (.anchor name) => pass; return some (← openAnchor name)
  | _ => return none

def tagHere : Build (Option String) := do
  match ← peek with
  | some (.tag handle suffix) => pass; return some (← expandTag handle suffix)
  | _ => return none

/-- The anchor and the tag in front of a node, in either order. -/
def properties : Build (Option Nat × Option String) := do
  match ← anchorHere with
  | some n => return (some n, ← tagHere)
  | none =>
    let tag ← tagHere
    return (← anchorHere, tag)

/-- Passes the mark of a key, if one is here. In the lenient dialect the mark of a value
may stand without one, behind an empty key. -/
def keyMark : Build Bool := do
  match ← peek with
  | some .key => pass; return true
  | some .value => return (← get).dialect == .lenient
  | _ => return false

/-- The token ends the value or the key of a block mapping. -/
def endsBlockPart : Option Token → Bool
  | some .key | some .value | some .blockEnd => true
  | _ => false

def endsFlowKey (close : Token) : Option Token → Bool
  | some .value | some .flowEntry => true
  | t => t == some close

def endsFlowValue (close : Token) : Option Token → Bool
  | some .flowEntry => true
  | t => t == some close

mutual

/-- One node. In flow context no block may open; the value of a block mapping may be
a sequence at the mapping's own column. -/
def node : Nat → Bool → Bool → Build Node
  | 0, _, _ => refuse
  | fuel + 1, inBlock, atColumn => do
    match ← peek with
    | some (.reference name) =>
      pass
      count 1
      reference name
    | _ =>
      let (anchor, tag) ← properties
      let content ← match ← peek with
        | some (.scalar text style) =>
          pass; count 1
          pure (Node.scalar tag style text)
        | some .flowSequenceStart =>
          pass; count 2
          pure (.sequence tag (← flowItems fuel true))
        | some .flowMappingStart =>
          pass; count 2
          pure (.mapping tag (← flowEntries fuel true))
        | some .blockEntry =>
          if atColumn then
            count 2
            pure (.sequence tag (← columnItems fuel))
          else if anchor.isSome || tag.isSome then
            count 1
            pure (.scalar tag .plain "")
          else refuse
        | some .blockSequenceStart =>
          if inBlock then
            pass; count 2
            pure (.sequence tag (← blockItems fuel))
          else if anchor.isSome || tag.isSome then
            count 1
            pure (.scalar tag .plain "")
          else refuse
        | some .blockMappingStart =>
          if inBlock then
            pass; count 2
            pure (.mapping tag (← blockEntries fuel))
          else if anchor.isSome || tag.isSome then
            count 1
            pure (.scalar tag .plain "")
          else refuse
        | _ =>
          if anchor.isSome || tag.isSome then
            count 1
            pure (.scalar tag .plain "")
          else refuse
      closeAnchor anchor content

/-- The entries of a block sequence, up to its end. -/
def blockItems : Nat → Build (List Node)
  | 0 => refuse
  | fuel + 1 => do
    match ← peek with
    | some .blockEnd => pass; return []
    | some .blockEntry =>
      pass
      let item ← match ← peek with
        | some .blockEntry | some .blockEnd => emptyNode
        | _ => node fuel true false
      return item :: (← blockItems fuel)
    | _ => refuse

/-- The entries of a sequence that stands at its mapping's column. -/
def columnItems : Nat → Build (List Node)
  | 0 => refuse
  | fuel + 1 => do
    match ← peek with
    | some .blockEntry =>
      pass
      let next ← peek
      let item ←
        if next == some .blockEntry || endsBlockPart next then emptyNode
        else node fuel true false
      return item :: (← columnItems fuel)
    | _ => return []

/-- The entries of a block mapping, up to its end. -/
def blockEntries : Nat → Build (List (Node × Node))
  | 0 => refuse
  | fuel + 1 => do
    if (← peek) == some .blockEnd then
      pass
      return []
    if !(← keyMark) then refuse
    let key ← if endsBlockPart (← peek) then emptyNode else node fuel true true
    let value ←
      if (← peek) == some .value then do
        pass
        if endsBlockPart (← peek) then emptyNode else node fuel true true
      else emptyNode
    return (key, value) :: (← blockEntries fuel)

/-- The items of a flow sequence. A key inside it makes a mapping of one entry. -/
def flowItems : Nat → Bool → Build (List Node)
  | 0, _ => refuse
  | fuel + 1, first => do
    if (← peek) == some .flowSequenceEnd then
      pass
      return []
    if !first then expect .flowEntry
    match ← peek with
    | some .flowSequenceEnd => pass; return []
    | some .key =>
      pass
      count 2
      let item ← flowPair fuel
      return item :: (← flowItems fuel false)
    | _ =>
      let item ← node fuel false false
      return item :: (← flowItems fuel false)

def flowPair : Nat → Build Node
  | 0 => refuse
  | fuel + 1 => do
    let key ←
      if endsFlowKey .flowSequenceEnd (← peek) then do
        pass
        emptyNode
      else node fuel false false
    let value ←
      if (← peek) == some .value then do
        pass
        if endsFlowValue .flowSequenceEnd (← peek) then emptyNode else node fuel false false
      else emptyNode
    return .mapping none [(key, value)]

/-- The entries of a flow mapping. One without a colon has an empty value. -/
def flowEntries : Nat → Bool → Build (List (Node × Node))
  | 0, _ => refuse
  | fuel + 1, first => do
    if (← peek) == some .flowMappingEnd then
      pass
      return []
    if !first then expect .flowEntry
    if (← peek) == some .flowMappingEnd then
      pass
      return []
    if ← keyMark then
      let key ← if endsFlowKey .flowMappingEnd (← peek) then emptyNode else node fuel false false
      let value ←
        if (← peek) == some .value then do
          pass
          if endsFlowValue .flowMappingEnd (← peek) then emptyNode else node fuel false false
        else emptyNode
      return (key, value) :: (← flowEntries fuel false)
    else
      let key ← node fuel false false
      let value ← emptyNode
      return (key, value) :: (← flowEntries fuel false)

end

/-- Reads the directives in front of a document. In the strict dialect the version is 1.1
or 1.2 and nothing is set twice. -/
def directives : Nat → Bool → Build Unit
  | 0, _ => refuse
  | fuel + 1, versioned => do
    let strict := (← get).dialect == .strict
    match ← peek with
    | some (.versionDirective major minor) =>
      if strict && (versioned || major != 1 || !(minor == 1 || minor == 2)) then refuse
      else pass; directives fuel true
    | some (.tagDirective handle expansion) =>
      let b ← get
      if strict && (b.handles.lookup handle).isSome then refuse
      else
        set { b with handles := (handle, expansion) :: b.handles, tokens := b.tokens.drop 1 }
        directives fuel versioned
    | _ => return ()

/-- The handles that every document knows unless it redefines them. -/
def addStandardHandles : Build Unit :=
  modify fun b => { b with handles := b.handles ++ [("!", "!"), ("!!", schemaTag "")] }

def document : Build Node := do
  let fuel := 4 * (← get).tokens.length + 8
  match ← peek with
  | none => emptyNode
  | some (.versionDirective _ _) | some (.tagDirective _ _) | some .documentStart =>
    directives fuel false
    addStandardHandles
    expect .documentStart
    match ← peek with
    | none | some .documentStart | some .documentEnd | some (.versionDirective _ _)
    | some (.tagDirective _ _) => emptyNode
    | _ => node fuel true false
  | _ =>
    addStandardHandles
    node fuel true false

end Build

/-- The document a text holds: nothing but end markers may follow it. -/
def Document.parse? (d : Dialect) (text : String) : Option Document := do
  let tokens ← tokens? d text
  let (root, b) ← Build.document { dialect := d, tokens := tokens.toList, handles := [] }
  if b.tokens.all (· == .documentEnd) then some ⟨root, b.anchors, b.places, b.size⟩ else none

end DnsBalancer.Yaml
