/-!
# Tokens of a YAML text

The pieces a text falls into: indicators, the starts and ends of blocks that
indentation implies, names of anchors and tags, and scalars with the way each was
written.
-/
namespace DnsBalancer.Yaml

/-- A tag of the schema, in full. -/
def schemaTag (name : String) : String := "tag:yaml.org,2002:" ++ name

/-- Ends the text of a tag whose bytes are no text. No other tag holds it. -/
def unreadableMark : Char := '\x00'

inductive Style where
  | plain
  | singleQuoted
  | doubleQuoted
  | literal
  | folded
  deriving DecidableEq, Repr, Inhabited

inductive Token where
  | versionDirective (major minor : Nat)
  | tagDirective (handle expansion : String)
  | documentStart
  | documentEnd
  | blockSequenceStart
  | blockMappingStart
  | blockEnd
  | flowSequenceStart
  | flowSequenceEnd
  | flowMappingStart
  | flowMappingEnd
  | blockEntry
  | flowEntry
  | key
  | value
  | reference (name : String)
  | anchor (name : String)
  | tag (handle suffix : String)
  | scalar (text : String) (style : Style)
  deriving DecidableEq, Repr, Inhabited

end DnsBalancer.Yaml
