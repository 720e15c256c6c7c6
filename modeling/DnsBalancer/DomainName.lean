import DnsBalancer.Text.Blank

/-!
# Domain names

Names are compared in their normal form: lower case, no blanks around them, one
dot at the end. A zone holds its own name and every name below it.
-/
namespace DnsBalancer.DomainName

open Text

/-- The normal form of a name: blanks and trailing dots gone, ASCII letters in
lower case, one dot at the end. -/
def normalizeChars (name : List Char) : List Char :=
  (dropEndWhile (· == '.') (trimBlank name)).map Char.toLower ++ ['.']

def normalize (name : String) : String :=
  String.ofList (normalizeChars name.toList)

/-- Whether `name` is the zone's own name or ends in a dot and that name. Both are
compared as they are written. -/
def inZone (name zone : String) : Bool :=
  name.toList == zone.toList || ('.' :: zone.toList).isSuffixOf name.toList

end DnsBalancer.DomainName
