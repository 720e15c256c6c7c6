import DnsBalancer.Text.Hidden

/-!
# Quoted text

Text between double quotes, with escapes for quotes, backslashes and characters
that show nothing by themselves.
-/
namespace DnsBalancer.Text

/-- The hexadecimal digits of a code point, in lower case. -/
def hexDigits (n : Nat) : List Char :=
  if n < 16 then [(Nat.digitChar n)]
  else hexDigits (n / 16) ++ [Nat.digitChar (n % 16)]
termination_by n

def escapeChar (c : Char) : List Char :=
  if c == '"' then ['\\', '"']
  else if c == '\\' then ['\\', '\\']
  else if c == '\n' then ['\\', 'n']
  else if c == '\r' then ['\\', 'r']
  else if c == '\t' then ['\\', 't']
  else if c == '\x00' then ['\\', '0']
  else if hidden.contains c then ['\\', 'u', '\x7b'] ++ hexDigits c.toNat ++ ['\x7d']
  else [c]

/-- The text between double quotes, escaped. -/
def quoted (s : String) : String :=
  "\"" ++ String.ofList (s.toList.flatMap escapeChar) ++ "\""

end DnsBalancer.Text
