import DnsBalancer.Check.Spec
import DnsBalancer.Duration.Setting
import DnsBalancer.Text.Pattern

/-!
# Parameters of health checks

What an HTTP check and a TCP check can be told, the values taken where nothing is
said, and the limits on what may be said.
-/
namespace DnsBalancer

open Yaml (Value)

structure HttpParams where
  port : Nat := 443
  enableTls : Bool := true
  uri : String := "/"
  method : String := "GET"
  host : String := "localhost"
  /-- Sorted by name, as written. -/
  headers : List (String × String) := []
  timeout : Option Duration := none
  expectedCode : Nat := 200
  /-- A pattern to find in the body; none is looked for when it is empty. -/
  expectedBody : String := ""
  skipTlsVerify : Bool := false
  deriving DecidableEq, Repr, Inhabited

structure TcpParams where
  port : Nat
  timeout : Option Duration := none
  deriving DecidableEq, Repr, Inhabited

/-- Characters of a method. -/
def isMethodChar (c : Char) : Bool :=
  c.isAlphanum || "!#*+-.^_\x60|~".toList.contains c

/-- Characters of a header's name. -/
def isHeaderNameChar (c : Char) : Bool :=
  isMethodChar c || "$%&'\"".toList.contains c

/-- Characters of a header value: no controls but the tab. -/
def isHeaderChar (c : Char) : Bool :=
  c == '\t' || (0x20 ≤ c.toNat && c.toNat != 0x7F)

def isMethod (s : String) : Bool :=
  !s.isEmpty && s.toList.all isMethodChar

/-- Header names have fewer than 2^16 characters. -/
def isHeaderName (s : String) : Bool :=
  !s.isEmpty && s.length < 0x10000 && s.toList.all isHeaderNameChar

def isHeaderText (s : String) : Bool :=
  s.toList.all isHeaderChar

/-- Puts a header in its place by name; a later value of the same name wins. -/
def insertHeader (name value : String) : List (String × String) → List (String × String)
  | [] => [(name, value)]
  | (n, v) :: rest =>
    if name < n then (name, value) :: (n, v) :: rest
    else if n == name then (name, value) :: rest
    else (n, v) :: insertHeader name value rest

namespace HttpParams

def headers? (v : Value) : Option (List (String × String)) :=
  (v.entries?).bind fun es =>
    es.foldlM (fun hs (name, v) => (v.text?).map (insertHeader name · hs)) []

def ofValue? (v : Value) : Option HttpParams := do
  let es ← v.fields? ["port", "enable_tls", "uri", "method", "host", "headers", "timeout",
    "expected_code", "expected_body", "skip_tls_verify"]
  let d : HttpParams := {}
  return {
    port := ← Value.defaulted? "port" d.port (Value.nat? 16) es
    enableTls := ← Value.defaulted? "enable_tls" d.enableTls Value.bool? es
    uri := ← Value.defaulted? "uri" d.uri Value.text? es
    method := ← Value.defaulted? "method" d.method Value.text? es
    host := ← Value.defaulted? "host" d.host Value.text? es
    headers := ← Value.defaulted? "headers" d.headers headers? es
    timeout := ← Value.defaulted? "timeout" none (Value.optional? Duration.ofValue?) es
    expectedCode := ← Value.defaulted? "expected_code" d.expectedCode (Value.nat? 16) es
    expectedBody := ← Value.defaulted? "expected_body" d.expectedBody Value.text? es
    skipTlsVerify := ← Value.defaulted? "skip_tls_verify" d.skipTlsVerify Value.bool? es }

/-- What is wrong with a header: its name first, then its value. -/
def headerFault? : List (String × String) → Option CheckFault
  | [] => none
  | (name, value) :: rest =>
    if !isHeaderName name then some (.headerName name)
    else if !isHeaderText value then some (.headerValue (Text.asciiLower name))
    else headerFault? rest

/-- The first thing wrong with the parameters: method, host, headers, pattern. -/
def fault? (p : HttpParams) : Option CheckFault :=
  if !isMethod (Text.asciiUpper p.method) then some (.method p.method)
  else if !isHeaderText p.host then some (.host p.host)
  else match headerFault? p.headers with
    | some f => some f
    | none =>
      if p.expectedBody.isEmpty || Text.Pattern.wellFormed p.expectedBody then none
      else some .bodyPattern

end HttpParams

namespace TcpParams

def ofValue? (v : Value) : Option TcpParams := do
  let es ← v.fields? ["port", "timeout"]
  return {
    port := ← Value.required? "port" (Value.nat? 16) es
    timeout := ← Value.defaulted? "timeout" none (Value.optional? Duration.ofValue?) es }

def fault? (p : TcpParams) : Option CheckFault :=
  if p.port = 0 then some .port else none

end TcpParams

end DnsBalancer
