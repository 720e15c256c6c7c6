import DnsBalancer.Metrics.Exposition

/-!
# The metrics page

The page stands under one path, which is compared as it is written; all else is not
found.
-/
namespace DnsBalancer.Page

structure Response where
  status : Nat
  contentType : Option String
  body : List String
  deriving DecidableEq, Repr

def endsPath (c : Char) : Bool := c == '?' || c == '#'

/-- What follows the scheme's `://`. -/
def afterScheme? : List Char → Option (List Char)
  | ':' :: '/' :: '/' :: rest => some rest
  | c :: rest => if c == '/' || endsPath c then none else afterScheme? rest
  | [] => none

/-- The path of a request target. With a host in front an empty path is the root; a
bare host has none. -/
def path (target : String) : String :=
  let cs := target.toList
  match cs with
  | '/' :: _ => String.ofList (cs.takeWhile (!endsPath ·))
  | ['*'] => target
  | _ =>
    match afterScheme? cs with
    | none => ""
    | some rest =>
      let path := (rest.dropWhile fun c => !(c == '/' || endsPath c)).takeWhile (!endsPath ·)
      if path.isEmpty then "/" else String.ofList path

/-- Answers a request for `target` when the page stands under `place`. -/
def respond (m : Metrics) (place target : String) : Response :=
  if path target == place then ⟨200, some "text/plain; version=0.0.4", m.render⟩
  else ⟨404, none, ["Not Found"]⟩

end DnsBalancer.Page
