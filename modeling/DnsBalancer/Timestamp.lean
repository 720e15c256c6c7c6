import DnsBalancer.Text.Decimal

/-!
# Timestamps

A point of civil time in whole seconds since the first second of 1970, written as
date and time of day in universal time.
-/
namespace DnsBalancer

open Text

structure Timestamp where
  seconds : Int
  deriving DecidableEq, Repr, Inhabited

namespace Timestamp

/-- Days from the first of March of year 0 to the first of January 1970. -/
def epochDays : Int := 719468

/-- Year, month and day of a day counted from the first of January 1970. The calendar
repeats after 146097 days, and its years are taken to begin in March. -/
def civil (day : Int) : Int × Nat × Nat :=
  let z := day + epochDays
  let era := z.fdiv 146097
  let doe := (z.fmod 146097).toNat
  let yoe := (doe - doe / 1460 + doe / 36524 - doe / 146096) / 365
  let doy := doe - (365 * yoe + yoe / 4 - yoe / 100)
  let mp := (5 * doy + 2) / 153
  let day := doy - (153 * mp + 2) / 5 + 1
  let month := if mp < 10 then mp + 3 else mp - 9
  let year := (yoe : Int) + era * 400 + (if month ≤ 2 then 1 else 0)
  (year, month, day)

/-- `n` with zeros in front up to `width` digits. -/
def padded (width n : Nat) : String :=
  let ds := Decimal.digits n
  String.ofList (List.replicate (width - ds.length) '0' ++ ds)

/-- Four digits, and a sign in front of a year that four digits do not hold. -/
def renderYear (year : Int) : String :=
  if 0 ≤ year ∧ year ≤ 9999 then padded 4 year.toNat
  else (if year < 0 then "-" else "+") ++ padded 4 year.natAbs

def render (t : Timestamp) : String :=
  let (year, month, day) := civil (t.seconds.fdiv 86400)
  let second := (t.seconds.fmod 86400).toNat
  renderYear year ++ "-" ++ padded 2 month ++ "-" ++ padded 2 day ++ "T" ++
    padded 2 (second / 3600) ++ ":" ++ padded 2 (second / 60 % 60) ++ ":" ++
    padded 2 (second % 60) ++ "Z"

end Timestamp

end DnsBalancer
