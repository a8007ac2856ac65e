import Witnessed.Text.Decimal

/-!
Points in time as dates of the proleptic Gregorian calendar in UTC, written as in RFC 3339.
-/

namespace Witnessed.Calendar

/-- The last second that has a date: the end of 31 December of the year 262142. -/
def lastSecond : Nat := 8210266876799

structure Date where
  year : Nat
  month : Nat
  day : Nat
  deriving DecidableEq, Repr

/-- The date that lies so many days after 1 January 1970. Years are counted from March, so that
a leap day comes last; 400 years are 146097 days. -/
def dateOf (days : Nat) : Date :=
  let n := days + 719468
  let era := n / 146097
  let inEra := n % 146097
  let year := (inEra - inEra / 1460 + inEra / 36524 - inEra / 146096) / 365
  let inYear := inEra - (365 * year + year / 4 - year / 100)
  let fromMarch := (5 * inYear + 2) / 153
  let month := if fromMarch < 10 then fromMarch + 3 else fromMarch - 9
  ⟨era * 400 + year + (if month ≤ 2 then 1 else 0), month, inYear - (153 * fromMarch + 2) / 5 + 1⟩

/-- A decimal filled up with zeros in front. -/
def padded (width n : Nat) : List Char :=
  let digits := Decimal.render n
  List.replicate (width - digits.length) '0' ++ digits

/-- Date and time of a count of seconds since 1970, if it has a date. A year of more than four
digits carries a sign. -/
def render? (seconds : UInt64) : Option String :=
  let n := seconds.toNat
  if lastSecond < n then none
  else
    let date := dateOf (n / 86400)
    let time := n % 86400
    let year := if 9999 < date.year then '+' :: padded 5 date.year else padded 4 date.year
    some (String.ofList (year ++ '-' :: padded 2 date.month ++ '-' :: padded 2 date.day ++
      'T' :: padded 2 (time / 3600) ++ ':' :: padded 2 (time / 60 % 60) ++
      ':' :: padded 2 (time % 60) ++ "+00:00".toList))

end Witnessed.Calendar
