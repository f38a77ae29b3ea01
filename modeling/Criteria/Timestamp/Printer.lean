import Criteria.Text.Decimal
import Criteria.Timestamp.Basic

/-!
# Printing timestamps

The RFC 3339 text of an instant in UTC. The fraction is left out when it is zero and otherwise has
the fewest of 3, 6 or 9 digits that say it exactly. A year outside 0 to 9999 carries a sign.
-/

namespace Criteria.Timestamp

/-- A year with at least four digits, signed outside 0 to 9999. -/
def yearText (year : Int) : String :=
  if 0 ≤ year && year ≤ 9999 then Decimal.padded 4 year.natAbs
  else if year < 0 then "-" ++ Decimal.padded 4 year.natAbs
  else "+" ++ Decimal.padded 4 year.natAbs

/-- The fraction of a second, with its point. -/
def fractionText (nanos : Nat) : String :=
  if nanos == 0 then ""
  else if nanos % 1000000 == 0 then "." ++ Decimal.padded 3 (nanos / 1000000)
  else if nanos % 1000 == 0 then "." ++ Decimal.padded 6 (nanos / 1000)
  else "." ++ Decimal.padded 9 nanos

/-- The date and time of day, without an offset. -/
def localText (t : Timestamp) : String :=
  let date := Date.ofDays t.day
  let s := t.secondOfDay
  let leap := t.nanos / nanosPerSecond
  yearText date.year ++ "-" ++ Decimal.padded 2 date.month ++ "-" ++ Decimal.padded 2 date.day ++
    "T" ++ Decimal.padded 2 (s / 3600) ++ ":" ++ Decimal.padded 2 (s / 60 % 60) ++ ":" ++
    Decimal.padded 2 (s % 60 + leap) ++ fractionText (t.nanos % nanosPerSecond)

/-- The RFC 3339 text in UTC. -/
def toText (t : Timestamp) : String :=
  t.localText ++ "Z"

end Criteria.Timestamp
