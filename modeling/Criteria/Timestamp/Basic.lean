import Criteria.Calendar

/-!
# Timestamps

An instant in UTC: seconds from 1970-01-01 and a fraction in nanoseconds. A leap second is a
fraction of a billion or more on the second before it, so it sorts after every other fraction of
that second and before the next one.
-/

namespace Criteria

/-- An instant in UTC. -/
structure Timestamp where
  seconds : Int
  nanos : Nat
deriving DecidableEq, Inhabited

namespace Timestamp

/-- Nanoseconds of a second; a fraction from here on is a leap second. -/
def nanosPerSecond : Nat := 1000000000

/-- Seconds of a day. -/
def secondsPerDay : Int := 86400

/-- The order of time. -/
def lt (a b : Timestamp) : Bool :=
  a.seconds < b.seconds || (a.seconds == b.seconds && a.nanos < b.nanos)

theorem lt_iff (a b : Timestamp) :
    a.lt b = true ↔ a.seconds < b.seconds ∨ (a.seconds = b.seconds ∧ a.nanos < b.nanos) := by
  simp [lt]

/-- The days from 1970-01-01 to the day of an instant. -/
def day (t : Timestamp) : Int :=
  t.seconds / secondsPerDay

/-- The seconds from the midnight before an instant. -/
def secondOfDay (t : Timestamp) : Nat :=
  (t.seconds % secondsPerDay).toNat

/-- An instant at whole seconds, if it lies in the supported years. -/
def ofSeconds? (seconds : Int) : Option Timestamp :=
  let t : Timestamp := ⟨seconds, 0⟩
  if (Date.ofDays t.day).isValid then some t else none

/-- Two instants in ascending order. -/
def ascending (a b : Timestamp) : Timestamp × Timestamp :=
  if b.lt a then (b, a) else (a, b)

end Timestamp

end Criteria
