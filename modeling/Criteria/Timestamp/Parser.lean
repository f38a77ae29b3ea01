import Criteria.Json.Basic
import Criteria.Text.Blank
import Criteria.Timestamp.Basic

/-!
# Reading timestamps

Four spellings of an instant, tried in turn: RFC 3339 with an offset, a date and a time in UTC, a
date at midnight, and seconds from 1970-01-01. The two middle ones are lenient about blanks in front
of numbers and about leading zeros; the first is strict. Second 60 is a leap second at any minute.
-/

namespace Criteria.Timestamp

/-- The start of a text read as a value, and the rest of the text. -/
abbrev Reading (α : Type) := Option (α × List Char)

/-! ### Pieces -/

/-- One given character. -/
def literal (c : Char) : List Char → Option (List Char)
  | d :: rest => if d = c then some rest else none
  | [] => none

/-- Exactly `count` digits. -/
def fixedDigits (count : Nat) (cs : List Char) : Reading Nat :=
  let ds := cs.take count
  if ds.length = count ∧ ds.all Decimal.isDigit then some (Decimal.valueOf ds, cs.drop count)
  else none

/-- A number beyond every year. -/
def yearBound : Nat := 1000000

/-- One digit or more, taking as many as there are; beyond every year, all numbers are the same. -/
def allDigits (cs : List Char) : Reading Nat :=
  let ds := cs.takeWhile Decimal.isDigit
  if ds.isEmpty then none
  else some (Decimal.valueUpTo yearBound ds, cs.dropWhile Decimal.isDigit)

/-- One digit or more, taking at most `most`. -/
def someDigits (most : Nat) (cs : List Char) : Reading Nat :=
  let ds := (cs.take most).takeWhile Decimal.isDigit
  if ds.isEmpty then none else some (Decimal.valueOf ds, cs.drop ds.length)

/-- A number of at most two digits, blanks in front. -/
def looseNumber (cs : List Char) : Reading Nat :=
  someDigits 2 (Text.trimStart cs)

/-- A year, blanks in front: up to four digits, or any number of them behind a sign. -/
def looseYear (cs : List Char) : Reading Int :=
  match Text.trimStart cs with
  | '-' :: rest => (allDigits rest).map fun (n, rest) => (-(n : Int), rest)
  | '+' :: rest => (allDigits rest).map fun (n, rest) => ((n : Int), rest)
  | cs => (someDigits 4 cs).map fun (n, rest) => ((n : Int), rest)

/-! ### Instants -/

/-- The instant of a date and a time of day. `fraction` is in nanoseconds; second 60 is the leap
second behind second 59. -/
def ofFields? (date : Date) (hour minute second fraction : Nat) : Option Timestamp :=
  if date.isValid && hour < 24 && minute < 60 && second ≤ 60 then
    let leap := second / 60
    let seconds := hour * 3600 + minute * 60 + (second - leap)
    some ⟨date.toDays * secondsPerDay + (seconds : Nat), fraction + leap * nanosPerSecond⟩
  else none

/-- Nanoseconds from the digits behind the point; those behind the ninth are dropped. -/
def nanosOfDigits (ds : List Char) : Nat :=
  let ds := ds.take 9
  Decimal.valueOf ds * Nat.pow 10 (9 - ds.length)

/-- An optional fraction of a second. -/
def fraction (cs : List Char) : Reading Nat :=
  match cs with
  | '.' :: rest =>
    let ds := rest.takeWhile Decimal.isDigit
    if ds.isEmpty then none else some (nanosOfDigits ds, rest.dropWhile Decimal.isDigit)
  | cs => some (0, cs)

/-- The offset from UTC in seconds, with nothing behind it. -/
def offset? (cs : List Char) : Option Int :=
  match cs with
  | ['Z'] | ['z'] => some 0
  | sign :: rest => do
    let (hours, rest) ← fixedDigits 2 rest
    let rest ← literal ':' rest
    let (minutes, rest) ← fixedDigits 2 rest
    let seconds : Nat := hours * 3600 + minutes * 60
    if rest.isEmpty && minutes < 60 && hours < 24 then
      if sign = '+' then some (seconds : Int)
      else if sign = '-' || sign = '\u2212' then some (-(seconds : Int))
      else none
    else none
  | [] => none

/-! ### The four spellings -/

/-- RFC 3339: every field at its full width, a `T` or one space before the time, and an offset. -/
def ofRfc3339? (cs : List Char) : Option Timestamp := do
  let (year, cs) ← fixedDigits 4 cs
  let cs ← literal '-' cs
  let (month, cs) ← fixedDigits 2 cs
  let cs ← literal '-' cs
  let (day, cs) ← fixedDigits 2 cs
  let cs ← literal 'T' cs <|> literal 't' cs <|> literal ' ' cs
  let (hour, cs) ← fixedDigits 2 cs
  let cs ← literal ':' cs
  let (minute, cs) ← fixedDigits 2 cs
  let cs ← literal ':' cs
  let (second, cs) ← fixedDigits 2 cs
  let (nanos, cs) ← fraction cs
  let offset ← offset? cs
  let t ← ofFields? ⟨(year : Int), month, day⟩ hour minute second nanos
  pure { t with seconds := t.seconds - offset }

/-- Year, month and day between dashes. -/
def looseDate (cs : List Char) : Option (Date × List Char) := do
  let (year, cs) ← looseYear cs
  let cs ← literal '-' cs
  let (month, cs) ← looseNumber cs
  let cs ← literal '-' cs
  let (day, cs) ← looseNumber cs
  pure (⟨year, month, day⟩, cs)

/-- A date and a time in UTC, without a fraction. -/
def ofDateTime? (cs : List Char) : Option Timestamp := do
  let (date, cs) ← looseDate cs
  let (hour, cs) ← looseNumber cs
  let cs ← literal ':' cs
  let (minute, cs) ← looseNumber cs
  let cs ← literal ':' cs
  let (second, cs) ← looseNumber cs
  if cs.isEmpty then ofFields? date hour minute second 0 else none

/-- A date, at midnight. -/
def ofDate? (cs : List Char) : Option Timestamp := do
  let (date, cs) ← looseDate cs
  if cs.isEmpty then ofFields? date 0 0 0 0 else none

/-- Seconds from 1970-01-01, in decimal notation. -/
def ofUnixText? (cs : List Char) : Option Timestamp :=
  (Decimal.wordOfChars? cs).bind ofSeconds?

/-- A text without blanks around it, in the first spelling that fits. -/
def ofChars? (cs : List Char) : Option Timestamp :=
  ofRfc3339? cs <|> ofDateTime? cs <|> ofDate? cs <|> ofUnixText? cs

/-- A string in one of the four spellings, blanks around it aside, or a number of seconds. -/
def ofJson? : Json → Option Timestamp
  | .string s => ofChars? (Text.trim s.toList)
  | .number n => n.word?.bind ofSeconds?
  | _ => none

end Criteria.Timestamp
