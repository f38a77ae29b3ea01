import Criteria.Filter.Descriptor
import Criteria.Predicate
import Criteria.Timestamp.Parser

/-!
# Clauses of timestamp filters

Each key of the value is a comparison and its operand a timestamp, or two of them for a range. All
comparisons must hold. The bounds of a range are bound in ascending order.
-/

namespace Criteria

/-- A comparison with timestamps. -/
inductive Comparison where
  | at
  | notAt
  | after
  | atOrAfter
  | before
  | atOrBefore
  | between
  | notBetween
deriving DecidableEq

namespace Comparison

/-- The key of a comparison in a body. -/
def key : Comparison → String
  | .at => "at"
  | .notAt => "not_at"
  | .after => "after"
  | .atOrAfter => "at_or_after"
  | .before => "before"
  | .atOrBefore => "at_or_before"
  | .between => "between"
  | .notBetween => "not_between"

/-- The SQL operator of a comparison. -/
def sql : Comparison → String
  | .at => "="
  | .notAt => "!="
  | .after => ">"
  | .atOrAfter => ">="
  | .before => "<"
  | .atOrBefore => "<="
  | .between => "BETWEEN"
  | .notBetween => "NOT BETWEEN"

/-- All comparisons. -/
def all : List Comparison :=
  [.at, .notAt, .after, .atOrAfter, .before, .atOrBefore, .between, .notBetween]

/-- The comparison of a key. -/
def ofKey? (key : String) : Option Comparison :=
  all.find? fun comparison => comparison.key == key

/-- Whether the operand is a pair of bounds. -/
def isRange : Comparison → Bool
  | .between | .notBetween => true
  | _ => false

@[simp] theorem ofKey?_key (comparison : Comparison) : ofKey? comparison.key = some comparison := by
  cases comparison <;> decide

theorem key_eq_of_ofKey? {key : String} {comparison : Comparison}
    (h : ofKey? key = some comparison) : comparison.key = key := by
  simpa using List.find?_some h

end Comparison

namespace Clause

/-- The timestamp that an operand means. -/
def instant (filter : String) (operand : Json) : Except FilterError Timestamp :=
  match Timestamp.ofJson? operand with
  | some t => .ok t
  | none => .error (.invalidValue filter (.notTimestamp operand))

/-- The two bounds that an operand means, in ascending order. -/
def bounds (filter : String) : Json → Except FilterError (Timestamp × Timestamp)
  | .array [first, second] => do
    let a ← instant filter first
    let b ← instant filter second
    return Timestamp.ascending a b
  | _ => .error (.invalidValue filter .notPair)

/-- One comparison of a field. -/
def comparison (filter field : String) (op : Comparison) (operand : Json) : Pass String := do
  if op.isRange then
    let (low, high) ← .ofExcept (bounds filter operand)
    let low ← Pass.placeholder (.timestamp low)
    let high ← Pass.placeholder (.timestamp high)
    return field ++ " " ++ op.sql ++ " " ++ low ++ " AND " ++ high
  else
    let t ← .ofExcept (instant filter operand)
    let name ← Pass.placeholder (.timestamp t)
    return field ++ " " ++ op.sql ++ " " ++ name

/-- All comparisons of a field, in order. -/
def comparisons (filter field : String) : List (String × Json) → Pass (List String)
  | [] => return []
  | (key, operand) :: rest => do
    match Comparison.ofKey? key with
    | none => .fail (.unknownComparison filter key)
    | some op =>
      let first ← comparison filter field op operand
      let others ← comparisons filter field rest
      return first :: others

/-- Comparisons with timestamps. -/
def timestampRange (filter : String) (spec : FilterSpec) : Json → Pass Predicate
  | .null => return .empty
  | .object fields => do
    let parts ← comparisons filter spec.field fields
    return Predicate.join .all parts
  | _ => .fail (.invalidValue filter .notComparisons)

end Clause

end Criteria
