import Criteria.Clause.Sets
import Criteria.Clause.TimestampRange

/-!
# Clauses

The predicate of one filter, according to its kind.
-/

namespace Criteria.Clause

/-- Whatever the generator makes of a value; `null` is not handed to it, and a blank text is no
restriction. -/
def custom (filter : String) (d : Descriptor) (value : Json) : Pass Predicate :=
  match d.generator with
  | none => .fail (.missingGenerator filter)
  | some generate =>
    if value.isNull then return .empty
    else do
      let text ← generate filter d.toFilterSpec value
      return if Text.isBlankText text then .empty else .sql text

/-- The predicate of a filter, without the report. -/
def ofKind (filter : String) (d : Descriptor) (value : Json) : Pass Predicate :=
  match d.kind with
  | .reference => reference filter d.toFilterSpec value
  | .polymorphicReference => polymorphicReference filter d.toFilterSpec value
  | .mappedList => mappedList filter d.toFilterSpec value
  | .timestampRange => timestampRange filter d.toFilterSpec value
  | .custom => custom filter d value
  | .passthrough => return .empty

/-- The predicate of a filter. -/
def compile (filter : String) (d : Descriptor) (value : Json) : Pass Predicate := do
  let predicate ← ofKind filter d value
  .tell (.filterCompiled filter d.kind)
  return predicate

end Criteria.Clause
