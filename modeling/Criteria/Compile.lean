import Criteria.Body
import Criteria.Clause.Basic
import Criteria.Filter.Set

/-!
# Compiling a body

A body is walked in the order of its keys. A combinator opens a group of its own, a configured
filter becomes a clause, and any other name is skipped. The fragments of a group are joined by its
combinator; a criterion that no row passes ends the walk.
-/

namespace Criteria.Compile

/-- What the fragments of a group come to; nothing stands for a group that no row passes. -/
def joined (combinator : Combinator) : Option (List String) → Predicate
  | some fragments => Predicate.join combinator fragments
  | none => .noMatch

mutual
/-- The predicate of the mapping below a combinator key. -/
def group (filters : FilterSet) (key : String) (combinator : Combinator) (depth : Nat) :
    Json → Pass Predicate
  | .object fields =>
    if maxBodyDepth < depth then .fail (.invalidBody .tooDeep)
    else do
      let fragments ← entries filters depth fields
      return joined combinator fragments
  | _ =>
    if maxBodyDepth < depth then .fail (.invalidBody .tooDeep)
    else .fail (.invalidBody (.combinatorNotMapping key))

/-- The fragments of the entries of a mapping, or nothing where no row passes one of them. -/
def entries (filters : FilterSet) (depth : Nat) :
    List (String × Json) → Pass (Option (List String))
  | [] => return some []
  | (key, value) :: rest => do
    let predicate ← match Combinator.ofKey? key with
      | some combinator => group filters key combinator (depth + 1) value
      | none =>
        match filters.find? key with
        | some descriptor => Clause.compile key descriptor value
        | none => do
          .tell (.filterSkipped key)
          pure Predicate.empty
    match predicate with
    | .sql text => do
      let fragments ← entries filters depth rest
      return fragments.map (text :: ·)
    | .empty => entries filters depth rest
    | .noMatch => do
      .tell (.filterUnmatchable key)
      return none
end

/-- The predicate of a top-level mapping. A combinator that is its only key takes the place of the
default, instead of opening a group inside it. -/
def mapping (filters : FilterSet) (default : Combinator) (fields : List (String × Json)) :
    Pass Predicate :=
  let whole := do
    let fragments ← entries filters 1 fields
    return joined default fragments
  match fields with
  | [(key, value)] =>
    match Combinator.ofKey? key with
    | some combinator => group filters key combinator 1 value
    | none => whole
  | _ => whole

/-- The predicate of a body. -/
def body (filters : FilterSet) (body : Body) (default : Combinator) : Pass Predicate := do
  .lift (.tellAll body.events)
  let fields ← .lift body.mapping
  .tell (.bodyStarted fields.length default)
  let predicate ← mapping filters default fields
  let binds ← Pass.bindCount
  .tell (.bodyFinished binds predicate.isNoMatch predicate.isEmpty)
  return predicate

end Criteria.Compile
