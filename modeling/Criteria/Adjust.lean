import Criteria.Body
import Criteria.Combinator

/-!
# Adjusting a body

A transform is applied to every leaf of a body: every value under a key that is no combinator,
whether or not a filter has that name. Keys, their order and the nesting of combinators stay. The
trace of an adjustment lists the leaves handed to the transform.
-/

namespace Criteria.Adjust

/-- What becomes of a leaf, given its name and value; a transform may object. -/
abbrev Transform := String → Json → Except FilterError Json

/-- An adjustment, with the leaves that were handed over. -/
abbrev Adjusted (α : Type) := Traced (String × Json) FilterError α

/-- Hand a leaf to the transform. -/
def leaf (transform : Transform) (name : String) (value : Json) : Adjusted Json :=
  ⟨transform name value, [(name, value)]⟩

mutual
/-- Adjust the mapping below a combinator key. -/
def group (transform : Transform) (key : String) (depth : Nat) : Json → Adjusted Json
  | .object fields =>
    if maxBodyDepth < depth then .fail (.invalidBody .tooDeep)
    else do
      let fields ← entries transform depth fields
      return .object fields
  | _ =>
    if maxBodyDepth < depth then .fail (.invalidBody .tooDeep)
    else .fail (.invalidBody (.combinatorNotMapping key))

/-- Adjust the entries of a mapping. -/
def entries (transform : Transform) (depth : Nat) :
    List (String × Json) → Adjusted (List (String × Json))
  | [] => return []
  | (key, value) :: rest => do
    let value ← match Combinator.ofKey? key with
      | some _ => group transform key (depth + 1) value
      | none => leaf transform key value
    let rest ← entries transform depth rest
    return (key, value) :: rest
end

/-- Adjust a body. -/
def body (transform : Transform) (body : Body) : Adjusted Json := do
  let fields ← body.mapping
  let fields ← entries transform 1 fields
  return .object fields

end Criteria.Adjust
