import Criteria.Clause.SetBody
import Criteria.Filter.Descriptor
import Criteria.Membership
import Criteria.Predicate
import Criteria.Reference

/-!
# Clauses of set filters

Reference filters resolve the elements of both lists, a mapped list converts them; then the lists
are reduced to one membership test, and its elements are bound to one placeholder.
-/

namespace Criteria.Clause

/-- A membership test of a field, its elements bound as one list. -/
def membership (field : String) : Membership BindValue → Pass Predicate
  | .within xs => do
    let name ← Pass.placeholder (.list xs)
    return .sql (Predicate.parenthesized (field ++ " IN (" ++ name ++ ")"))
  | .without xs => do
    let name ← Pass.placeholder (.list xs)
    return .sql (Predicate.parenthesized (field ++ " NOT IN (" ++ name ++ ")"))
  | .unrestricted => return .empty
  | .impossible => return .noMatch

/-- Resolve elements and drop the others, with a report on each of those. -/
def resolve {α : Type} (filter : String) (f : Json → Option α) (elements : List Json) :
    Pass (List α) :=
  .lift ⟨.ok (elements.filterMap f),
    (elements.filter fun x => (f x).isNone).map (.referenceDropped filter)⟩

/-- Resolve a list, if it is given. -/
def resolve? {α : Type} (filter : String) (f : Json → Option α) :
    Option (List Json) → Pass (Option (List α))
  | none => return none
  | some xs => some <$> resolve filter f xs

/-- Objects of one class, by numeric id. -/
def reference (filter : String) (spec : FilterSpec) (value : Json) : Pass Predicate := do
  let body ← .ofExcept (SetBody.read filter value)
  let only ← resolve? filter (Reference.resolveId spec.className) body.only
  let except ← resolve? filter (Reference.resolveId spec.className) body.except
  membership spec.field ((Membership.ofLists only except).map .integer)

/-- Objects of any class, by fingerprint. -/
def polymorphicReference (filter : String) (spec : FilterSpec) (value : Json) : Pass Predicate := do
  let body ← .ofExcept (SetBody.read filter value)
  let only ← resolve? filter Reference.resolveFingerprint body.only
  let except ← resolve? filter Reference.resolveFingerprint body.except
  membership spec.field ((Membership.ofLists only except).map .text)

/-- The bind values of one side of a mapped list. -/
def mapped (convert : Convert) (side : Side) (elements : List Json) : List BindValue :=
  (convert.apply elements side).map .ofJson

/-- Values of any type, converted first. -/
def mappedList (filter : String) (spec : FilterSpec) (value : Json) : Pass Predicate := do
  let body ← .ofExcept (SetBody.read filter value)
  membership spec.field (Membership.ofLists (body.only.map (mapped spec.convert .only))
    (body.except.map (mapped spec.convert .except)))

end Criteria.Clause
