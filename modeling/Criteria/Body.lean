import Criteria.Error
import Criteria.RequestParams
import Criteria.Traced

/-!
# Bodies

A body is a mapping of names to values. It comes as a JSON value, which may turn out not to be a
mapping, as a mapping, or as request parameters.
-/

namespace Criteria

/-- Something that may be compiled. -/
inductive Body where
  | json (value : Json)
  | object (fields : List (String × Json))
  | request (params : RequestParams)

namespace Body

/-- The body as a JSON value. -/
def toJson : Body → Json
  | .json value => value
  | .object fields => .object fields
  | .request params => params.toBody

/-- The reports made in reading a body. -/
def events : Body → List Event
  | .request params => params.skipped
  | _ => []

/-- The mapping that a body is. -/
def fields? (body : Body) : Option (List (String × Json)) :=
  match body.toJson with
  | .object fields => some fields
  | _ => none

/-- Whether a body is a mapping at all. -/
def isAcceptable (body : Body) : Bool :=
  body.fields?.isSome

/-- The mapping, or the error for a body that is none. -/
def mapping {ω : Type} (body : Body) : Traced ω FilterError (List (String × Json)) :=
  match body.fields? with
  | some fields => .pure fields
  | none => .fail (.invalidBody .notMapping)

end Body

end Criteria
