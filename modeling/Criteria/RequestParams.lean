import Criteria.Event

/-!
# Request parameters

A request sends a body as pairs of a key in bracket notation and a string: `a[b]` is the key `b` of
the mapping `a`, and `a[]` one more element of the list `a`. Pairs are written into the body one
after the other, and each makes room for itself: what is in the way has the wrong shape and goes.
-/

namespace Criteria

/-- Decoded pairs, in the order of the request. -/
structure RequestParams where
  pairs : List (String × String)
deriving DecidableEq

namespace RequestParams

/-! ### Keys -/

/-- The longest path that a key may stand for; a longer key is a plain name. -/
def maxSegments : Nat := 36

/-- The texts between brackets, where a text is nothing but closed brackets. The first argument is
the text since the bracket that is open, in reverse. -/
def bracketed : Option (List Char) → List Char → Option (List String)
  | none, [] => some []
  | none, c :: cs => if c = '[' then bracketed (some []) cs else none
  | some _, [] => none
  | some seen, c :: cs =>
    if c = ']' then (bracketed none cs).map (String.ofList seen.reverse :: ·)
    else bracketed (some (c :: seen)) cs

/-- The path that a key stands for: `a[b][]` is `a`, `b` and the empty text. A key that is not in
bracket notation, or too long, is one name. -/
def splitKey (key : String) : List String :=
  let cs := key.toList
  match bracketed none (cs.dropWhile (· != '[')) with
  | some rest =>
    let segments := String.ofList (cs.takeWhile (· != '[')) :: rest
    if segments.length ≤ maxSegments then segments else [key]
  | none => [key]

/-- Whether a key names something: its path does not begin with the empty text. -/
def isNamed (key : String) : Bool :=
  (splitKey key).head? != some ""

/-! ### Writing a string at a path -/

/-- The elements of a value that is a list, and none otherwise. -/
def elementsOf : Json → List Json
  | .array xs => xs
  | _ => []

/-- The fields of a value that is a mapping, and none otherwise. -/
def fieldsOf : Json → List (String × Json)
  | .object fields => fields
  | _ => []

/-- The list in which a path through a list goes on at its last element, and that element. A mapping
at the end is filled until the next key repeats; else a new mapping is begun. -/
def lastOrNew (xs : List Json) (next : String) : List Json × Json :=
  match xs.getLast? with
  | some (.object fields) =>
    if Assoc.hasKey next fields then (xs, .object []) else (xs.dropLast, .object fields)
  | _ => (xs, .object [])

/-- Write a string at a path below a value; the empty text in a path is a list position. -/
def write (value : String) : List String → Json → Json
  | [], _ => .string value
  | head :: rest, node =>
    if head = "" then
      match rest with
      | [] => .array (elementsOf node ++ [.string value])
      | next :: _ =>
        let (front, last) := lastOrNew (elementsOf node) next
        .array (front ++ [write value rest last])
    else
      .object (Assoc.alter head (fun child => write value rest (child.getD .null)) (fieldsOf node))

/-! ### The body -/

/-- Write one pair into a body; a key without a name is skipped. -/
def writePair (body : Json) (pair : String × String) : Json :=
  if isNamed pair.1 then write pair.2 (splitKey pair.1) body else body

/-- The body that the pairs spell. -/
def toBody (params : RequestParams) : Json :=
  params.pairs.foldl writePair (.object [])

/-- The reports on keys without a name. -/
def skipped (params : RequestParams) : List Event :=
  (params.pairs.filter fun pair => !isNamed pair.1).map fun pair => .parameterSkipped pair.1

end RequestParams

end Criteria
