import Criteria.Combinator
import Criteria.Json.Basic

/-!
# Predicates

What criteria come to: a parenthesised SQL fragment, no restriction, or the certainty that no row
passes.
-/

namespace Criteria

/-- The result of compiling a body, a group or one filter. -/
inductive Predicate where
  /-- A fragment in parentheses, with placeholders for its values. -/
  | sql (text : String)
  /-- Nothing to restrict. -/
  | empty
  /-- No row can pass; the query may be skipped. -/
  | noMatch
deriving DecidableEq, Inhabited

namespace Predicate

/-- The fragment, if there is one. -/
def sql? : Predicate → Option String
  | .sql text => some text
  | _ => none

/-- Whether there is nothing to restrict. -/
def isEmpty : Predicate → Bool
  | .empty => true
  | _ => false

/-- Whether no row can pass. -/
def isNoMatch : Predicate → Bool
  | .noMatch => true
  | _ => false

/-- A predicate in JSON: the text, `null` for no restriction, `false` for no match. -/
def toJson : Predicate → Json
  | .sql text => .string text
  | .empty => .null
  | .noMatch => .bool false

/-- A text in parentheses. -/
def parenthesized (text : String) : String :=
  "(" ++ text ++ ")"

/-- Fragments joined by a combinator; without fragments there is no restriction. -/
def join (combinator : Combinator) (fragments : List String) : Predicate :=
  if fragments.isEmpty then .empty
  else .sql (parenthesized ((" " ++ combinator.sql ++ " ").intercalate fragments))

end Predicate

end Criteria
