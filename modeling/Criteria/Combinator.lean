/-!
# Combinators

A mapping of criteria is joined by one of two Boolean operators. The keys of the combinators are
reserved in bodies: below such a key stands another mapping.
-/

namespace Criteria

/-- How the criteria of a mapping are joined. -/
inductive Combinator where
  /-- Every criterion must hold. -/
  | all
  /-- At least one criterion must hold. -/
  | any
deriving DecidableEq, Inhabited

namespace Combinator

/-- The key that stands for a combinator in a body. -/
def key : Combinator → String
  | .all => "all"
  | .any => "any"

/-- The SQL operator of a combinator. -/
def sql : Combinator → String
  | .all => "AND"
  | .any => "OR"

/-- The combinator that a body key stands for. -/
def ofKey? (key : String) : Option Combinator :=
  if key = "all" then some .all
  else if key = "any" then some .any
  else none

@[simp] theorem ofKey?_key (c : Combinator) : ofKey? c.key = some c := by
  cases c <;> rfl

theorem key_eq_of_ofKey? {key : String} {c : Combinator} (h : ofKey? key = some c) :
    c.key = key := by
  unfold ofKey? at h
  split at h
  · next hk => cases h; exact hk.symm
  · split at h
    · next hk => cases h; exact hk.symm
    · exact nomatch h

end Combinator

end Criteria
