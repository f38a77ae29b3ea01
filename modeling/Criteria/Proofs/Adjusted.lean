import Criteria.Adjust

/-!
# Entries of adjusted bodies

Which entries a body has, wherever combinators put them, and which ones it has after an adjustment:
no name is new, and every leaf is what the transform made of it. Main statements:
`Adjusts.reaches_leaf` and `Adjusts.reaches_of_adjusted`.
-/

namespace Criteria

/-- An entry stands in a mapping, or in a mapping below its combinators. -/
inductive Reaches : List (String × Json) → String → Json → Prop
  | here (key : String) (value : Json) (rest : List (String × Json)) :
    Reaches ((key, value) :: rest) key value
  | inside {outer key : String} {combinator : Combinator} {inner rest : List (String × Json)}
      {value : Json} (houter : Combinator.ofKey? outer = some combinator)
      (h : Reaches inner key value) : Reaches ((outer, .object inner) :: rest) key value
  | later {key : String} {value : Json} {rest : List (String × Json)} (entry : String × Json)
      (h : Reaches rest key value) : Reaches (entry :: rest) key value

namespace Adjust

/-- What an adjustment makes of a mapping, where the transform objects to no leaf. -/
inductive Adjusts (transform : Transform) : List (String × Json) → List (String × Json) → Prop
  | nil : Adjusts transform [] []
  | nested {key : String} {combinator : Combinator}
      {fields fields' rest rest' : List (String × Json)}
      (hkey : Combinator.ofKey? key = some combinator) (hinner : Adjusts transform fields fields')
      (hrest : Adjusts transform rest rest') :
      Adjusts transform ((key, .object fields) :: rest) ((key, .object fields') :: rest')
  | leaf {key : String} {value value' : Json} {rest rest' : List (String × Json)}
      (hkey : Combinator.ofKey? key = none) (hvalue : transform key value = .ok value')
      (hrest : Adjusts transform rest rest') :
      Adjusts transform ((key, value) :: rest) ((key, value') :: rest')

mutual
theorem group_adjusts {transform : Transform} {key : String} {depth : Nat} {value value' : Json}
    (h : (group transform key depth value).result = .ok value') :
    ∃ fields fields', value = .object fields ∧ value' = .object fields' ∧
      Adjusts transform fields fields' := by
  match value with
  | .object fields =>
    rw [group] at h
    split at h
    · cases h
    · obtain ⟨fields', hfields', h⟩ := Traced.result_bind_eq_ok h
      cases h
      exact ⟨fields, fields', rfl, rfl, entries_adjusts hfields'⟩
  | .null | .bool _ | .number _ | .string _ | .array _ =>
    rw [group] at h
    · split at h <;> cases h
    all_goals intros; contradiction

theorem entries_adjusts {transform : Transform} {depth : Nat}
    {fields fields' : List (String × Json)}
    (h : (entries transform depth fields).result = .ok fields') :
    Adjusts transform fields fields' := by
  match fields with
  | [] =>
    cases h
    exact .nil
  | (key, value) :: rest =>
    rw [entries] at h
    cases hkey : Combinator.ofKey? key with
    | some combinator =>
      simp only [hkey] at h
      obtain ⟨value', hvalue', h⟩ := Traced.result_bind_eq_ok h
      obtain ⟨rest', hrest', h⟩ := Traced.result_bind_eq_ok h
      cases h
      obtain ⟨inner, inner', rfl, rfl, hinner⟩ := group_adjusts hvalue'
      exact .nested hkey hinner (entries_adjusts hrest')
    | none =>
      simp only [hkey] at h
      obtain ⟨value', hvalue', h⟩ := Traced.result_bind_eq_ok h
      obtain ⟨rest', hrest', h⟩ := Traced.result_bind_eq_ok h
      cases h
      exact .leaf hkey hvalue' (entries_adjusts hrest')
end

/-- An adjusted body is the adjusted mapping. -/
theorem body_adjusts {transform : Transform} {b : Body} {adjusted : Json}
    (h : (body transform b).result = .ok adjusted) :
    ∃ fields fields', b.fields? = some fields ∧ adjusted = .object fields' ∧
      Adjusts transform fields fields' := by
  obtain ⟨fields, hfields, h⟩ := Traced.result_bind_eq_ok h
  obtain ⟨fields', hfields', h⟩ := Traced.result_bind_eq_ok h
  cases h
  refine ⟨fields, fields', ?_, rfl, entries_adjusts hfields'⟩
  rw [Body.mapping] at hfields
  split at hfields
  · next heq =>
    cases hfields
    exact heq
  · cases hfields

namespace Adjusts

variable {transform : Transform} {fields fields' : List (String × Json)}

/-- A leaf stays where it is and becomes what the transform makes of it. -/
theorem reaches_leaf {key : String} {value : Json} (h : Adjusts transform fields fields')
    (hkey : Combinator.ofKey? key = none) (hreaches : Reaches fields key value) :
    ∃ value', transform key value = .ok value' ∧ Reaches fields' key value' := by
  induction h with
  | nil => cases hreaches
  | nested hcombinator hinner hrest ihinner ihrest =>
    cases hreaches with
    | here => cases hkey.symm.trans hcombinator
    | inside houter h =>
      obtain ⟨value', hvalue', hreaches'⟩ := ihinner h
      exact ⟨value', hvalue', .inside houter hreaches'⟩
    | later _ h =>
      obtain ⟨value', hvalue', hreaches'⟩ := ihrest h
      exact ⟨value', hvalue', .later _ hreaches'⟩
  | leaf hleaf hvalue hrest ih =>
    cases hreaches with
    | here => exact ⟨_, hvalue, .here _ _ _⟩
    | inside houter h => cases houter.symm.trans hleaf
    | later _ h =>
      obtain ⟨value', hvalue', hreaches'⟩ := ih h
      exact ⟨value', hvalue', .later _ hreaches'⟩

/-- No name is new. -/
theorem reaches_of_adjusted {key : String} {value' : Json} (h : Adjusts transform fields fields')
    (hreaches : Reaches fields' key value') : ∃ value, Reaches fields key value := by
  induction h with
  | nil => cases hreaches
  | nested hcombinator hinner hrest ihinner ihrest =>
    cases hreaches with
    | here => exact ⟨_, .here _ _ _⟩
    | inside houter h =>
      obtain ⟨value, hreaches⟩ := ihinner h
      exact ⟨value, .inside houter hreaches⟩
    | later _ h =>
      obtain ⟨value, hreaches⟩ := ihrest h
      exact ⟨value, .later _ hreaches⟩
  | leaf hleaf hvalue hrest ih =>
    cases hreaches with
    | here => exact ⟨_, .here _ _ _⟩
    | inside houter h => cases houter.symm.trans hleaf
    | later _ h =>
      obtain ⟨value, hreaches⟩ := ih h
      exact ⟨value, .later _ hreaches⟩

end Adjusts

end Adjust

end Criteria
