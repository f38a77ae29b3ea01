import Criteria.Proofs.Steps

/-!
# Nested combinators

How many combinators of a mapping stand inside each other, and what that number has to do with the
depth that a walk counts: a walk that starts one combinator deeper comes to the same, unless it
meets a combinator that stands too deep then. Main statement: `Compile.group_deeper`.
-/

namespace Criteria

mutual
/-- How many combinators stand inside each other, the one that holds the value included. -/
def nestingBelow : Json → Nat
  | .object fields => nesting fields + 1
  | _ => 1

/-- How many combinators of a mapping stand inside each other. -/
def nesting : List (String × Json) → Nat
  | [] => 0
  | (key, value) :: rest =>
    match Combinator.ofKey? key with
    | some _ => max (nestingBelow value) (nesting rest)
    | none => nesting rest
end

theorem nestingBelow_pos (value : Json) : 0 < nestingBelow value := by
  cases value with
  | object fields =>
    rw [nestingBelow]
    exact Nat.succ_pos _
  | _ =>
    rw [nestingBelow]
    · exact Nat.one_pos
    · intros
      contradiction

theorem nesting_rest_le (key : String) (value : Json) (rest : List (String × Json)) :
    nesting rest ≤ nesting ((key, value) :: rest) := by
  rw [nesting]
  cases Combinator.ofKey? key with
  | some combinator => exact Nat.le_max_right _ _
  | none => exact Nat.le_refl _

theorem nestingBelow_le {key : String} {combinator : Combinator}
    (hkey : Combinator.ofKey? key = some combinator) (value : Json)
    (rest : List (String × Json)) : nestingBelow value ≤ nesting ((key, value) :: rest) := by
  simp only [nesting, hkey]
  exact Nat.le_max_left _ _

theorem nesting_lone {key : String} {combinator : Combinator}
    (hkey : Combinator.ofKey? key = some combinator) (value : Json) :
    nesting [(key, value)] = nestingBelow value := by
  simp only [nesting, hkey]
  exact Nat.max_eq_left (Nat.zero_le _)

namespace Compile

/-- What a walk comes to when it starts one combinator deeper: the same, or it met a combinator that
stands too deep, which takes as many combinators inside each other as `deep` says. -/
def Deepened {α : Type} (deep : Prop) (deeper walk : Except FilterError α × BindTable) : Prop :=
  deeper = walk ∨ deeper.1 = .error (.invalidBody .tooDeep) ∧ deep

namespace Deepened

variable {α β : Type} {deep deep' : Prop} {deeper walk : Except FilterError α × BindTable}

theorem mono (h : Deepened deep deeper walk) (himp : deep → deep') :
    Deepened deep' deeper walk :=
  h.imp_right fun ⟨herror, hdeep⟩ => ⟨herror, himp hdeep⟩

theorem map (h : Deepened deep deeper walk) (f : α → β) :
    Deepened deep (deeper.1.map f, deeper.2) (walk.1.map f, walk.2) := by
  rcases h with rfl | ⟨herror, hdeep⟩
  · exact Or.inl rfl
  · exact Or.inr ⟨by simp only [herror, Except.map], hdeep⟩

theorem continued {first first' : Except FilterError Predicate × BindTable}
    {rest rest' : BindTable → Except FilterError (Option (List String)) × BindTable}
    (hfirst : Deepened deep first' first) (hrest : ∀ table, Deepened deep (rest' table) (rest table)) :
    Deepened deep (Compile.continued rest' first') (Compile.continued rest first) := by
  rcases hfirst with rfl | ⟨herror, hdeep⟩
  · match first' with
    | (.error e, table) => exact Or.inl rfl
    | (.ok .noMatch, table) => exact Or.inl rfl
    | (.ok .empty, table) => exact hrest table
    | (.ok (.sql text), table) => exact (hrest table).map _
  · obtain ⟨result, table⟩ := first'
    subst herror
    exact Or.inr ⟨rfl, hdeep⟩

end Deepened

mutual
/-- A group that stands one combinator deeper comes to the same, unless it meets one that stands too
deep. -/
theorem group_deeper (filters : FilterSet) (key : String) (combinator : Combinator) (depth : Nat)
    (value : Json) (table : BindTable) :
    Deepened (maxBodyDepth < depth + nestingBelow value)
      ((group filters key combinator (depth + 1) value).outcome table)
      ((group filters key combinator depth value).outcome table) := by
  by_cases hdeep : maxBodyDepth < depth + 1
  · have hpos := nestingBelow_pos value
    refine Or.inr ⟨?_, by omega⟩
    rw [group_tooDeep hdeep]
  · -- neither of the two groups stands too deep itself, so what is below them decides
    have hdepth : depth + 1 ≤ maxBodyDepth := Nat.not_lt.1 hdeep
    match value with
    | .object fields =>
      rw [group_object_outcome hdepth, group_object_outcome (Nat.le_of_succ_le hdepth),
        nestingBelow, Nat.add_comm (nesting fields), ← Nat.add_assoc]
      exact (entries_deeper filters depth fields table).map _
    | .null | .bool _ | .number _ | .string _ | .array _ =>
      rw [group_malformed hdepth (by nofun),
        group_malformed (Nat.le_of_succ_le hdepth) (by nofun)]
      exact Or.inl rfl

theorem entries_deeper (filters : FilterSet) (depth : Nat) (fields : List (String × Json))
    (table : BindTable) :
    Deepened (maxBodyDepth < depth + 1 + nesting fields)
      ((entries filters (depth + 1) fields).outcome table)
      ((entries filters depth fields).outcome table) := by
  match fields with
  | [] => exact Or.inl (by rw [entries_nil_outcome, entries_nil_outcome])
  | (key, value) :: rest =>
    have hrest (table : BindTable) := (entries_deeper filters depth rest table).mono
      fun h => Nat.lt_of_lt_of_le h (Nat.add_le_add_left (nesting_rest_le key value rest) _)
    rw [entries_cons_outcome, entries_cons_outcome]
    refine Deepened.continued ?_ hrest
    cases hkey : Combinator.ofKey? key with
    | some combinator =>
      rw [entry_of_combinator hkey, entry_of_combinator hkey]
      exact (group_deeper filters key combinator (depth + 1) value table).mono
        fun h => Nat.lt_of_lt_of_le h (Nat.add_le_add_left (nestingBelow_le hkey value rest) _)
    | none =>
      -- below other keys the depth is not looked at
      simp only [entry, hkey]
      exact Or.inl rfl
end

/-- Where no combinator stands too deep, it does not matter at which depth a group stands. -/
theorem group_outcome_of_nestingBelow_le {depth : Nat} {value : Json}
    (h : depth + nestingBelow value ≤ maxBodyDepth + 1) (filters : FilterSet) (key : String)
    (combinator : Combinator) (table : BindTable) :
    (group filters key combinator depth value).outcome table =
      (group filters key combinator 0 value).outcome table := by
  -- one depth less at a time
  induction depth with
  | zero => rfl
  | succ depth ih =>
    rcases group_deeper filters key combinator depth value table with heq | ⟨-, hdeep⟩
    · rw [heq]
      exact ih (by omega)
    · omega

mutual
/-- A group that is walked to its end has no combinator that stands too deep. -/
theorem nestingBelow_le_of_ok {filters : FilterSet} {key : String} {combinator : Combinator}
    {depth : Nat} {value : Json} {table table' : BindTable} {predicate : Predicate}
    (h : (group filters key combinator depth value).outcome table = (.ok predicate, table'))
    (hpredicate : predicate ≠ .noMatch) : depth + nestingBelow value ≤ maxBodyDepth + 1 := by
  rcases Nat.lt_or_ge maxBodyDepth depth with hdeep | hdepth
  · rw [group_tooDeep hdeep] at h
    cases h
  · match value with
    | .object fields =>
      rw [group_object_outcome hdepth] at h
      rw [nestingBelow]
      match hfields : (entries filters depth fields).outcome table with
      | (.error e, table'') =>
        rw [hfields] at h
        cases h
      | (.ok none, table'') =>
        rw [hfields] at h
        cases h
        exact absurd rfl hpredicate
      | (.ok (some fragments), table'') =>
        have hnesting := nesting_le_of_ok hfields
        omega
    | .null | .bool _ | .number _ | .string _ | .array _ =>
      rw [group_malformed hdepth (by nofun)] at h
      cases h

theorem nesting_le_of_ok {filters : FilterSet} {depth : Nat} {fields : List (String × Json)}
    {table table' : BindTable} {fragments : List String}
    (h : (entries filters depth fields).outcome table = (.ok (some fragments), table')) :
    nesting fields = 0 ∨ depth + nesting fields ≤ maxBodyDepth := by
  match fields with
  | [] => exact Or.inl rfl
  | (key, value) :: rest =>
    rw [entries_cons_outcome] at h
    obtain ⟨predicate, table'', others, hfirst, hpredicate, hothers⟩ := continued_eq_ok h
    -- the entry was passed, and so was all behind it
    have hrest := nesting_le_of_ok hothers
    rw [nesting]
    cases hkey : Combinator.ofKey? key with
    | some combinator =>
      rw [entry_of_combinator hkey] at hfirst
      have hbelow := nestingBelow_le_of_ok hfirst hpredicate
      simp only
      omega
    | none => exact hrest
end

end Compile

/-! ### Deep mappings -/

/-- Conjunctions inside each other, the innermost one empty. -/
def Json.nestedAll : Nat → Json
  | 0 => .object []
  | n + 1 => .object [("all", nestedAll n)]

theorem nestingBelow_nestedAll (n : Nat) : nestingBelow (.nestedAll n) = n + 1 := by
  induction n with
  | zero => rfl
  | succ n ih =>
    have hkey : Combinator.ofKey? "all" = some .all := rfl
    rw [Json.nestedAll, nestingBelow, nesting_lone hkey, ih]

end Criteria
