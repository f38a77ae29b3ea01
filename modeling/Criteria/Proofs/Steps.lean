import Criteria.Compiler

/-!
# Steps of a walk

What one step of compiling comes to and the table that it leaves, for every set of filters and
whatever its generators do. Main statements: `Compile.entries_cons_outcome` for an entry and what
follows it, `Compile.group_object_outcome` for a mapping below a combinator, `mapping_of_lone` and
`mapping_of_not_lone` for the top of a body.
-/

namespace Criteria

/-- The only key of a mapping is a combinator. -/
def IsLone (fields : List (String × Json)) : Prop :=
  ∃ key value combinator, fields = [(key, value)] ∧ Combinator.ofKey? key = some combinator

/-- Whether a combinator is the only key is seen from the keys. -/
theorem isLone_iff_keys (fields : List (String × Json)) :
    IsLone fields ↔
      ∃ key combinator, Assoc.keys fields = [key] ∧ Combinator.ofKey? key = some combinator := by
  constructor
  · rintro ⟨key, value, combinator, rfl, hkey⟩
    exact ⟨key, combinator, rfl, hkey⟩
  · rintro ⟨key, combinator, hkeys, hkey⟩
    obtain ⟨⟨_, value⟩, rfl, rfl⟩ := List.map_eq_singleton_iff.1 hkeys
    exact ⟨_, value, combinator, rfl, hkey⟩

/-- Any other mapping is empty, has one key that is no combinator, or more keys than one. -/
theorem cases_of_not_lone {fields : List (String × Json)} (h : ¬ IsLone fields) :
    fields = [] ∨ (∃ key value, fields = [(key, value)] ∧ Combinator.ofKey? key = none) ∨
      ∃ first second rest, fields = first :: second :: rest := by
  match fields with
  | [] => exact Or.inl rfl
  | [(key, value)] =>
    cases hkey : Combinator.ofKey? key with
    | some combinator => exact absurd ⟨key, value, combinator, rfl, hkey⟩ h
    | none => exact Or.inr (Or.inl ⟨key, value, rfl, hkey⟩)
  | first :: second :: rest => exact Or.inr (Or.inr ⟨first, second, rest, rfl⟩)

namespace Body

variable {ω : Type} {b : Body}

theorem mapping_of_fields {fields : List (String × Json)} (h : b.fields? = some fields) :
    (b.mapping : Traced ω FilterError _) = .pure fields := by
  rw [mapping, h]

theorem mapping_of_no_fields (h : b.fields? = none) :
    (b.mapping : Traced ω FilterError _) = .fail (.invalidBody .notMapping) := by
  rw [mapping, h]

end Body

namespace Compile

/-- The predicate of one entry of a mapping. -/
def entry (filters : FilterSet) (depth : Nat) (key : String) (value : Json) : Pass Predicate :=
  match Combinator.ofKey? key with
  | some combinator => group filters key combinator (depth + 1) value
  | none =>
    match filters.find? key with
    | some descriptor => Clause.compile key descriptor value
    | none => do
      .tell (.filterSkipped key)
      pure Predicate.empty

/-- Go on with the entries behind one that comes to a predicate. -/
def behind (key : String) (rest : Pass (Option (List String))) :
    Predicate → Pass (Option (List String))
  | .sql text => do
    let fragments ← rest
    return fragments.map (text :: ·)
  | .empty => rest
  | .noMatch => do
    .tell (.filterUnmatchable key)
    return none

/-- What the entries of a mapping come to, where the first of them comes to a predicate and leaves a
table to the others. -/
def continued (rest : BindTable → Except FilterError (Option (List String)) × BindTable) :
    Except FilterError Predicate × BindTable →
      Except FilterError (Option (List String)) × BindTable
  | (.error e, table) => (.error e, table)
  | (.ok .noMatch, table) => (.ok none, table)
  | (.ok .empty, table) => rest table
  | (.ok (.sql text), table) => ((rest table).1.map (Option.map (text :: ·)), (rest table).2)

/-! ### Entries -/

variable {filters : FilterSet} {depth : Nat} {key : String} {value : Json}

theorem entry_of_combinator {combinator : Combinator}
    (hkey : Combinator.ofKey? key = some combinator) (filters : FilterSet) (depth : Nat)
    (value : Json) :
    entry filters depth key value = group filters key combinator (depth + 1) value := by
  simp only [entry, hkey]

theorem entry_of_filter (hkey : Combinator.ofKey? key = none) {d : Descriptor}
    (hd : filters.find? key = some d) (depth : Nat) (value : Json) :
    entry filters depth key value = Clause.compile key d value := by
  simp only [entry, hkey, hd]

/-- A name without a filter binds nothing and asks nothing. -/
theorem entry_of_skipped (hkey : Combinator.ofKey? key = none) (hd : filters.find? key = none)
    (depth : Nat) (value : Json) (table : BindTable) :
    (entry filters depth key value).outcome table = (.ok .empty, table) := by
  simp only [entry, hkey, hd, Pass.outcome_bind_ok (Pass.outcome_tell _ _), Pass.outcome_pure]

@[simp] theorem entries_nil_outcome (filters : FilterSet) (depth : Nat) (table : BindTable) :
    (entries filters depth []).outcome table = (.ok (some []), table) := by
  rw [entries, Pass.outcome_pure]

theorem behind_outcome (key : String) (rest : Pass (Option (List String))) (predicate : Predicate)
    (table : BindTable) :
    (behind key rest predicate).outcome table = continued rest.outcome (.ok predicate, table) := by
  cases predicate with
  | sql text =>
    rw [behind, bind_pure_comp, Pass.outcome_map]
    rfl
  | empty => rfl
  | noMatch => rfl

theorem entries_cons (filters : FilterSet) (depth : Nat) (key : String) (value : Json)
    (rest : List (String × Json)) :
    entries filters depth ((key, value) :: rest) =
      entry filters depth key value >>= behind key (entries filters depth rest) := by
  rw [entries, entry]
  cases Combinator.ofKey? key with
  | some combinator => rfl
  | none =>
    cases filters.find? key with
    | some d => rfl
    | none => exact (bind_assoc _ _ _).symm

/-- The entries of a mapping follow the first one, unless that one ends the walk. -/
theorem entries_cons_outcome (filters : FilterSet) (depth : Nat) (key : String) (value : Json)
    (rest : List (String × Json)) (table : BindTable) :
    (entries filters depth ((key, value) :: rest)).outcome table =
      continued (entries filters depth rest).outcome
        ((entry filters depth key value).outcome table) := by
  rw [entries_cons, Pass.outcome_bind]
  rcases (entry filters depth key value).outcome table with ⟨e | predicate, table'⟩
  · rfl
  · exact behind_outcome key (entries filters depth rest) predicate table'

/-- Where all entries of a mapping are walked, the first one does not end the walk. -/
theorem continued_eq_ok {rest : BindTable → Except FilterError (Option (List String)) × BindTable}
    {first : Except FilterError Predicate × BindTable} {fragments : List String}
    {table : BindTable} (h : continued rest first = (.ok (some fragments), table)) :
    ∃ predicate table' others, first = (.ok predicate, table') ∧ predicate ≠ .noMatch ∧
      rest table' = (.ok (some others), table) := by
  match first with
  | (.error e, table') => cases h
  | (.ok .noMatch, table') => cases h
  | (.ok .empty, table') => exact ⟨.empty, table', fragments, rfl, nofun, h⟩
  | (.ok (.sql text), table') =>
    simp only [continued] at h
    match hrest : rest table' with
    | (.error e, table'') =>
      rw [hrest] at h
      cases h
    | (.ok none, table'') =>
      rw [hrest] at h
      cases h
    | (.ok (some others), table'') =>
      rw [hrest] at h
      cases h
      exact ⟨.sql text, table', others, rfl, nofun, hrest⟩

/-! ### Groups -/

/-- A group whose combinator stands deep enough inside others is not looked at. -/
theorem group_tooDeep (h : maxBodyDepth < depth) (filters : FilterSet) (key : String)
    (combinator : Combinator) (value : Json) (table : BindTable) :
    (group filters key combinator depth value).outcome table =
      (.error (.invalidBody .tooDeep), table) := by
  cases value with
  | object fields => rw [group, if_pos h, Pass.outcome_fail]
  | _ =>
    rw [group, if_pos h, Pass.outcome_fail]
    intros
    contradiction

theorem group_malformed (h : depth ≤ maxBodyDepth) (hvalue : ∀ fields, value ≠ .object fields)
    (filters : FilterSet) (key : String) (combinator : Combinator) (table : BindTable) :
    (group filters key combinator depth value).outcome table =
      (.error (.invalidBody (.combinatorNotMapping key)), table) := by
  cases value with
  | object fields => exact absurd rfl (hvalue fields)
  | _ =>
    rw [group, if_neg (Nat.not_lt.2 h), Pass.outcome_fail]
    intros
    contradiction

/-- A group joins what its entries come to. -/
theorem group_object_outcome (h : depth ≤ maxBodyDepth) (filters : FilterSet) (key : String)
    (combinator : Combinator) (fields : List (String × Json)) (table : BindTable) :
    (group filters key combinator depth (.object fields)).outcome table =
      (((entries filters depth fields).outcome table).1.map (joined combinator),
        ((entries filters depth fields).outcome table).2) := by
  rw [group, if_neg (Nat.not_lt.2 h), bind_pure_comp, Pass.outcome_map]

/-! ### Bodies -/

theorem mapping_of_lone {combinator : Combinator} (hkey : Combinator.ofKey? key = some combinator)
    (filters : FilterSet) (default : Combinator) (value : Json) :
    mapping filters default [(key, value)] = group filters key combinator 1 value := by
  simp only [mapping, hkey]

/-- A mapping with other keys joins what its entries come to. -/
theorem mapping_eq_joined {fields : List (String × Json)} (h : ¬ IsLone fields)
    (filters : FilterSet) (default : Combinator) :
    mapping filters default fields = (do
      let fragments ← entries filters 1 fields
      return joined default fragments) := by
  rcases cases_of_not_lone h with rfl | ⟨key, value, rfl, hkey⟩ | ⟨first, second, rest, rfl⟩
  · rfl
  · simp only [mapping, hkey]
  · rfl

theorem mapping_of_not_lone {fields : List (String × Json)} (h : ¬ IsLone fields)
    (filters : FilterSet) (default : Combinator) (table : BindTable) :
    (mapping filters default fields).outcome table =
      (((entries filters 1 fields).outcome table).1.map (joined default),
        ((entries filters 1 fields).outcome table).2) := by
  rw [mapping_eq_joined h, bind_pure_comp, Pass.outcome_map]

theorem body_of_fields {b : Body} {fields : List (String × Json)} (h : b.fields? = some fields)
    (filters : FilterSet) (default : Combinator) (table : BindTable) :
    (body filters b default).outcome table = (mapping filters default fields).outcome table := by
  rw [body, Pass.outcome_bind_ok (Pass.outcome_lift _ _), Body.mapping_of_fields h,
    Pass.outcome_bind_ok (Pass.outcome_lift _ _), Pass.outcome_bind_ok (Pass.outcome_tell _ _),
    Pass.outcome_bind]
  rcases (mapping filters default fields).outcome table with ⟨e | predicate, table'⟩
  · rfl
  · rfl

theorem body_of_no_fields {b : Body} (h : b.fields? = none) (filters : FilterSet)
    (default : Combinator) (table : BindTable) :
    (body filters b default).outcome table = (.error (.invalidBody .notMapping), table) := by
  rw [body, Pass.outcome_bind_ok (Pass.outcome_lift _ _), Body.mapping_of_no_fields h]
  exact Pass.outcome_bind_error (Pass.outcome_lift _ _)

end Compile

namespace Compiler

/-- Compiling works on an empty table with the stem of the compiler. -/
theorem compile_of_outcome {compiler : Compiler} {b : Body} {default : Combinator}
    {result : Except FilterError Predicate} {table : BindTable}
    (h : (Compile.body compiler.filters b default).outcome (.empty compiler.table.stem) =
      (result, table)) :
    (compiler.compile b default).result = result.map fun predicate => (predicate, table) := by
  obtain ⟨rfl, rfl⟩ := Prod.mk.inj h
  rw [compile]
  match Compile.body compiler.filters b default (.empty compiler.table.stem) with
  | (⟨.ok predicate, trace⟩, table) => rfl
  | (⟨.error e, trace⟩, table) => rfl

/-- So does generating, which keeps the table in any case. -/
theorem generate_of_outcome {compiler : Compiler} {b : Body} {default : Combinator}
    {result : Except FilterError Predicate} {table : BindTable}
    (h : (Compile.body compiler.filters b default).outcome (.empty compiler.table.stem) =
      (result, table)) :
    (compiler.generate b default).1.result = result ∧
      (compiler.generate b default).2 = { compiler with table } := by
  obtain ⟨rfl, rfl⟩ := Prod.mk.inj h
  exact ⟨rfl, rfl⟩

end Compiler

end Criteria
