import Criteria.Proofs.Nesting
import Criteria.Proofs.Simulation

/-!
# Names without a filter

An entry whose name has no filter may be added anywhere to a body. Nothing changes, except at the top
of a body whose only key is a combinator: that combinator then stands inside the default one, so the
predicate gets parentheses around it, and it stands one deeper. Main statement:
`Compiler.compile_inserted`.
-/

namespace Criteria

/-- A mapping with one more entry in it, or in a mapping below its combinators. -/
inductive Inserted (entry : String × Json) : List (String × Json) → List (String × Json) → Prop
  | here (rest : List (String × Json)) : Inserted entry rest (entry :: rest)
  | inside {key : String} {combinator : Combinator} {inner inner' : List (String × Json)}
      (hkey : Combinator.ofKey? key = some combinator) (h : Inserted entry inner inner')
      (rest : List (String × Json)) :
      Inserted entry ((key, .object inner) :: rest) ((key, .object inner') :: rest)
  | later (first : String × Json) {rest rest' : List (String × Json)}
      (h : Inserted entry rest rest') : Inserted entry (first :: rest) (first :: rest')

/-- A fragment in one more pair of parentheses. -/
def Predicate.enclosed : Predicate → Predicate
  | .sql text => .sql (parenthesized text)
  | .empty => .empty
  | .noMatch => .noMatch

namespace Compile

/-- One entry comes to its own predicate in parentheses. -/
theorem entries_singleton_outcome (filters : FilterSet) (depth : Nat) (key : String) (value : Json)
    (combinator : Combinator) (table : BindTable) :
    (((entries filters depth [(key, value)]).outcome table).1.map (joined combinator),
        ((entries filters depth [(key, value)]).outcome table).2) =
      (((entry filters depth key value).outcome table).1.map Predicate.enclosed,
        ((entry filters depth key value).outcome table).2) := by
  rw [entries_cons_outcome]
  match (entry filters depth key value).outcome table with
  | (.error e, table') => rfl
  | (.ok .noMatch, table') => rfl
  | (.ok .empty, table') => rw [continued, entries_nil_outcome]; rfl
  | (.ok (.sql text), table') =>
    simp only [continued, entries_nil_outcome, Except.map, Option.map_some, joined, Predicate.join,
      Predicate.enclosed, List.isEmpty_cons, String.intercalate_singleton]
    rfl

section
variable {filters : FilterSet} {key : String} {value : Json}
  (hkey : Combinator.ofKey? key = none) (hname : filters.find? key = none)
include hkey hname

/-- The entries of a mapping come to the same with one more name that has no filter. -/
theorem entries_inserted {fields fields' : List (String × Json)}
    (h : Inserted (key, value) fields fields') (depth : Nat) (table : BindTable) :
    (entries filters depth fields').outcome table = (entries filters depth fields).outcome table := by
  induction h generalizing depth table with
  | here rest =>
    rw [entries_cons_outcome, entry_of_skipped hkey hname]
    rfl
  | inside houter h rest ih =>
    rw [entries_cons_outcome, entries_cons_outcome, entry_of_combinator houter,
      entry_of_combinator houter]
    rcases Nat.lt_or_ge maxBodyDepth (depth + 1) with hdeep | hdepth
    · rw [group_tooDeep hdeep, group_tooDeep hdeep]
    · rw [group_object_outcome hdepth, group_object_outcome hdepth, ih]
  | later first h ih =>
    obtain ⟨name, v⟩ := first
    have hrest := funext (ih depth)
    rw [entries_cons_outcome, entries_cons_outcome, hrest]

omit hname in
/-- Where a combinator is the only key of the longer mapping, the entry was added below it. -/
theorem inserted_inside {fields fields' : List (String × Json)}
    (h : Inserted (key, value) fields fields') (hlone : IsLone fields') :
    ∃ outer combinator inner inner', fields = [(outer, .object inner)] ∧
      fields' = [(outer, .object inner')] ∧ Combinator.ofKey? outer = some combinator ∧
      Inserted (key, value) inner inner' := by
  obtain ⟨outer, v, combinator, rfl, houter⟩ := hlone
  cases h with
  | here => cases hkey.symm.trans houter
  | inside _ hinner => exact ⟨outer, combinator, _, _, rfl, rfl, houter, hinner⟩
  | later _ hrest => cases hrest

theorem mapping_inserted {fields fields' : List (String × Json)}
    (h : Inserted (key, value) fields fields') (hlone : IsLone fields' ∨ ¬ IsLone fields)
    (default : Combinator) (table : BindTable) :
    (mapping filters default fields').outcome table =
      (mapping filters default fields).outcome table := by
  -- the name is inside a lone combinator, or neither mapping is lone
  by_cases hlone' : IsLone fields'
  · obtain ⟨outer, combinator, inner, inner', rfl, rfl, houter, hinner⟩ :=
      inserted_inside hkey h hlone'
    have hdepth : 1 ≤ maxBodyDepth := by decide
    rw [mapping_of_lone houter, mapping_of_lone houter, group_object_outcome hdepth,
      group_object_outcome hdepth, entries_inserted hkey hname hinner]
  · rw [mapping_of_not_lone hlone', mapping_of_not_lone (hlone.resolve_left hlone'),
      entries_inserted hkey hname h]

/-- Beside another name, a combinator stands one deeper and in parentheses. -/
theorem mapping_inserted_lone {fields fields' : List (String × Json)}
    (h : Inserted (key, value) fields fields') (hlone : IsLone fields) (hlone' : ¬ IsLone fields')
    (default : Combinator) (table : BindTable) :
    Deepened (maxBodyDepth ≤ nesting fields) ((mapping filters default fields').outcome table)
      (((mapping filters default fields).outcome table).1.map Predicate.enclosed,
        ((mapping filters default fields).outcome table).2) := by
  obtain ⟨outer, v, combinator, rfl, houter⟩ := hlone
  rw [mapping_of_not_lone hlone', entries_inserted hkey hname h, entries_singleton_outcome,
    entry_of_combinator houter, mapping_of_lone houter, nesting_lone houter]
  have hdeeper := (group_deeper filters outer combinator 1 v table).map Predicate.enclosed
  exact hdeeper.mono fun hdeep => by omega

/-- Where the longer mapping is walked to its end, it has few enough combinators inside each other
for one more around them. -/
theorem nesting_lt_of_inserted {fields fields' : List (String × Json)}
    (h : Inserted (key, value) fields fields') (hlone' : ¬ IsLone fields') {default : Combinator}
    {table table' : BindTable} {predicate : Predicate}
    (hok : (mapping filters default fields').outcome table = (.ok predicate, table'))
    (hpredicate : predicate ≠ .noMatch) : nesting fields < maxBodyDepth := by
  rw [mapping_of_not_lone hlone', entries_inserted hkey hname h] at hok
  rcases hfields : (entries filters 1 fields).outcome table with ⟨e | _ | fragments, table''⟩
  · rw [hfields] at hok
    cases hok
  · rw [hfields] at hok
    cases hok
    exact absurd rfl hpredicate
  · have hnesting := nesting_le_of_ok hfields
    have hpos : 0 < maxBodyDepth := by decide
    omega

end

end Compile

/-- One more name without a filter changes nothing, wherever it stands; beside a combinator that was
the only key of the body, it puts the predicate in parentheses, unless so many combinators stand
inside each other that one more around them is too many. -/
theorem Compiler.compile_inserted {compiler : Compiler} {key : String} {value : Json}
    (hkey : Combinator.ofKey? key = none) (hname : compiler.filters.find? key = none)
    {b b' : Body} {fields fields' : List (String × Json)} (hb : b.fields? = some fields)
    (hb' : b'.fields? = some fields') (h : Inserted (key, value) fields fields')
    (default : Combinator) :
    (IsLone fields' ∨ ¬ IsLone fields →
      (compiler.compile b' default).result = (compiler.compile b default).result) ∧
    (IsLone fields → ¬ IsLone fields' →
      ((compiler.compile b' default).result =
          (compiler.compile b default).result.map
            (fun (predicate, table) => (predicate.enclosed, table)) ∨
        (compiler.compile b' default).result = .error (.invalidBody .tooDeep) ∧
          maxBodyDepth ≤ nesting fields) ∧
      ∀ predicate table, (compiler.compile b' default).result = .ok (predicate, table) →
        predicate ≠ .noMatch → nesting fields < maxBodyDepth) := by
  obtain ⟨⟨result, table⟩, hmapping⟩ : ∃ outcome,
      (Compile.mapping compiler.filters default fields).outcome (.empty compiler.table.stem) =
        outcome := ⟨_, rfl⟩
  obtain ⟨⟨result', table'⟩, hmapping'⟩ : ∃ outcome,
      (Compile.mapping compiler.filters default fields').outcome (.empty compiler.table.stem) =
        outcome := ⟨_, rfl⟩
  rw [compile_of_outcome ((Compile.body_of_fields hb _ _ _).trans hmapping),
    compile_of_outcome ((Compile.body_of_fields hb' _ _ _).trans hmapping')]
  -- what is left is a matter of the two walks over the mappings
  constructor
  · intro hlone
    have hsame := Compile.mapping_inserted hkey hname h hlone default (.empty compiler.table.stem)
    rw [hmapping, hmapping'] at hsame
    cases hsame
    rfl
  · intro hlone hlone'
    constructor
    · -- beside the new name, the combinator is entered one deeper
      have hdeepened := Compile.mapping_inserted_lone hkey hname h hlone hlone' default
        (.empty compiler.table.stem)
      rw [hmapping, hmapping'] at hdeepened
      rcases hdeepened with hsame | ⟨herror, hdeep⟩
      · left
        cases hsame
        cases result <;> rfl
      · right
        cases herror
        exact ⟨rfl, hdeep⟩
    · intro predicate table hok hpredicate
      cases result' with
      | error e => cases hok
      | ok predicate' =>
        cases hok
        exact Compile.nesting_lt_of_inserted hkey hname h hlone' hmapping' hpredicate

/-- Posts on one subject. -/
def Body.taggedPosts : Body :=
  .object [("any", .object [("tag", .string "rust")])]

/-- The same with the page of a list. -/
def Body.pagedPosts : Body :=
  .object [("any", .object [("tag", .string "rust")]), ("page", .int 2)]

theorem Compiler.compile_inserted_pagedPosts :
    ((ofFilters .posts).compile .taggedPosts .all).result =
        .ok (.sql "((posts.tag IN (:p1)))", ⟨"p", #[.list [.text "rust"]]⟩) ∧
      ((ofFilters .posts).compile .pagedPosts .all).result =
        .ok (.sql "(((posts.tag IN (:p1))))", ⟨"p", #[.list [.text "rust"]]⟩) := by
  have htagged : ((ofFilters .posts).compile .taggedPosts .all).result =
      .ok (.sql "((posts.tag IN (:p1)))", ⟨"p", #[.list [.text "rust"]]⟩) := by
    decide +kernel
  have hinserted : Inserted ("page", .int 2) [("any", .object [("tag", .string "rust")])]
      [("any", .object [("tag", .string "rust")]), ("page", .int 2)] :=
    .later _ (.here [])
  have hlone : IsLone [("any", .object [("tag", .string "rust")])] :=
    ⟨"any", _, .any, rfl, rfl⟩
  have hlone' : ¬ IsLone [("any", .object [("tag", .string "rust")]), ("page", .int 2)] := by
    rintro ⟨_, _, _, hfields, -⟩
    cases hfields
  have hignored := (@compile_inserted (ofFilters .posts) "page" (.int 2) rfl rfl .taggedPosts
    .pagedPosts _ _ rfl rfl hinserted .all).2 hlone hlone'
  refine ⟨htagged, ?_⟩
  rcases hignored.1 with hsame | ⟨-, hdeep⟩
  · rw [hsame, htagged]
    rfl
  · exact absurd hdeep (by decide)

/-- A name without a filter is not always ignored: beside as many combinators as may stand inside
each other, it makes them too many. -/
theorem Compiler.compile_refuses_inserted :
    ((ofFilters .empty).compile (.json (.nestedAll 32)) .all).result =
        .ok (.empty, .empty BindTable.defaultStem) ∧
      ((ofFilters .empty).compile (.object [("all", .nestedAll 31), ("page", .null)]) .all).result =
        .error (.invalidBody .tooDeep) :=
  ⟨rfl, rfl⟩

end Criteria
