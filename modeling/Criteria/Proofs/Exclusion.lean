import Criteria.Proofs.Adjusted
import Criteria.Proofs.Meaning

/-!
# Exclusions that hold

An adjustment may write a list of unwanted elements into every leaf of one set filter. Where all
combinators of a body are conjunctions, no row with one of these elements passes what is compiled
then, whatever else the body asks. Main statement: `compile_excluding`.
-/

namespace Criteria

/-- Write a list of unwanted elements into every mapping that is the value of a filter. -/
def excluding (filter : String) (unwanted : List Json) : Adjust.Transform := fun name value =>
  if name = filter then
    match value with
    | .object fields => .ok (.object (Assoc.insert Side.except.key (.array unwanted) fields))
    | _ => .ok value
  else .ok value

/-- Every combinator of a mapping, however deep, is a conjunction. -/
def OnlyAll (fields : List (String × Json)) : Prop :=
  ∀ key value combinator, Reaches fields key value →
    Combinator.ofKey? key = some combinator → combinator = .all

namespace OnlyAll

theorem later {entry : String × Json} {rest : List (String × Json)} (h : OnlyAll (entry :: rest)) :
    OnlyAll rest := by
  intro key value combinator hreaches hkey
  exact h key value combinator (.later entry hreaches) hkey

theorem inside {outer : String} {combinator : Combinator} {inner rest : List (String × Json)}
    (h : OnlyAll ((outer, .object inner) :: rest))
    (houter : Combinator.ofKey? outer = some combinator) : combinator = .all ∧ OnlyAll inner := by
  refine ⟨h outer _ combinator (.here _ _ _) houter, ?_⟩
  intro key value combinator' hreaches hkey
  exact h key value combinator' (.inside houter hreaches) hkey

theorem of_adjusts {transform : Adjust.Transform} {fields fields' : List (String × Json)}
    (h : OnlyAll fields) (hadjusts : Adjust.Adjusts transform fields fields') :
    OnlyAll fields' := by
  intro key value' combinator hreaches hkey
  obtain ⟨value, hreaches⟩ := hadjusts.reaches_of_adjusted hreaches
  exact h key value combinator hreaches hkey

end OnlyAll

namespace Meaning

/-! ### Demands that fail -/

/-- A conjunction fails where one of its demands does. -/
theorem joined_all_of_mem {ms : List (Row → Bool)} {m : Row → Bool} (hm : m ∈ ms) :
    ∃ m', joined .all ms = some m' ∧ ∀ row, m row = false → m' row = false := by
  refine ⟨holds .all ms, ?_, ?_⟩
  · rw [joined, if_neg]
    rw [List.isEmpty_iff]
    exact List.ne_nil_of_mem hm
  · intro row hrow
    rw [holds, List.all_eq_false]
    exact ⟨m, hm, by simp [hrow]⟩

/-- Below conjunctions, a leaf that fails leaves a demand that fails at the top. -/
theorem exists_mem_entries {filters : FilterSet} {fields : List (String × Json)} {key : String}
    {value : Json} (hreaches : Reaches fields key value) (hall : OnlyAll fields)
    (hkey : Combinator.ofKey? key = none) {d : Descriptor} (hd : filters.find? key = some d)
    {m : Row → Bool} (hm : leaf key d.toFilterSpec value = some m) :
    ∃ m' ∈ entries filters fields, ∀ row, m row = false → m' row = false := by
  -- a demand fails with the leaf inside it, since every combinator on the way is a conjunction
  induction hreaches with
  | here key value rest =>
    refine ⟨m, ?_, fun _ hrow => hrow⟩
    simp only [entries, hkey, hd, hm, Option.toList_some, List.singleton_append]
    exact List.mem_cons_self
  | inside houter h ih =>
    obtain ⟨rfl, hinner⟩ := hall.inside houter
    obtain ⟨m', hmem, hfails'⟩ := ih hinner hkey hd hm
    obtain ⟨demand, hdemand, hfails⟩ := joined_all_of_mem hmem
    refine ⟨demand, ?_, fun row hrow => hfails row (hfails' row hrow)⟩
    simp only [entries, houter, group, hdemand, Option.toList_some, List.singleton_append]
    exact List.mem_cons_self
  | later entry h ih =>
    obtain ⟨m', hmem, hfails⟩ := ih hall.later hkey hd hm
    refine ⟨m', ?_, hfails⟩
    rw [entries]
    exact List.mem_append_right _ hmem

/-- A set filter with unwanted elements asks something, and a row with one of them fails it. -/
theorem leaf_of_unwanted {filter : String} {spec : FilterSpec} (hset : spec.IsSet)
    {unwanted : List Json} (hunwanted : spec.elements .except unwanted ≠ [])
    {fields : List (String × Json)} (hexcept : SetBody.side? .except fields = some unwanted) :
    ∃ m, leaf filter spec (.object fields) = some m ∧
      ∀ row : Row, (spec.elements .except unwanted).contains (row spec.field) → m row = false := by
  rw [leaf_of_isSet hset, sets, SetBody.read, hexcept]
  simp only [Option.map_some]
  cases SetBody.side? .only fields with
  | none =>
    have hempty : (spec.elements .except unwanted).isEmpty = false := by simpa using hunwanted
    simp only [Option.map_none, lists, hempty]
    exact ⟨_, rfl, fun row hrow => by simp [hrow]⟩
  | some only => exact ⟨_, rfl, fun row hrow => by simp [hrow]⟩

end Meaning

/-! ### Compiled exclusions -/

theorem side?_excluding (unwanted : List Json) (fields : List (String × Json)) :
    SetBody.side? .except (Assoc.insert Side.except.key (.array unwanted) fields) =
      some unwanted := by
  rw [SetBody.side?, Assoc.find?_insert, if_pos rfl]
  rfl

/-- After an exclusion, a body asks something, and a row with an unwanted element fails it. -/
theorem Meaning.body_excluding {filters : FilterSet} {filter : String} {d : Descriptor}
    (hd : filters.find? filter = some d) (hset : d.toFilterSpec.IsSet)
    (hfilter : Combinator.ofKey? filter = none) {b : Body} {fields inner : List (String × Json)}
    (hfields : b.fields? = some fields) (hall : OnlyAll fields)
    (hoccurs : Reaches fields filter (.object inner)) {unwanted : List Json}
    (hunwanted : d.toFilterSpec.elements .except unwanted ≠ []) {adjusted : Json}
    (hadjusted : (Adjust.body (excluding filter unwanted) b).result = .ok adjusted) :
    ∃ m, Meaning.body filters (.json adjusted) .all = some m ∧
      ∀ row : Row, (d.toFilterSpec.elements .except unwanted).contains (row d.field) →
        m row = false := by
  obtain ⟨fields', adjustedFields, hfields', rfl, hadjusts⟩ := Adjust.body_adjusts hadjusted
  obtain rfl : fields = fields' := Option.some.inj (hfields.symm.trans hfields')
  obtain ⟨value', hvalue', hreaches⟩ := hadjusts.reaches_leaf hfilter hoccurs
  rw [excluding, if_pos rfl, Except.ok.injEq] at hvalue'
  subst hvalue'
  -- from the leaf to the list of demands, and from there to their conjunction
  obtain ⟨m, hm, hleaf⟩ := leaf_of_unwanted hset hunwanted (side?_excluding unwanted inner)
  obtain ⟨m', hmem, hfails'⟩ :=
    exists_mem_entries hreaches (hall.of_adjusts hadjusts) hfilter hd hm
  obtain ⟨demand, hdemand, hfails⟩ := joined_all_of_mem hmem
  refine ⟨demand, hdemand, ?_⟩
  intro row hrow
  exact hfails row (hfails' row (hleaf row hrow))

/-- Where an adjustment writes a list of unwanted elements into a set filter that some conjunction
of the body names, there is something to restrict, and no row with one of these elements passes. -/
theorem Compiler.compile_excluding {compiler : Compiler} (hcustom : compiler.filters.NoCustom)
    (hcolumns : compiler.filters.PlainColumns)
    (hstem : AppConfig.isStem compiler.table.stem = true) {filter : String} {d : Descriptor}
    (hd : compiler.filters.find? filter = some d) (hset : d.toFilterSpec.IsSet)
    (hfilter : Combinator.ofKey? filter = none) {b : Body} {fields inner : List (String × Json)}
    (hfields : b.fields? = some fields) (hall : OnlyAll fields)
    (hoccurs : Reaches fields filter (.object inner)) {unwanted : List Json}
    (hunwanted : d.toFilterSpec.elements .except unwanted ≠ []) {adjusted : Json}
    (hadjusted : (Adjust.body (excluding filter unwanted) b).result = .ok adjusted) :
    (∀ table, (compiler.compile (.json adjusted) .all).result ≠ .ok (.empty, table)) ∧
      ∀ text table, (compiler.compile (.json adjusted) .all).result = .ok (.sql text, table) →
        ∀ row : Row, (d.toFilterSpec.elements .except unwanted).contains (row d.field) →
          Sql.Evaluates text table row false := by
  obtain ⟨m, hm, hfails⟩ :=
    Meaning.body_excluding hd hset hfilter hfields hall hoccurs hunwanted hadjusted
  constructor
  · intro table hempty
    obtain ⟨hnone, -⟩ := compile_empty hcustom hempty
    have hsome := Outline.isSome_body hnone
    rw [hm] at hsome
    cases hsome
  · intro text table htext row hrow
    have hmeaning := evaluates_meaning hcustom hcolumns hstem htext hm row
    rw [hfails row hrow] at hmeaning
    exact hmeaning

/-- Posts by one of two authors. -/
def Body.authoredPosts : Body :=
  .object [
    ("all", .object [("author", .object [("only", .array [.int 7, .int 8])])]),
    ("page", .int 3)]

/-- The same without those of one of the authors. -/
def Json.otherPosts : Json :=
  .object [
    ("all", .object [("author", .object [
      ("only", .array [.int 7, .int 8]), ("except", .array [.int 7])])]),
    ("page", .int 3)]

theorem Compiler.compile_excluding_authoredPosts :
    (Adjust.body (excluding "author" [.int 7]) .authoredPosts).result = .ok .otherPosts ∧
      ((ofFilters .posts).compile (.json .otherPosts) .all).result =
        .ok (.sql "(((posts.author_id IN (:p1))))", ⟨"p", #[.list [.integer 8]]⟩) ∧
      ∀ row : Row, row "posts.author_id" = .integer 7 →
        Sql.Evaluates "(((posts.author_id IN (:p1))))" ⟨"p", #[.list [.integer 8]]⟩ row false := by
  have hd : FilterSet.posts.find? "author" =
      some ((Descriptor.ofKind .reference "posts.author_id").withClassName "User") := rfl
  have hall : OnlyAll [
      ("all", .object [("author", .object [("only", .array [.int 7, .int 8])])]),
      ("page", .int 3)] := by
    intro key value combinator hreaches hkey
    cases hreaches with
    | here => exact (Option.some.inj hkey).symm
    | inside _ h =>
      cases h with
      | here => cases hkey
      | inside hauthor _ => cases hauthor
      | later _ h => cases h
    | later _ h =>
      cases h with
      | here => cases hkey
      | later _ h => cases h
  have hunwanted : FilterSpec.elements
      ((Descriptor.ofKind .reference "posts.author_id").withClassName "User").toFilterSpec .except
      [.int 7] ≠ [] :=
    List.cons_ne_nil (BindValue.integer 7) []
  have hadjusted : (Adjust.body (excluding "author" [.int 7]) .authoredPosts).result =
      .ok .otherPosts := rfl
  have hcompile : ((ofFilters .posts).compile (.json .otherPosts) .all).result =
      .ok (.sql "(((posts.author_id IN (:p1))))", ⟨"p", #[.list [.integer 8]]⟩) := by
    decide +kernel
  have hexcluding := @compile_excluding (ofFilters .posts) FilterSet.posts_noCustom
    FilterSet.posts_plainColumns rfl _ _ hd (Or.inl rfl) rfl _ _ _ rfl hall
    (.inside rfl (.here _ _ _)) _ hunwanted _ hadjusted
  refine ⟨hadjusted, hcompile, ?_⟩
  intro row hrow
  apply hexcluding.2 _ _ hcompile row
  show List.contains _ (row "posts.author_id") = true
  rw [hrow]
  rfl

end Criteria
