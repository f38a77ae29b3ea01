import Criteria.Proofs.Equality
import Criteria.Proofs.Outline
import Criteria.Proofs.Steps

/-!
# Passes follow outlines

Running a pass over a table gives what its outline says, written behind the table: one lemma for
each step of the compiler, and by induction over the body the same for whole mappings. Main statement:
`compile_result`.
-/

namespace Criteria

open Outline (settled settledAll settledTests)

/-! ### Set filters -/

namespace Clause

theorem membership_outcome (field : String) (m : Membership BindValue) (table : BindTable) :
    (membership field m).outcome table = settled table (Outline.ofMembership field m) := by
  cases m with
  | within xs =>
    rw [membership, Pass.outcome_bind_ok (Pass.outcome_placeholder _ _), BindTable.push_eq_pushAll]
    rfl
  | without xs =>
    rw [membership, Pass.outcome_bind_ok (Pass.outcome_placeholder _ _), BindTable.push_eq_pushAll]
    rfl
  | unrestricted => rfl
  | impossible =>
    rw [Outline.ofMembership, settled, BindTable.pushAll_nil]
    rfl

theorem resolve?_outcome {α : Type} (filter : String) (f : Json → Option α)
    (xs : Option (List Json)) (table : BindTable) :
    (resolve? filter f xs).outcome table = (.ok (xs.map (List.filterMap f)), table) := by
  cases xs with
  | none => rfl
  | some xs =>
    rw [resolve?, Pass.outcome_map]
    rfl

/-- Resolved elements are compared as the bind values that they become. -/
theorem resolved_outcome {α : Type} [BEq α] (filter field : String) (f : Json → Option α)
    {g : α → BindValue} (hg : ∀ x y, (g x == g y) = (x == y)) (body : SetBody)
    (table : BindTable) :
    (do
      let only ← resolve? filter f body.only
      let except ← resolve? filter f body.except
      membership field ((Membership.ofLists only except).map g)).outcome table =
      settled table (Outline.ofMembership field (.ofLists
        (body.only.map fun xs => (xs.filterMap f).map g)
        (body.except.map fun xs => (xs.filterMap f).map g))) := by
  rw [Pass.outcome_bind_ok (resolve?_outcome _ _ _ _),
    Pass.outcome_bind_ok (resolve?_outcome _ _ _ _), membership_outcome,
    Membership.map_ofLists hg, Option.map_map, Option.map_map]
  rfl

/-- Every kind of set filter reads the two lists first. -/
theorem set_outcome {filter : String} {spec : FilterSpec} {value : Json}
    {f : SetBody → Pass Predicate} {table : BindTable}
    (hf : ∀ body, (f body).outcome table =
      settled table (Outline.ofMembership spec.field (spec.membership body))) :
    (.ofExcept (SetBody.read filter value) >>= f).outcome table =
      settled table (Outline.sets filter spec value) := by
  cases hbody : SetBody.read filter value with
  | error e =>
    rw [Pass.outcome_bind_error (Pass.outcome_ofExcept _ _), Outline.sets, hbody, settled,
      BindTable.pushAll_nil]
    rfl
  | ok body =>
    rw [Pass.outcome_bind_ok (Pass.outcome_ofExcept _ _), hf, Outline.sets, hbody]

theorem reference_outcome {spec : FilterSpec} (hkind : spec.kind = .reference) (filter : String)
    (value : Json) (table : BindTable) :
    (reference filter spec value).outcome table =
      settled table (Outline.sets filter spec value) := by
  refine set_outcome fun body => ?_
  have helements : ∀ side, spec.elements side =
      fun xs => (xs.filterMap (Reference.resolveId spec.className)).map .integer :=
    fun side => funext fun xs => by rw [FilterSpec.elements, hkind]
  rw [resolved_outcome filter spec.field _ (g := .integer) (fun _ _ => rfl),
    FilterSpec.membership, helements, helements]

theorem polymorphicReference_outcome {spec : FilterSpec}
    (hkind : spec.kind = .polymorphicReference) (filter : String) (value : Json)
    (table : BindTable) :
    (polymorphicReference filter spec value).outcome table =
      settled table (Outline.sets filter spec value) := by
  refine set_outcome fun body => ?_
  have helements : ∀ side, spec.elements side =
      fun xs => (xs.filterMap Reference.resolveFingerprint).map .text :=
    fun side => funext fun xs => by rw [FilterSpec.elements, hkind]
  rw [resolved_outcome filter spec.field _ (g := .text) (fun _ _ => rfl), FilterSpec.membership,
    helements, helements]

theorem mappedList_outcome {spec : FilterSpec} (hkind : spec.kind = .mappedList)
    (filter : String) (value : Json) (table : BindTable) :
    (mappedList filter spec value).outcome table =
      settled table (Outline.sets filter spec value) := by
  refine set_outcome fun body => ?_
  have helements : ∀ side, spec.elements side = mapped spec.convert side :=
    fun side => funext fun xs => by rw [FilterSpec.elements, hkind]
  rw [membership_outcome, FilterSpec.membership, helements, helements]

/-! ### Timestamp filters -/

theorem comparison_outcome (filter field : String) (op : Comparison) (operand : Json)
    (table : BindTable) :
    (comparison filter field op operand).outcome table =
      match Outline.comparison filter field op operand with
      | .ok t => (.ok (t.label (BindTable.nth table.stem) table.size).text, table.pushAll t.values)
      | .error e => (.error e, table) := by
  rw [comparison, Outline.comparison, op.isRange_eq, op.sql_eq]
  -- a single bound takes one name, a range takes two
  cases hform : op.form with
  | inl r =>
    rw [Sum.isRight_inl, if_neg Bool.false_ne_true]
    cases ht : instant filter operand with
    | error e =>
      rw [Pass.outcome_bind_error (Pass.outcome_ofExcept _ _)]
      rfl
    | ok t =>
      rw [Pass.outcome_bind_ok (Pass.outcome_ofExcept _ _),
        Pass.outcome_bind_ok (Pass.outcome_placeholder _ _), BindTable.push_eq_pushAll]
      rfl
  | inr negated =>
    rw [Sum.isRight_inr, if_pos rfl]
    cases ht : bounds filter operand with
    | error e =>
      rw [Pass.outcome_bind_error (Pass.outcome_ofExcept _ _)]
      rfl
    | ok t =>
      obtain ⟨low, high⟩ := t
      rw [Pass.outcome_bind_ok (Pass.outcome_ofExcept _ _),
        Pass.outcome_bind_ok (Pass.outcome_placeholder _ _),
        Pass.outcome_bind_ok (Pass.outcome_placeholder _ _), BindTable.push_eq_pushAll,
        BindTable.push_eq_pushAll, BindTable.pushAll_pushAll]
      simp only [Pass.outcome_pure, Except.map, Test.label, Test.text, Test.values,
        BindTable.nextName_eq_nth, BindTable.stem_pushAll, BindTable.size_pushAll,
        List.length_singleton]
      rfl

theorem comparisons_outcome (filter field : String) (fields : List (String × Json))
    (table : BindTable) :
    (comparisons filter field fields).outcome table =
      settledTests table (Outline.comparisons filter field fields) := by
  -- the names of the tests behind depend on how many values stand in front
  induction fields generalizing table with
  | nil =>
    simp only [comparisons, Outline.comparisons, settledTests, Condition.textsAt, List.map_nil,
      Condition.labelAll, Condition.texts, Condition.valuesAll, BindTable.pushAll_nil,
      Pass.outcome_pure]
  | cons f rest ih =>
    obtain ⟨key, operand⟩ := f
    rw [comparisons, Outline.comparisons]
    cases hop : Comparison.ofKey? key with
    | none => simp only [Pass.outcome_fail, settledTests, BindTable.pushAll_nil]
    | some op =>
      have hfirst := comparison_outcome filter field op operand table
      cases ht : Outline.comparison filter field op operand with
      | error e =>
        rw [ht] at hfirst
        simp only [Pass.outcome_bind_error hfirst, ht, settledTests, BindTable.pushAll_nil]
      | ok t =>
        rw [ht] at hfirst
        have hrest := ih (table.pushAll t.values)
        cases hts : Outline.comparisons filter field rest with
        | error s =>
          obtain ⟨e, bound⟩ := s
          rw [hts] at hrest
          simp only [Pass.outcome_bind_ok hfirst, Pass.outcome_bind_error hrest, ht, settledTests,
            BindTable.pushAll_pushAll]
        | ok ts =>
          rw [hts] at hrest
          simp only [Pass.outcome_bind_ok hfirst, Pass.outcome_bind_ok hrest, ht,
            Pass.outcome_pure, settledTests, Condition.textsAt, List.map_cons,
            Condition.labelAll, Condition.label, Condition.texts, Condition.text,
            Condition.valuesAll, Condition.values, BindTable.pushAll_pushAll,
            BindTable.stem_pushAll, BindTable.size_pushAll]

/-- Conditions that are joined make a group, or nothing where there is none of them. -/
theorem settled_join? (combinator : Combinator) (cs : List (Condition BindValue))
    (table : BindTable) :
    settled table (.ok (Condition.join? combinator cs)) =
      (.ok (Predicate.join combinator (Condition.textsAt table cs)),
        table.pushAll (Condition.valuesAll cs)) := by
  cases cs with
  | nil =>
    rw [Condition.valuesAll, BindTable.pushAll_nil]
    rfl
  | cons c cs => rfl

theorem timestampRange_outcome (filter : String) (spec : FilterSpec) (value : Json)
    (table : BindTable) :
    (timestampRange filter spec value).outcome table =
      settled table (Outline.timestampRange filter spec.field value) := by
  cases value with
  | null => rfl
  | object fields =>
    have hparts := comparisons_outcome filter spec.field fields table
    rw [timestampRange, Outline.timestampRange]
    cases hts : Outline.comparisons filter spec.field fields with
    | ok ts =>
      rw [hts] at hparts
      rw [Pass.outcome_bind_ok hparts, settled_join?]
      rfl
    | error s =>
      rw [hts] at hparts
      rw [Pass.outcome_bind_error hparts]
      rfl
  | _ =>
    rw [timestampRange, Outline.timestampRange, settled, BindTable.pushAll_nil]
    · rfl
    all_goals intros; contradiction

/-! ### Bodies -/

/-- The report on a filter does not show in what it comes to. -/
theorem compile_outcome_ofKind (filter : String) (d : Descriptor) (value : Json)
    (table : BindTable) :
    (compile filter d value).outcome table = (ofKind filter d value).outcome table := by
  rw [compile, Pass.outcome_bind]
  rcases (ofKind filter d value).outcome table with ⟨_ | _, table'⟩ <;> rfl

theorem compile_outcome_custom {d : Descriptor} (hkind : d.kind = .custom) (filter : String)
    (value : Json) (table : BindTable) :
    (compile filter d value).outcome table = (custom filter d value).outcome table := by
  rw [compile_outcome_ofKind, ofKind, hkind]

theorem compile_outcome {d : Descriptor} (hd : d.kind ≠ .custom) (filter : String) (value : Json)
    (table : BindTable) :
    (compile filter d value).outcome table =
      settled table (Outline.leaf filter d.toFilterSpec value) := by
  rw [compile_outcome_ofKind, ofKind, Outline.leaf]
  cases h : d.kind with
  | reference => exact reference_outcome h filter value table
  | polymorphicReference => exact polymorphicReference_outcome h filter value table
  | mappedList => exact mappedList_outcome h filter value table
  | timestampRange => exact timestampRange_outcome filter d.toFilterSpec value table
  | custom => exact absurd h hd
  | passthrough => rfl

theorem compile_outcome_of_isSet {d : Descriptor} (hd : d.IsSet) (filter : String) (value : Json)
    (table : BindTable) :
    (compile filter d value).outcome table =
      settled table (Outline.sets filter d.toFilterSpec value) := by
  rw [compile_outcome hd.kind_ne_custom, Outline.leaf_of_isSet hd]

end Clause

namespace Compile

theorem settled_map_join? (combinator : Combinator)
    (o : Except Stopped (List (Condition BindValue))) (table : BindTable) :
    settled table (o.map (Condition.join? combinator)) =
      ((settledAll table o).1.map (joined combinator), (settledAll table o).2) := by
  match o with
  | .ok cs => exact Clause.settled_join? combinator cs table
  | .error ⟨.failed e, bound⟩ => rfl
  | .error ⟨.unmatchable, bound⟩ => rfl

/-- What follows an entry is written behind the values that the entry bound. -/
theorem continued_settled {others : BindTable → Except FilterError (Option (List String)) × BindTable}
    {rest : Except Stopped (List (Condition BindValue))}
    (hrest : ∀ table, others table = settledAll table rest)
    (first : Except Stopped (Option (Condition BindValue))) (table : BindTable) :
    continued others (settled table first) = settledAll table (Outline.followedBy first rest) := by
  rcases first with ⟨_ | _, bound⟩ | _ | c
  · rfl
  · rfl
  · exact hrest table
  · rw [settled, continued, hrest]
    rcases rest with ⟨_ | _, bound⟩ | cs
    · simp only [Outline.followedBy, settledAll, Stopped.after, BindTable.pushAll_pushAll]
      rfl
    · simp only [Outline.followedBy, settledAll, Stopped.after, BindTable.pushAll_pushAll]
      rfl
    · simp only [Outline.followedBy, settledAll, Condition.textsAt, Condition.labelAll,
        Condition.texts, Condition.valuesAll, BindTable.pushAll_pushAll, BindTable.stem_pushAll,
        BindTable.size_pushAll]
      rfl

mutual
theorem group_outcome {filters : FilterSet} (hf : filters.NoCustom) (key : String)
    (combinator : Combinator) (depth : Nat) (value : Json) (table : BindTable) :
    (group filters key combinator depth value).outcome table =
      settled table (Outline.group filters key combinator depth value) := by
  match value with
  | .object fields =>
    rw [group, Outline.group]
    split
    · rw [settled, BindTable.pushAll_nil]
      rfl
    · rw [settled_map_join?, ← entries_outcome hf depth fields table, bind_pure_comp,
        Pass.outcome_map]
  | .null | .bool _ | .number _ | .string _ | .array _ =>
    rw [group, Outline.group]
    · split
      · rw [settled, BindTable.pushAll_nil]
        rfl
      · rw [settled, BindTable.pushAll_nil]
        rfl
    all_goals intros; contradiction

theorem entries_outcome {filters : FilterSet} (hf : filters.NoCustom) (depth : Nat)
    (fields : List (String × Json)) (table : BindTable) :
    (entries filters depth fields).outcome table =
      settledAll table (Outline.entries filters depth fields) := by
  match fields with
  | [] =>
    rw [entries, Outline.entries, settledAll, Condition.valuesAll, BindTable.pushAll_nil]
    rfl
  | (key, value) :: rest =>
    rw [entries_cons_outcome, Outline.entries,
      ← continued_settled (entries_outcome hf depth rest)]
    cases hkey : Combinator.ofKey? key with
    | some combinator =>
      rw [entry_of_combinator hkey, group_outcome hf key combinator (depth + 1) value table]
    | none =>
      cases hd : filters.find? key with
      | some d => rw [entry_of_filter hkey hd, Clause.compile_outcome (hf key d hd)]
      | none =>
        rw [entry_of_skipped hkey hd]
        rfl
end

theorem mapping_outcome {filters : FilterSet} (hf : filters.NoCustom) (default : Combinator)
    (fields : List (String × Json)) (table : BindTable) :
    (mapping filters default fields).outcome table =
      settled table (Outline.mapping filters default fields) := by
  by_cases hlone : IsLone fields
  · obtain ⟨key, value, combinator, rfl, hkey⟩ := hlone
    rw [mapping_of_lone hkey, Outline.mapping_eq_group hkey]
    exact group_outcome hf key combinator 1 value table
  · rw [mapping_of_not_lone hlone, Outline.mapping_eq_entries hlone, settled_map_join?,
      entries_outcome hf 1 fields table]

/-- Compiling a body over a table follows its outline. -/
theorem body_outcome {filters : FilterSet} (hf : filters.NoCustom) (b : Body)
    (default : Combinator) (table : BindTable) :
    (body filters b default).outcome table = settled table (Outline.body filters b default) := by
  rw [Outline.body]
  cases hfields : b.fields? with
  | none =>
    rw [body_of_no_fields hfields, settled, BindTable.pushAll_nil]
    rfl
  | some fields => rw [body_of_fields hfields, mapping_outcome hf]

end Compile

/-- The predicate and the table of a compiled body are those of its outline, behind an empty table
with the stem of the compiler. -/
theorem Compiler.compile_result {compiler : Compiler} (hf : compiler.filters.NoCustom) (b : Body)
    (default : Combinator) :
    (compiler.compile b default).result =
      let (result, table) := settled (.empty compiler.table.stem)
        (Outline.body compiler.filters b default)
      result.map fun predicate => (predicate, table) :=
  compile_of_outcome (Compile.body_outcome hf b default (.empty compiler.table.stem))

/-- A predicate comes from a condition, from no condition, or from a stop. -/
theorem Compiler.compile_eq_ok {compiler : Compiler} (hf : compiler.filters.NoCustom) {b : Body}
    {default : Combinator} {predicate : Predicate} {table : BindTable}
    (h : (compiler.compile b default).result = .ok (predicate, table)) :
    (∃ c, Outline.body compiler.filters b default = .ok (some c) ∧
        predicate = .sql (c.textAt (.empty compiler.table.stem)) ∧
        table = (BindTable.empty compiler.table.stem).pushAll c.values) ∨
      (Outline.body compiler.filters b default = .ok none ∧ predicate = .empty ∧
        table = .empty compiler.table.stem) ∨
      predicate = .noMatch := by
  rw [compile_result hf] at h
  match ho : Outline.body compiler.filters b default with
  | .ok (some c) =>
    rw [ho] at h
    cases h
    exact Or.inl ⟨c, rfl, rfl, rfl⟩
  | .ok none =>
    rw [ho] at h
    cases h
    exact Or.inr (Or.inl ⟨rfl, rfl, rfl⟩)
  | .error ⟨.failed e, bound⟩ =>
    rw [ho] at h
    cases h
  | .error ⟨.unmatchable, bound⟩ =>
    rw [ho] at h
    cases h
    exact Or.inr (Or.inr rfl)

/-- A text comes from a condition, whose values are those of the table. -/
theorem Compiler.compile_sql {compiler : Compiler} (hf : compiler.filters.NoCustom) {b : Body}
    {default : Combinator} {text : String} {table : BindTable}
    (h : (compiler.compile b default).result = .ok (.sql text, table)) :
    ∃ c, Outline.body compiler.filters b default = .ok (some c) ∧
      c.textAt (.empty compiler.table.stem) = text ∧
      (BindTable.empty compiler.table.stem).pushAll c.values = table := by
  rcases compile_eq_ok hf h with ⟨c, hc, htext, htable⟩ | ⟨-, hempty, -⟩ | hnoMatch
  · exact ⟨c, hc, (Predicate.sql.inj htext).symm, htable.symm⟩
  · cases hempty
  · cases hnoMatch

/-- Where there is nothing to restrict, nothing is bound. -/
theorem Compiler.compile_empty {compiler : Compiler} (hf : compiler.filters.NoCustom) {b : Body}
    {default : Combinator} {table : BindTable}
    (h : (compiler.compile b default).result = .ok (.empty, table)) :
    Outline.body compiler.filters b default = .ok none ∧ table = .empty compiler.table.stem := by
  rcases compile_eq_ok hf h with ⟨c, -, htext, -⟩ | ⟨hnone, -, htable⟩ | hnoMatch
  · cases htext
  · exact ⟨hnone, htable⟩
  · cases hnoMatch

/-! ### A set of filters for examples -/

/-- Filters on posts. -/
def FilterSet.posts : FilterSet :=
  .ofList [
    ("author", (Descriptor.ofKind .reference "posts.author_id").withClassName "User"),
    ("tag", .ofKind .mappedList "posts.tag"),
    ("created", .ofKind .timestampRange "posts.created_at"),
    ("order", .ofKind .passthrough "")]

theorem FilterSet.posts_noCustom : posts.NoCustom :=
  forall_find? (P := fun d => d.kind ≠ .custom) (by decide)

/-- Posts on one subject that are not on another one or were made in a range of time. -/
def Body.rustPosts : Body :=
  .object [
    ("tag", .object [("only", .array [.string "rust"])]),
    ("any", .object [
      ("tag", .object [("except", .array [.string "go"])]),
      ("created", .object [("between", .array [.int 5, .int 3])])]),
    ("order", .string "newest")]

/-- The predicate of these posts. -/
def Predicate.rustPosts : String :=
  "((posts.tag IN (:p1)) AND ((posts.tag NOT IN (:p2)) OR (posts.created_at BETWEEN :p3 AND :p4)))"

/-- The values in it. -/
def BindTable.rustPosts : BindTable :=
  ⟨"p", #[.list [.text "rust"], .list [.text "go"], .timestamp ⟨3, 0⟩, .timestamp ⟨5, 0⟩]⟩

theorem Compiler.compile_rustPosts :
    ((ofFilters .posts).compile .rustPosts .all).result =
      .ok (.sql Predicate.rustPosts, .rustPosts) := by
  decide +kernel

end Criteria
