import Criteria.Proofs.Equality
import Criteria.Proofs.Simulation
import Criteria.Proofs.Sql.Printing
import Criteria.Proofs.Walk

/-!
# The meaning of a body

What a body asks of rows, read off the body itself: neither texts nor bind tables take part, and
nothing is known of repeated elements, differences of lists or ordered bounds. Main statement:
`compile_evaluates`, the predicate of a body has one reading, and by that reading a row passes
exactly where the meaning of the body says so.
-/

namespace Criteria

/-- What a part of a body asks of rows; without one, it asks nothing. -/
abbrev Meaning := Option (Row → Bool)

namespace Meaning

/-- Whether a row passes several demands under a combinator. -/
def holds (combinator : Combinator) (ms : List (Row → Bool)) (row : Row) : Bool :=
  match combinator with
  | .all => ms.all fun m => m row
  | .any => ms.any fun m => m row

/-- Several demands under a combinator as one; no demands are none. -/
def joined (combinator : Combinator) (ms : List (Row → Bool)) : Meaning :=
  if ms.isEmpty then none else some (holds combinator ms)

/-- A demand alone is the same under either combinator. -/
theorem joined_toList (combinator : Combinator) (m? : Meaning) :
    joined combinator m?.toList = m? := by
  cases m? with
  | none => rfl
  | some m => cases combinator <;> simp [joined, holds, funext_iff]

/-! ### Leaves -/

/-- What the resolved lists of a set filter ask of a value. An empty list alone asks nothing. -/
def lists : Option (List BindValue) → Option (List BindValue) → Option (BindValue → Bool)
  | none, none => none
  | some only, none => if only.isEmpty then none else some fun v => only.contains v
  | none, some except => if except.isEmpty then none else some fun v => !except.contains v
  | some only, some except => some fun v => only.contains v && !except.contains v

/-- What a set filter asks. -/
def sets (filter : String) (spec : FilterSpec) (value : Json) : Meaning :=
  match SetBody.read filter value with
  | .ok body =>
    (lists (body.only.map (spec.elements .only)) (body.except.map (spec.elements .except))).map
      fun p row => p (row spec.field)
  | .error _ => none

/-- The two instants of a range, as they are given. -/
def pair? : Json → Option (Timestamp × Timestamp)
  | .array [x, y] => do
    let a ← Timestamp.ofJson? x
    let b ← Timestamp.ofJson? y
    return (a, b)
  | _ => none

/-- Whether an instant lies between two others, whichever is the earlier. -/
def isBetween (t : Timestamp) (bounds : Timestamp × Timestamp) : Bool :=
  (!t.lt bounds.1 && !bounds.2.lt t) || (!t.lt bounds.2 && !bounds.1.lt t)

/-- Whether a comparison with an operand holds of an instant. -/
def compares (t : Timestamp) (operand : Json) : Comparison → Bool
  | .at => (Timestamp.ofJson? operand).any fun bound => t == bound
  | .notAt => (Timestamp.ofJson? operand).any fun bound => t != bound
  | .after => (Timestamp.ofJson? operand).any fun bound => bound.lt t
  | .atOrAfter => (Timestamp.ofJson? operand).any fun bound => !t.lt bound
  | .before => (Timestamp.ofJson? operand).any fun bound => t.lt bound
  | .atOrBefore => (Timestamp.ofJson? operand).any fun bound => !bound.lt t
  | .between => (pair? operand).any (isBetween t)
  | .notBetween => (pair? operand).any fun bounds => !isBetween t bounds

/-- Whether a value is an instant of which the comparison of a key holds. -/
def passes (v : BindValue) (key : String) (operand : Json) : Bool :=
  v.timestamp?.any fun t => (Comparison.ofKey? key).any (compares t operand)

/-- What a timestamp filter asks: all of its comparisons. -/
def timestampRange (field : String) : Json → Meaning
  | .object fields =>
    joined .all (fields.map fun (key, operand) row => passes (row field) key operand)
  | _ => none

/-- What one filter asks. -/
def leaf (filter : String) (spec : FilterSpec) (value : Json) : Meaning :=
  match spec.kind with
  | .reference | .polymorphicReference | .mappedList => sets filter spec value
  | .timestampRange => timestampRange spec.field value
  | .custom | .passthrough => none

theorem leaf_of_isSet {spec : FilterSpec} (h : spec.IsSet) (filter : String) (value : Json) :
    leaf filter spec value = sets filter spec value := by
  rcases h with h | h | h <;> simp only [leaf, h]

theorem leaf_of_timestampRange {spec : FilterSpec} (h : spec.kind = .timestampRange)
    (filter : String) (value : Json) :
    leaf filter spec value = timestampRange spec.field value := by
  simp only [leaf, h]

theorem leaf_of_other {spec : FilterSpec} (h : spec.kind = .custom ∨ spec.kind = .passthrough)
    (filter : String) (value : Json) : leaf filter spec value = none := by
  rcases h with h | h <;> simp only [leaf, h]

/-! ### Bodies -/

mutual
/-- What the mapping below a combinator asks. -/
def group (filters : FilterSet) (combinator : Combinator) : Json → Meaning
  | .object fields => joined combinator (entries filters fields)
  | _ => none

/-- The demands of the entries of a mapping that ask anything. -/
def entries (filters : FilterSet) : List (String × Json) → List (Row → Bool)
  | [] => []
  | (key, value) :: rest =>
    Option.toList
      (match Combinator.ofKey? key with
        | some combinator => group filters combinator value
        | none =>
          match filters.find? key with
          | some d => leaf key d.toFilterSpec value
          | none => none) ++
      entries filters rest
end

/-- What a body asks, a top-level mapping being under the default combinator. -/
def body (filters : FilterSet) (body : Body) (default : Combinator) : Meaning :=
  body.fields?.bind fun fields => joined default (entries filters fields)

end Meaning

namespace Condition

/-! ### Conditions that say what is meant -/

/-- What a condition says of a row, its operands being values. -/
def truth (row : Row) (c : Condition BindValue) : Option Bool :=
  c.expr.eval some row

theorem truth_group {row : Row} {combinator : Combinator} {c : Condition BindValue}
    {cs : List (Condition BindValue)} {m : Row → Bool} {ms : List (Row → Bool)}
    (h : c.truth row = some (m row)) (hs : cs.map (truth row) = ms.map fun m => some (m row)) :
    (group combinator c cs).truth row = some (Meaning.holds combinator (m :: ms) row) := by
  induction cs generalizing c m ms with
  | nil =>
    rw [List.map_nil, eq_comm, List.map_eq_nil_iff] at hs
    subst hs
    refine h.trans ?_
    cases combinator <;> simp [Meaning.holds]
  | cons d cs ih =>
    cases ms with
    | nil => cases hs
    | cons m' ms =>
      rw [List.map_cons, List.map_cons, List.cons.injEq] at hs
      have hrest := ih hs.1 hs.2
      simp only [truth, expr, exprs] at h hrest ⊢
      cases combinator with
      | all =>
        simp only [Sql.Expr.chain, Sql.Expr.join, Sql.Expr.eval, h, hrest]
        simp [Meaning.holds]
      | any =>
        simp only [Sql.Expr.chain, Sql.Expr.join, Sql.Expr.eval, h, hrest]
        simp [Meaning.holds]

/-- Conditions in a group say what is meant together. -/
theorem truth_join? {row : Row} (combinator : Combinator) {cs : List (Condition BindValue)}
    {ms : List (Row → Bool)} (hs : cs.map (truth row) = ms.map fun m => some (m row)) :
    (join? combinator cs).map (truth row) =
      (Meaning.joined combinator ms).map fun m => some (m row) := by
  cases cs with
  | nil =>
    rw [List.map_nil, eq_comm, List.map_eq_nil_iff] at hs
    subst hs
    rfl
  | cons c cs =>
    cases ms with
    | nil => cases hs
    | cons m ms =>
      rw [List.map_cons, List.map_cons, List.cons.injEq] at hs
      exact congrArg some (truth_group hs.1 hs.2)

end Condition

namespace Outline

variable {row : Row}

/-! ### Leaves say what they mean -/

theorem truth_membership (field : String) (negated : Bool) (xs : List BindValue) :
    (Condition.group .all (.test (.membership field negated (.list xs))) []).truth row =
      some (xs.contains (row field) != negated) := by
  simp [Condition.truth, Condition.expr, Condition.exprs, Sql.Expr.chain, Sql.Expr.eval,
    Sql.testEval, BindValue.list?]

theorem truth_ofMembership {field : String} {only except : Option (List BindValue)}
    {o : Option (Condition BindValue)}
    (h : ofMembership field (.ofLists only except) = .ok o) :
    o.map (Condition.truth row) =
      (Meaning.lists only except).map fun p => some (p (row field)) := by
  cases only with
  | none =>
    cases except with
    | none =>
      cases h
      rfl
    | some ys =>
      rw [Membership.ofLists_except] at h
      rw [Meaning.lists]
      split at h
      · next hys =>
        cases h
        rw [if_pos hys]
        rfl
      · next hys =>
        cases h
        rw [if_neg hys, Option.map_some, Option.map_some, truth_membership, contains_dedup,
          Bool.bne_true]
  | some xs =>
    cases except with
    | none =>
      rw [Membership.ofLists_only] at h
      rw [Meaning.lists]
      split at h
      · next hxs =>
        cases h
        rw [if_pos hxs]
        rfl
      · next hxs =>
        cases h
        rw [if_neg hxs, Option.map_some, Option.map_some, truth_membership, contains_dedup,
          Bool.bne_false]
    | some ys =>
      rw [Membership.ofLists_only_except] at h
      -- without anything left there is a stop, so there is no condition to speak of
      split at h
      · cases h
      · cases h
        rw [Meaning.lists, Option.map_some, Option.map_some, truth_membership, Bool.bne_false,
          contains_difference, contains_dedup, contains_dedup]

theorem truth_sets {filter : String} {spec : FilterSpec} {value : Json}
    {o : Option (Condition BindValue)} (h : sets filter spec value = .ok o) :
    o.map (Condition.truth row) = (Meaning.sets filter spec value).map fun m => some (m row) := by
  obtain ⟨body, hbody, hm⟩ := sets_eq_ok h
  rw [truth_ofMembership hm, Meaning.sets, hbody, Option.map_map]
  rfl

/-- Bounds in order enclose the same instants as they do in the order in which they are given. -/
theorem isBetween_eq (t a b : Timestamp) :
    Meaning.isBetween t (a, b) =
      (!t.lt (Timestamp.ascending a b).1 && !(Timestamp.ascending a b).2.lt t) := by
  rw [Bool.eq_iff_iff, Timestamp.ascending]
  by_cases hba : b.lt a = true
  · rw [if_pos hba]
    simp only [Timestamp.lt_iff, Meaning.isBetween, Bool.or_eq_true, Bool.and_eq_true,
      Bool.not_eq_true', ← Bool.not_eq_true] at hba ⊢
    omega
  · rw [if_neg hba]
    simp only [Timestamp.lt_iff, Meaning.isBetween, Bool.or_eq_true, Bool.and_eq_true,
      Bool.not_eq_true', ← Bool.not_eq_true] at hba ⊢
    omega

theorem instant_eq_ok {filter : String} {operand : Json} {t : Timestamp}
    (h : Clause.instant filter operand = .ok t) : Timestamp.ofJson? operand = some t := by
  unfold Clause.instant at h
  split at h
  · next heq =>
    cases h
    exact heq
  · cases h

theorem bounds_eq_ok {filter : String} {operand : Json} {low high : Timestamp}
    (h : Clause.bounds filter operand = .ok (low, high)) :
    ∃ a b, Meaning.pair? operand = some (a, b) ∧ Timestamp.ascending a b = (low, high) := by
  unfold Clause.bounds at h
  split at h
  · next x y =>
    obtain ⟨a, hx, hrest⟩ := Except.bind_eq_ok h
    obtain ⟨b, hy, hpair⟩ := Except.bind_eq_ok hrest
    refine ⟨a, b, ?_, Except.ok.inj hpair⟩
    rw [Meaning.pair?, instant_eq_ok hx, instant_eq_ok hy]
    rfl
  · cases h

/-- The test of a comparison says what the comparison asks. -/
theorem truth_comparison {filter field key : String} {op : Comparison} {operand : Json}
    {t : Test BindValue} (hop : Comparison.ofKey? key = some op)
    (h : comparison filter field op operand = .ok t) :
    (Condition.test t).truth row = some (Meaning.passes (row field) key operand) := by
  rw [Condition.truth, Condition.expr, Sql.Expr.eval, Meaning.passes, hop]
  rcases comparison_eq_ok h with ⟨r, bound, hform, hbound, rfl⟩ |
    ⟨negated, low, high, hform, hbounds, rfl⟩
  · have hoperand := instant_eq_ok hbound
    cases op <;> cases hform <;>
      simp [Sql.testEval, BindValue.timestamp?, Meaning.compares, hoperand, Relation.holds, bne]
  · obtain ⟨a, b, hpair, hascending⟩ := bounds_eq_ok hbounds
    have hbetween (t : Timestamp) : Meaning.isBetween t (a, b) = (!t.lt low && !high.lt t) := by
      rw [isBetween_eq, hascending]
    cases op <;> cases hform <;>
      simp [Sql.testEval, BindValue.timestamp?, Meaning.compares, hpair, hbetween]

theorem truth_comparisons {filter field : String} {fields : List (String × Json)}
    {ts : List (Test BindValue)} (h : comparisons filter field fields = .ok ts) :
    (ts.map Condition.test).map (Condition.truth row) =
      fields.map fun (key, operand) => some (Meaning.passes (row field) key operand) := by
  induction fields generalizing ts with
  | nil =>
    cases h
    rfl
  | cons entry rest ih =>
    obtain ⟨op, t, us, hop, ht, hus, rfl⟩ := comparisons_cons_eq_ok h
    rw [List.map_cons, List.map_cons, List.map_cons, truth_comparison hop ht, ih hus]

theorem truth_timestampRange {filter field : String} {value : Json}
    {o : Option (Condition BindValue)} (h : timestampRange filter field value = .ok o) :
    o.map (Condition.truth row) =
      (Meaning.timestampRange field value).map fun m => some (m row) := by
  rcases timestampRange_eq_ok h with ⟨rfl, rfl⟩ | ⟨fields, ts, rfl, hts, rfl⟩
  · rfl
  · rw [Meaning.timestampRange]
    apply Condition.truth_join?
    rw [truth_comparisons hts, List.map_map]
    rfl

/-- The condition of a clause says what its filter asks. -/
theorem truth_leaf {filter : String} {spec : FilterSpec} {value : Json}
    {o : Option (Condition BindValue)} (h : leaf filter spec value = .ok o) :
    o.map (Condition.truth row) = (Meaning.leaf filter spec value).map fun m => some (m row) := by
  rcases spec.kind_cases with hset | hrange | hother
  · rw [leaf_of_isSet hset] at h
    rw [Meaning.leaf_of_isSet hset, truth_sets h]
  · rw [leaf_of_timestampRange hrange] at h
    rw [Meaning.leaf_of_timestampRange hrange, truth_timestampRange h]
  · rw [leaf_of_other hother] at h
    rw [Meaning.leaf_of_other hother]
    cases h
    rfl

/-! ### Bodies say what they mean -/

theorem truth_append {o : Option (Condition BindValue)} {m? : Meaning}
    {cs : List (Condition BindValue)} {ms : List (Row → Bool)}
    (ho : o.map (Condition.truth row) = m?.map fun m => some (m row))
    (hs : cs.map (Condition.truth row) = ms.map fun m => some (m row)) :
    (o.toList ++ cs).map (Condition.truth row) = (m?.toList ++ ms).map fun m => some (m row) := by
  cases o with
  | none =>
    cases m? with
    | none => exact hs
    | some m => cases ho
  | some c =>
    cases m? with
    | none => cases ho
    | some m =>
      rw [Option.toList_some, Option.toList_some, List.singleton_append, List.singleton_append,
        List.map_cons, List.map_cons, hs, Option.some.inj ho]

/-- The conditions that a walk finds say what the entries ask. -/
theorem Walk.truth {filters : FilterSet} {fields : List (String × Json)}
    {cs : List (Condition BindValue)} (h : Walk filters fields cs) :
    cs.map (Condition.truth row) = (Meaning.entries filters fields).map fun m => some (m row) := by
  induction h with
  | nil => rfl
  | nested hkey hinner hrest ihinner ihrest =>
    rw [Meaning.entries, hkey]
    exact truth_append (Condition.truth_join? _ ihinner) ihrest
  | leaf hkey hd hleaf hrest ih =>
    simp only [Meaning.entries, hkey, hd]
    exact truth_append (truth_leaf hleaf) ih
  | skipped hkey hd hrest ih =>
    simp only [Meaning.entries, hkey, hd]
    exact ih

/-- The outline of a body says what the body means. -/
theorem truth_body {filters : FilterSet} {b : Body} {default : Combinator}
    {o : Option (Condition BindValue)} (h : body filters b default = .ok o) (row : Row) :
    o.map (Condition.truth row) =
      (Meaning.body filters b default).map fun m => some (m row) := by
  obtain ⟨fields, hfields, h⟩ := body_walk h
  rw [Meaning.body, hfields, Option.bind_some]
  rcases h with ⟨key, combinator, inner, cs, rfl, hkey, hwalk, rfl⟩ | ⟨cs, hwalk, rfl⟩
  · simp only [Meaning.entries, hkey, Meaning.group, List.append_nil, Meaning.joined_toList]
    exact Condition.truth_join? combinator hwalk.truth
  · exact Condition.truth_join? default hwalk.truth

/-- There is a condition where the body asks anything. -/
theorem isSome_body {filters : FilterSet} {b : Body} {default : Combinator}
    {o : Option (Condition BindValue)} (h : body filters b default = .ok o) :
    (Meaning.body filters b default).isSome = o.isSome := by
  have htruth := congrArg Option.isSome (truth_body h fun _ => .list [])
  rw [Option.isSome_map, Option.isSome_map] at htruth
  exact htruth.symm

end Outline

/-! ### Predicates say what they mean -/

/-- Every filter that may restrict tests a plain column. -/
def FilterSet.PlainColumns (filters : FilterSet) : Prop :=
  ∀ name d, filters.find? name = some d → d.kind ≠ .passthrough → Sql.IsColumn d.field

/-- The text of a condition behind an empty table has the truth value of the condition. -/
theorem Condition.evaluates_textAt {stem : String} (hstem : AppConfig.isStem stem = true)
    {c : Condition BindValue} (hfields : ∀ f ∈ c.fields, Sql.IsColumn f) {row : Row} {truth : Bool}
    (h : c.truth row = some truth) :
    Sql.Evaluates (c.textAt (.empty stem)) ((BindTable.empty stem).pushAll c.values) row truth := by
  have hreads : Sql.Reads (c.label (BindTable.nth stem) 0).text
      (c.label (BindTable.nth stem) 0).expr := by
    apply reads_text
    · rw [fields_label]
      exact hfields
    · rw [values_label]
      intro v hv
      obtain ⟨i, -, rfl⟩ := List.mem_map.1 hv
      exact isName_nth hstem i
  exact hreads.evaluates ((eval_label (finds_pushAll stem c.values) row).trans h)

namespace Compiler

variable {compiler : Compiler} (hcustom : compiler.filters.NoCustom)
include hcustom

/-- By its only reading, a predicate says what the body asks. -/
theorem evaluates_meaning (hcolumns : compiler.filters.PlainColumns)
    (hstem : AppConfig.isStem compiler.table.stem = true) {b : Body} {default : Combinator}
    {text : String} {table : BindTable}
    (h : (compiler.compile b default).result = .ok (.sql text, table)) {m : Row → Bool}
    (hm : Meaning.body compiler.filters b default = some m) (row : Row) :
    Sql.Evaluates text table row (m row) := by
  obtain ⟨c, hc, rfl, rfl⟩ := compile_sql hcustom h
  have htruth := Outline.truth_body hc row
  rw [hm, Option.map_some, Option.map_some, Option.some.injEq] at htruth
  exact c.evaluates_textAt hstem (Outline.forall_fields_body hcolumns hc) htruth

/-- The predicate of a body has one reading, and by that reading a row passes exactly where the
meaning of the body says so. -/
theorem compile_evaluates (hcolumns : compiler.filters.PlainColumns)
    (hstem : AppConfig.isStem compiler.table.stem = true) {b : Body} {default : Combinator}
    {text : String} {table : BindTable}
    (h : (compiler.compile b default).result = .ok (.sql text, table)) :
    ∃ m, Meaning.body compiler.filters b default = some m ∧
      ∀ row, Sql.Evaluates text table row (m row) := by
  obtain ⟨c, hc, -, -⟩ := compile_sql hcustom h
  obtain ⟨m, hm⟩ := Option.isSome_iff_exists.1 (Outline.isSome_body hc)
  exact ⟨m, hm, evaluates_meaning hcustom hcolumns hstem h hm⟩

end Compiler

theorem FilterSet.posts_plainColumns : posts.PlainColumns :=
  forall_find? (P := fun d => d.kind ≠ .passthrough → Sql.IsColumn d.field) (by
    unfold Sql.IsColumn
    decide)

theorem Compiler.compile_evaluates_rustPosts :
    ((ofFilters .posts).compile .rustPosts .all).result =
        .ok (.sql Predicate.rustPosts, .rustPosts) ∧
      ∃ m, Meaning.body .posts .rustPosts .all = some m ∧
        ∀ row, Sql.Evaluates Predicate.rustPosts .rustPosts row (m row) :=
  ⟨compile_rustPosts, compile_evaluates FilterSet.posts_noCustom FilterSet.posts_plainColumns rfl
    compile_rustPosts⟩

end Criteria
