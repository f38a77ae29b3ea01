import Criteria.Proofs.Condition
import Criteria.Proofs.Steps

/-!
# Outlines

What compiling a body comes to, seen apart from bind table and text: either conditions over the
values themselves, or a stop with the values that were bound before it. `settled` writes an outline
behind the values of a table.

Every property of predicates and tables is a property of outlines; no later proof runs a pass.
-/

namespace Criteria

/-- Why a walk over a body stops. -/
inductive Stop where
  /-- Something in the body is an error. -/
  | failed (e : FilterError)
  /-- No row can pass. -/
  | unmatchable

/-- A walk that stopped, and the values that were bound by then. -/
structure Stopped where
  cause : Stop
  bound : List BindValue

/-- The same stop, where other values were bound first. -/
def Stopped.after (values : List BindValue) (s : Stopped) : Stopped :=
  ⟨s.cause, values ++ s.bound⟩

namespace FilterSpec

/-- The bind values of a list of a set filter; elements that stand for nothing are dropped. -/
def elements (spec : FilterSpec) (side : Side) (xs : List Json) : List BindValue :=
  match spec.kind with
  | .reference => (xs.filterMap (Reference.resolveId spec.className)).map .integer
  | .polymorphicReference => (xs.filterMap Reference.resolveFingerprint).map .text
  | _ => Clause.mapped spec.convert side xs

/-- The membership test that the lists of a set filter amount to. -/
def membership (spec : FilterSpec) (body : SetBody) : Membership BindValue :=
  .ofLists (body.only.map (spec.elements .only)) (body.except.map (spec.elements .except))

end FilterSpec

/-- The value of a set filter is a list of wanted elements and one of unwanted ones. -/
def FilterSpec.IsSet (spec : FilterSpec) : Prop :=
  spec.kind = .reference ∨ spec.kind = .polymorphicReference ∨ spec.kind = .mappedList

theorem FilterSpec.IsSet.kind_ne_custom {spec : FilterSpec} (h : spec.IsSet) :
    spec.kind ≠ .custom := by
  rcases h with h | h | h <;> simp [h]

instance : DecidablePred FilterSpec.IsSet := fun spec =>
  inferInstanceAs (Decidable (spec.kind = .reference ∨ spec.kind = .polymorphicReference ∨
    spec.kind = .mappedList))

theorem FilterSpec.kind_cases (spec : FilterSpec) :
    spec.IsSet ∨ spec.kind = .timestampRange ∨ spec.kind = .custom ∨ spec.kind = .passthrough := by
  unfold FilterSpec.IsSet
  cases spec.kind <;> simp

/-- No filter of the set has a generator of its own. -/
def FilterSet.NoCustom (filters : FilterSet) : Prop :=
  ∀ name d, filters.find? name = some d → d.kind ≠ .custom

namespace Comparison

/-- A comparison is a relation, or a range that may be negated. -/
def form : Comparison → Relation ⊕ Bool
  | .at => .inl .equal
  | .notAt => .inl .unequal
  | .after => .inl .later
  | .atOrAfter => .inl .notEarlier
  | .before => .inl .earlier
  | .atOrBefore => .inl .notLater
  | .between => .inr false
  | .notBetween => .inr true

theorem isRange_eq (op : Comparison) : op.isRange = op.form.isRight := by
  cases op <;> rfl

theorem sql_eq (op : Comparison) :
    op.sql =
      match op.form with
      | .inl r => r.symbol
      | .inr negated => if negated then "NOT BETWEEN" else "BETWEEN" := by
  cases op <;> rfl

end Comparison

namespace Outline

/-! ### Leaves -/

/-- The condition of a membership test. -/
def ofMembership (field : String) :
    Membership BindValue → Except Stopped (Option (Condition BindValue))
  | .within xs => .ok (some (.group .all (.test (.membership field false (.list xs))) []))
  | .without xs => .ok (some (.group .all (.test (.membership field true (.list xs))) []))
  | .unrestricted => .ok none
  | .impossible => .error ⟨.unmatchable, []⟩

/-- The outline of a set filter. -/
def sets (filter : String) (spec : FilterSpec) (value : Json) :
    Except Stopped (Option (Condition BindValue)) :=
  match SetBody.read filter value with
  | .ok body => ofMembership spec.field (spec.membership body)
  | .error e => .error ⟨.failed e, []⟩

/-- The test of one comparison. -/
def comparison (filter field : String) (op : Comparison) (operand : Json) :
    Except FilterError (Test BindValue) :=
  match op.form with
  | .inl r => (Clause.instant filter operand).map fun t => .relation field r (.timestamp t)
  | .inr negated => (Clause.bounds filter operand).map fun (low, high) =>
    .range field negated (.timestamp low) (.timestamp high)

/-- The tests of all comparisons, or the first error with what was bound before it. -/
def comparisons (filter field : String) :
    List (String × Json) → Except (FilterError × List BindValue) (List (Test BindValue))
  | [] => .ok []
  | (key, operand) :: rest =>
    match Comparison.ofKey? key with
    | none => .error (.unknownComparison filter key, [])
    | some op =>
      match comparison filter field op operand with
      | .error e => .error (e, [])
      | .ok t =>
        match comparisons filter field rest with
        | .ok ts => .ok (t :: ts)
        | .error (e, bound) => .error (e, t.values ++ bound)

/-- The outline of a timestamp filter. -/
def timestampRange (filter field : String) :
    Json → Except Stopped (Option (Condition BindValue))
  | .null => .ok none
  | .object fields =>
    match comparisons filter field fields with
    | .ok ts => .ok (Condition.join? .all (ts.map .test))
    | .error (e, bound) => .error ⟨.failed e, bound⟩
  | _ => .error ⟨.failed (.invalidValue filter .notComparisons), []⟩

/-- The outline of one filter. What a custom filter asks is up to its generator. -/
def leaf (filter : String) (spec : FilterSpec) (value : Json) :
    Except Stopped (Option (Condition BindValue)) :=
  match spec.kind with
  | .reference | .polymorphicReference | .mappedList => sets filter spec value
  | .timestampRange => timestampRange filter spec.field value
  | .custom | .passthrough => .ok none

theorem leaf_of_isSet {spec : FilterSpec} (h : spec.IsSet) (filter : String) (value : Json) :
    leaf filter spec value = sets filter spec value := by
  rcases h with h | h | h <;> simp only [leaf, h]

theorem leaf_of_timestampRange {spec : FilterSpec} (h : spec.kind = .timestampRange)
    (filter : String) (value : Json) :
    leaf filter spec value = timestampRange filter spec.field value := by
  simp only [leaf, h]

theorem leaf_of_other {spec : FilterSpec} (h : spec.kind = .custom ∨ spec.kind = .passthrough)
    (filter : String) (value : Json) : leaf filter spec value = .ok none := by
  rcases h with h | h <;> simp only [leaf, h]

/-! ### Bodies -/

/-- The outline of an entry and what follows it. -/
def followedBy (first : Except Stopped (Option (Condition BindValue)))
    (rest : Except Stopped (List (Condition BindValue))) :
    Except Stopped (List (Condition BindValue)) :=
  match first with
  | .error s => .error s
  | .ok none => rest
  | .ok (some c) =>
    match rest with
    | .ok cs => .ok (c :: cs)
    | .error s => .error (s.after c.values)

mutual
/-- The outline of the mapping below a combinator key. -/
def group (filters : FilterSet) (key : String) (combinator : Combinator) (depth : Nat) :
    Json → Except Stopped (Option (Condition BindValue))
  | .object fields =>
    if maxBodyDepth < depth then .error ⟨.failed (.invalidBody .tooDeep), []⟩
    else (entries filters depth fields).map (Condition.join? combinator)
  | _ =>
    if maxBodyDepth < depth then .error ⟨.failed (.invalidBody .tooDeep), []⟩
    else .error ⟨.failed (.invalidBody (.combinatorNotMapping key)), []⟩

/-- The conditions of the entries of a mapping. -/
def entries (filters : FilterSet) (depth : Nat) :
    List (String × Json) → Except Stopped (List (Condition BindValue))
  | [] => .ok []
  | (key, value) :: rest =>
    followedBy
      (match Combinator.ofKey? key with
        | some combinator => group filters key combinator (depth + 1) value
        | none =>
          match filters.find? key with
          | some descriptor => leaf key descriptor.toFilterSpec value
          | none => .ok none)
      (entries filters depth rest)
end

/-- The outline of a top-level mapping. -/
def mapping (filters : FilterSet) (default : Combinator) (fields : List (String × Json)) :
    Except Stopped (Option (Condition BindValue)) :=
  let whole := (entries filters 1 fields).map (Condition.join? default)
  match fields with
  | [(key, value)] =>
    match Combinator.ofKey? key with
    | some combinator => group filters key combinator 1 value
    | none => whole
  | _ => whole

theorem mapping_eq_group {key : String} {combinator : Combinator}
    (hkey : Combinator.ofKey? key = some combinator) (filters : FilterSet) (default : Combinator)
    (value : Json) :
    mapping filters default [(key, value)] = group filters key combinator 1 value := by
  simp only [mapping, hkey]

theorem mapping_eq_entries {fields : List (String × Json)} (h : ¬ IsLone fields)
    (filters : FilterSet) (default : Combinator) :
    mapping filters default fields =
      (entries filters 1 fields).map (Condition.join? default) := by
  rcases cases_of_not_lone h with rfl | ⟨key, value, rfl, hkey⟩ | ⟨first, second, rest, rfl⟩
  · rfl
  · simp only [mapping, hkey]
  · rfl

/-- The outline of a body. -/
def body (filters : FilterSet) (body : Body) (default : Combinator) :
    Except Stopped (Option (Condition BindValue)) :=
  match body.fields? with
  | some fields => mapping filters default fields
  | none => .error ⟨.failed (.invalidBody .notMapping), []⟩

/-! ### Outlines behind a table -/

/-- The result that a stop leads to; `unmatched` stands for the certainty that no row passes. -/
def stopResult {α : Type} (unmatched : α) : Stop → Except FilterError α
  | .failed e => .error e
  | .unmatchable => .ok unmatched

/-- The predicate of an outline and the table it leaves, where it starts with a table. -/
def settled (table : BindTable) :
    Except Stopped (Option (Condition BindValue)) → Except FilterError Predicate × BindTable
  | .ok none => (.ok .empty, table)
  | .ok (some c) => (.ok (.sql (c.textAt table)), table.pushAll c.values)
  | .error s => (stopResult .noMatch s.cause, table.pushAll s.bound)

/-- The fragments of an outline of entries and the table it leaves. -/
def settledAll (table : BindTable) :
    Except Stopped (List (Condition BindValue)) →
      Except FilterError (Option (List String)) × BindTable
  | .ok cs => (.ok (some (Condition.textsAt table cs)), table.pushAll (Condition.valuesAll cs))
  | .error s => (stopResult none s.cause, table.pushAll s.bound)

/-- The texts of comparisons and the table they leave. -/
def settledTests (table : BindTable) :
    Except (FilterError × List BindValue) (List (Test BindValue)) →
      Except FilterError (List String) × BindTable
  | .ok ts =>
    (.ok (Condition.textsAt table (ts.map .test)),
      table.pushAll (Condition.valuesAll (ts.map .test)))
  | .error (e, bound) => (.error e, table.pushAll bound)

end Outline

end Criteria
