import Criteria.Proofs.FirstStop

/-!
# Where errors come from

An error of a walk over a mapping is raised by one of its visits: a combinator is too deep or holds
no mapping, a filter objects to its value, a custom filter has no generator, or its generator raises
an error. So filters that have no generator object to bodies only. Main statements:
`Compiler.error_cases` and `Compiler.error_isOfBody`.
-/

namespace Criteria

/-- An error that a body is to blame for. -/
def FilterError.IsOfBody : FilterError → Prop
  | .invalidBody _ | .unknownComparison .. | .invalidValue .. => True
  | .missingGenerator _ | .custom _ | .config _ => False

/-- An error that the value of a filter is to blame for. -/
def FilterError.IsOfValue : FilterError → Prop
  | .unknownComparison .. | .invalidValue .. => True
  | .invalidBody _ | .missingGenerator _ | .custom _ | .config _ => False

theorem FilterError.IsOfValue.isOfBody {e : FilterError} (h : e.IsOfValue) : e.IsOfBody := by
  cases e with
  | unknownComparison | invalidValue => trivial
  | _ => cases h

/-! ### Values -/

namespace Outline

theorem instant_error {filter : String} {operand : Json} {e : FilterError}
    (h : Clause.instant filter operand = .error e) : e.IsOfValue := by
  unfold Clause.instant at h
  split at h
  · cases h
  · cases h
    trivial

theorem bounds_error {filter : String} {operand : Json} {e : FilterError}
    (h : Clause.bounds filter operand = .error e) : e.IsOfValue := by
  unfold Clause.bounds at h
  split at h
  · next first second =>
    rcases Except.bind_eq_error h with hfirst | ⟨a, -, hrest⟩
    · exact instant_error hfirst
    · rcases Except.bind_eq_error hrest with hsecond | ⟨b, -, hpair⟩
      · exact instant_error hsecond
      · cases hpair
  · cases h
    trivial

theorem comparison_error {filter field : String} {op : Comparison} {operand : Json}
    {e : FilterError} (h : comparison filter field op operand = .error e) : e.IsOfValue := by
  rw [comparison] at h
  cases hform : op.form with
  | inl r =>
    simp only [hform] at h
    exact instant_error (Except.map_eq_error h)
  | inr negated =>
    simp only [hform] at h
    exact bounds_error (Except.map_eq_error h)

theorem comparisons_error {filter field : String} {fields : List (String × Json)}
    {e : FilterError} {bound : List BindValue}
    (h : comparisons filter field fields = .error (e, bound)) : e.IsOfValue := by
  induction fields generalizing bound with
  | nil => cases h
  | cons entry rest ih =>
    obtain ⟨key, operand⟩ := entry
    rw [comparisons] at h
    split at h
    · cases h
      trivial
    · split at h
      · next hfirst =>
        cases h
        exact comparison_error hfirst
      · split at h
        · cases h
        · next hrest =>
          cases h
          exact ih hrest

/-- Where a filter stops at an error, it objects to its value. -/
theorem leaf_error {filter : String} {spec : FilterSpec} {value : Json} {e : FilterError}
    {bound : List BindValue} (h : leaf filter spec value = .error ⟨.failed e, bound⟩) :
    e.IsOfValue := by
  -- a set filter objects where its value is no body, a timestamp filter at a comparison
  rcases spec.kind_cases with hset | hrange | hother
  · rw [leaf_of_isSet hset, sets] at h
    split at h
    · next body hbody =>
      generalize spec.membership body = membership at h
      cases membership <;> cases h
    · next hread =>
      cases h
      unfold SetBody.read at hread
      split at hread
      · cases hread
      · cases hread
      · cases hread
        trivial
      · cases hread
  · rw [leaf_of_timestampRange hrange] at h
    unfold timestampRange at h
    split at h
    · cases h
    · split at h
      · cases h
      · next hcomparisons =>
        cases h
        exact comparisons_error hcomparisons
    · cases h
      trivial
  · rw [leaf_of_other hother] at h
    cases h

end Outline

/-- A custom filter of the set raises an error by its generator. -/
def FilterSet.Raises (filters : FilterSet) (e : FilterError) : Prop :=
  ∃ name d generator value table table', filters.find? name = some d ∧ d.kind = .custom ∧
    d.generator = some generator ∧
    (generator name d.toFilterSpec value).outcome table = (.error e, table')

/-- Where an error of a walk over a mapping comes from. -/
inductive Compile.Raised (filters : FilterSet) : FilterError → Prop
  | tooDeep : Raised filters (.invalidBody .tooDeep)
  | malformed (key : String) : Raised filters (.invalidBody (.combinatorNotMapping key))
  | value {e : FilterError} (h : e.IsOfValue) : Raised filters e
  | missing {name : String} {d : Descriptor} (hd : filters.find? name = some d)
      (hkind : d.kind = .custom) : Raised filters (.missingGenerator name)
  | generator {e : FilterError} (h : filters.Raises e) : Raised filters e

theorem Clause.compile_error {filters : FilterSet} {name : String} {d : Descriptor}
    (hd : filters.find? name = some d) {value : Json} {table table' : BindTable} {e : FilterError}
    (h : (compile name d value).outcome table = (.error e, table')) :
    Compile.Raised filters e := by
  by_cases hkind : d.kind = .custom
  · rw [compile_outcome_custom hkind, custom] at h
    split at h
    · rw [Pass.outcome_fail] at h
      cases h
      exact .missing hd hkind
    · next generator hgenerator =>
      split at h
      · rw [Pass.outcome_pure] at h
        cases h
      · rw [bind_pure_comp, Pass.outcome_map] at h
        -- the generator decides, and its errors are passed on
        rcases houtcome : (generator name d.toFilterSpec value).outcome table with
          ⟨e' | text, table''⟩
        · rw [houtcome] at h
          cases h
          exact .generator ⟨name, d, generator, value, table, _, hd, hkind, hgenerator, houtcome⟩
        · rw [houtcome] at h
          cases h
  · rw [compile_outcome hkind] at h
    rcases hleaf : Outline.leaf name d.toFilterSpec value with ⟨cause, bound⟩ | _ | c
    · rw [hleaf] at h
      cases cause with
      | failed e' =>
        cases h
        exact .value (Outline.leaf_error hleaf)
      | unmatchable => cases h
    · rw [hleaf] at h
      cases h
    · rw [hleaf] at h
      cases h

/-! ### Visits -/

namespace Visit

/-- A sweep fails with the error of one of the visits. -/
theorem exists_of_sweep_failed {visits : List Visit} {table table' : BindTable} {e : FilterError}
    (h : sweep visits table = (.error (.failed e), table')) :
    ∃ v ∈ visits, ∃ before after, v.pass.outcome before = (.error e, after) := by
  induction visits generalizing table with
  | nil => cases h
  | cons v rest ih =>
    rw [sweep] at h
    have hbehind {t : BindTable} {ps : List Predicate}
        (hrest : resumed (sweep rest) (.ok ps, t) = (.error (.failed e), table')) :
        ∃ v' ∈ v :: rest, ∃ before after, v'.pass.outcome before = (.error e, after) := by
      rw [resumed] at hrest
      obtain ⟨hresult, htable⟩ := Prod.mk.inj hrest
      obtain ⟨v', hv', houtcome⟩ := ih (Prod.ext (Except.map_eq_error hresult) htable)
      exact ⟨v', List.mem_cons_of_mem v hv', houtcome⟩
    rcases houtcome : v.pass.outcome table with ⟨e' | predicate, t⟩
    · rw [houtcome] at h
      cases h
      exact ⟨v, List.mem_cons_self, table, _, houtcome⟩
    · rw [houtcome] at h
      cases predicate with
      | noMatch => cases h
      | empty => exact hbehind h
      | sql text => exact hbehind h

theorem raised_of_mem {filters : FilterSet} {depth : Nat} {fields : List (String × Json)} :
    ∀ v ∈ entries filters depth fields, ∀ table table' e,
      v.pass.outcome table = (.error e, table') → Compile.Raised filters e := by
  apply forall_mem_entries
  · intro f hf table table' e h
    rw [pass, Pass.outcome_fail] at h
    cases h
    cases f with
    | notMapping => exact absurd rfl hf
    | combinatorNotMapping key => exact .malformed key
    | tooDeep => exact .tooDeep
  · intro name d value hd table table' e h
    exact Clause.compile_error hd h

end Visit

/-! ### Bodies -/

theorem Compile.mapping_error {filters : FilterSet} {default : Combinator}
    {fields : List (String × Json)} {table table' : BindTable} {e : FilterError}
    (h : (mapping filters default fields).outcome table = (.error e, table')) :
    Raised filters e := by
  have hfollows := mapping_follows filters default fields table
  rw [h] at hfollows
  generalize houtcome : ((.error e, table') : Except FilterError Predicate × BindTable) = outcome,
    hswept : Visit.sweep (Visit.ofMapping filters fields) table = swept at hfollows
  cases hfollows with
  | stopped s table =>
    cases s with
    | failed e' =>
      cases houtcome
      obtain ⟨v, hv, before, after, hpass⟩ := Visit.exists_of_sweep_failed hswept
      exact Visit.raised_of_mem v hv before after _ hpass
    | unmatchable => cases houtcome
  | walked table _ _ => cases houtcome

theorem Compiler.outcome_of_error {compiler : Compiler} {b : Body} {default : Combinator}
    {e : FilterError}
    (h : (compiler.compile b default).result = .error e ∨
      (compiler.generate b default).1.result = .error e) :
    ∃ table, (Compile.body compiler.filters b default).outcome (.empty compiler.table.stem) =
      (.error e, table) := by
  match hout : (Compile.body compiler.filters b default).outcome (.empty compiler.table.stem) with
  | (.error e', table) =>
    rw [compile_of_outcome hout, (generate_of_outcome hout).1] at h
    rcases h with ⟨⟨⟩⟩ | ⟨⟨⟩⟩
    · exact ⟨table, rfl⟩
    · exact ⟨table, rfl⟩
  | (.ok predicate, table) =>
    rw [compile_of_outcome hout, (generate_of_outcome hout).1] at h
    rcases h with ⟨⟨⟩⟩ | ⟨⟨⟩⟩

/-- An error of compiling a mapping is raised by something in it. -/
theorem Compiler.error_cases {compiler : Compiler} {b : Body} {fields : List (String × Json)}
    (hfields : b.fields? = some fields) {default : Combinator} {e : FilterError}
    (h : (compiler.compile b default).result = .error e ∨
      (compiler.generate b default).1.result = .error e) : Compile.Raised compiler.filters e := by
  obtain ⟨table, hout⟩ := outcome_of_error h
  rw [Compile.body_of_fields hfields] at hout
  exact Compile.mapping_error hout

/-- Without custom filters, an error is one of the body. -/
theorem Compiler.error_isOfBody {compiler : Compiler} (hcustom : compiler.filters.NoCustom)
    {b : Body} {default : Combinator} {e : FilterError}
    (h : (compiler.compile b default).result = .error e ∨
      (compiler.generate b default).1.result = .error e) : e.IsOfBody := by
  cases hfields : b.fields? with
  | none =>
    obtain ⟨table, hout⟩ := outcome_of_error h
    rw [Compile.body_of_no_fields hfields] at hout
    cases hout
    trivial
  | some fields =>
    cases error_cases hfields h with
    | tooDeep => trivial
    | malformed key => trivial
    | value hvalue => exact hvalue.isOfBody
    | missing hd hkind => exact absurd hkind (hcustom _ _ hd)
    | generator hraises =>
      obtain ⟨name, d, -, -, -, -, hd, hkind, -⟩ := hraises
      exact absurd hkind (hcustom name d hd)

end Criteria
