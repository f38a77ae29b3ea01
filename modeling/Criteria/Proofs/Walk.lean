import Criteria.Proofs.Outline

/-!
# Walks that nothing stopped

Where the outline of a body is a condition, it was found by a walk in which every clause succeeded.
`Walk` follows such a walk entry by entry, without errors and without depths, so that a property of
compiled bodies is one induction with a case for each kind of entry. Main statements: `body_walk`,
and as its first use `forall_fields_body`.
-/

namespace Criteria.Outline

/-- The conditions that a walk over a mapping finds, where nothing stops it. -/
inductive Walk (filters : FilterSet) : List (String × Json) → List (Condition BindValue) → Prop
  | nil : Walk filters [] []
  | nested {key : String} {combinator : Combinator} {fields rest : List (String × Json)}
      {cs ds : List (Condition BindValue)} (hkey : Combinator.ofKey? key = some combinator)
      (hinner : Walk filters fields cs) (hrest : Walk filters rest ds) :
      Walk filters ((key, .object fields) :: rest) ((Condition.join? combinator cs).toList ++ ds)
  | leaf {key : String} {value : Json} {d : Descriptor} {o : Option (Condition BindValue)}
      {rest : List (String × Json)} {ds : List (Condition BindValue)}
      (hkey : Combinator.ofKey? key = none) (hd : filters.find? key = some d)
      (hleaf : leaf key d.toFilterSpec value = .ok o) (hrest : Walk filters rest ds) :
      Walk filters ((key, value) :: rest) (o.toList ++ ds)
  | skipped {key : String} {value : Json} {rest : List (String × Json)}
      {ds : List (Condition BindValue)} (hkey : Combinator.ofKey? key = none)
      (hd : filters.find? key = none) (hrest : Walk filters rest ds) :
      Walk filters ((key, value) :: rest) ds

theorem followedBy_eq_ok {first : Except Stopped (Option (Condition BindValue))}
    {rest : Except Stopped (List (Condition BindValue))} {cs : List (Condition BindValue)}
    (h : followedBy first rest = .ok cs) :
    ∃ o ds, first = .ok o ∧ rest = .ok ds ∧ cs = o.toList ++ ds := by
  cases first with
  | error s => cases h
  | ok o =>
    cases o with
    | none => exact ⟨none, cs, rfl, h, rfl⟩
    | some c =>
      cases rest with
      | error s => cases h
      | ok ds =>
        cases h
        exact ⟨some c, ds, rfl, rfl, rfl⟩

mutual
theorem group_walk {filters : FilterSet} {key : String} {combinator : Combinator} {depth : Nat}
    {value : Json} {o : Option (Condition BindValue)}
    (h : group filters key combinator depth value = .ok o) :
    ∃ fields cs, value = .object fields ∧ Walk filters fields cs ∧
      o = Condition.join? combinator cs := by
  match value with
  | .object fields =>
    rw [group] at h
    split at h
    · cases h
    · obtain ⟨cs, hcs, rfl⟩ := Except.map_eq_ok h
      exact ⟨fields, cs, rfl, entries_walk hcs, rfl⟩
  | .null | .bool _ | .number _ | .string _ | .array _ =>
    rw [group] at h
    · split at h <;> cases h
    all_goals intros; contradiction

theorem entries_walk {filters : FilterSet} {depth : Nat} {fields : List (String × Json)}
    {cs : List (Condition BindValue)} (h : entries filters depth fields = .ok cs) :
    Walk filters fields cs := by
  match fields with
  | [] =>
    rw [entries] at h
    cases h
    exact .nil
  | (key, value) :: rest =>
    rw [entries] at h
    obtain ⟨o, ds, hfirst, hds, rfl⟩ := followedBy_eq_ok h
    have hrest := entries_walk hds
    cases hkey : Combinator.ofKey? key with
    | some combinator =>
      simp only [hkey] at hfirst
      obtain ⟨inner, cs, rfl, hinner, rfl⟩ := group_walk hfirst
      exact .nested hkey hinner hrest
    | none =>
      simp only [hkey] at hfirst
      cases hd : filters.find? key with
      | some d =>
        simp only [hd] at hfirst
        exact .leaf hkey hd hfirst hrest
      | none =>
        simp only [hd] at hfirst
        cases hfirst
        exact .skipped hkey hd hrest
end

/-- A body that nothing stops is walked from the top, or from below its only key. -/
theorem body_walk {filters : FilterSet} {b : Body} {default : Combinator}
    {o : Option (Condition BindValue)} (h : body filters b default = .ok o) :
    ∃ fields, b.fields? = some fields ∧
      ((∃ key combinator inner cs, fields = [(key, .object inner)] ∧
          Combinator.ofKey? key = some combinator ∧ Walk filters inner cs ∧
          o = Condition.join? combinator cs) ∨
        ∃ cs, Walk filters fields cs ∧ o = Condition.join? default cs) := by
  rw [body] at h
  cases hfields : b.fields? with
  | none =>
    rw [hfields] at h
    cases h
  | some fields =>
    simp only [hfields] at h
    refine ⟨fields, rfl, ?_⟩
    by_cases hlone : IsLone fields
    · obtain ⟨key, value, combinator, rfl, hkey⟩ := hlone
      rw [mapping_eq_group hkey] at h
      obtain ⟨inner, cs, rfl, hinner, ho⟩ := group_walk h
      exact Or.inl ⟨key, combinator, inner, cs, rfl, hkey, hinner, ho⟩
    · rw [mapping_eq_entries hlone] at h
      obtain ⟨cs, hcs, rfl⟩ := Except.map_eq_ok h
      exact Or.inr ⟨cs, entries_walk hcs, rfl⟩

theorem comparison_eq_ok {filter field : String} {op : Comparison} {operand : Json}
    {t : Test BindValue} (h : comparison filter field op operand = .ok t) :
    (∃ r bound, op.form = .inl r ∧ Clause.instant filter operand = .ok bound ∧
      t = .relation field r (.timestamp bound)) ∨
    ∃ negated low high, op.form = .inr negated ∧ Clause.bounds filter operand = .ok (low, high) ∧
      t = .range field negated (.timestamp low) (.timestamp high) := by
  rw [comparison] at h
  cases hform : op.form with
  | inl r =>
    simp only [hform] at h
    obtain ⟨bound, hbound, rfl⟩ := Except.map_eq_ok h
    exact Or.inl ⟨r, bound, rfl, hbound, rfl⟩
  | inr negated =>
    simp only [hform] at h
    obtain ⟨⟨low, high⟩, hbounds, rfl⟩ := Except.map_eq_ok h
    exact Or.inr ⟨negated, low, high, rfl, hbounds, rfl⟩

theorem comparisons_cons_eq_ok {filter field key : String} {operand : Json}
    {rest : List (String × Json)} {ts : List (Test BindValue)}
    (h : comparisons filter field ((key, operand) :: rest) = .ok ts) :
    ∃ op t us, Comparison.ofKey? key = some op ∧ comparison filter field op operand = .ok t ∧
      comparisons filter field rest = .ok us ∧ ts = t :: us := by
  rw [comparisons] at h
  split at h
  · cases h
  · next op hop =>
    split at h
    · cases h
    · next t ht =>
      split at h
      · next us hus =>
        cases h
        exact ⟨op, t, us, hop, ht, hus, rfl⟩
      · cases h

theorem valuesAll_tests (ts : List (Test BindValue)) :
    Condition.valuesAll (ts.map .test) = ts.flatMap Test.values := by
  induction ts with
  | nil => rfl
  | cons t ts ih =>
    rw [List.map_cons, Condition.valuesAll, ih, List.flatMap_cons]
    rfl

theorem timestampRange_eq_ok {filter field : String} {value : Json}
    {o : Option (Condition BindValue)} (h : timestampRange filter field value = .ok o) :
    (value = .null ∧ o = none) ∨ ∃ fields ts, value = .object fields ∧
      comparisons filter field fields = .ok ts ∧ o = Condition.join? .all (ts.map .test) := by
  unfold timestampRange at h
  split at h
  · cases h
    exact Or.inl ⟨rfl, rfl⟩
  · next fields =>
    split at h
    · next ts hts =>
      cases h
      exact Or.inr ⟨fields, ts, rfl, hts, rfl⟩
    · cases h
  · cases h

theorem sets_eq_ok {filter : String} {spec : FilterSpec} {value : Json}
    {o : Option (Condition BindValue)} (h : sets filter spec value = .ok o) :
    ∃ body, SetBody.read filter value = .ok body ∧
      ofMembership spec.field (spec.membership body) = .ok o := by
  unfold sets at h
  split at h
  · next body hbody => exact ⟨body, hbody, h⟩
  · cases h

/-! ### The fields of conditions -/

section
variable {P : String → Prop}

theorem forall_fields_join? {combinator : Combinator} {cs : List (Condition BindValue)}
    (h : ∀ f ∈ Condition.fieldsAll cs, P f) :
    ∀ c ∈ Condition.join? combinator cs, ∀ f ∈ c.fields, P f := by
  intro c hc
  cases cs with
  | nil => cases hc
  | cons first rest =>
    cases hc
    exact h

theorem forall_fields_comparisons {filter field : String} (hP : P field)
    {fields : List (String × Json)} {ts : List (Test BindValue)}
    (h : comparisons filter field fields = .ok ts) :
    ∀ f ∈ Condition.fieldsAll (ts.map .test), P f := by
  induction fields generalizing ts with
  | nil =>
    cases h
    exact nofun
  | cons entry rest ih =>
    obtain ⟨op, t, us, -, ht, hus, rfl⟩ := comparisons_cons_eq_ok h
    rw [List.map_cons, Condition.fieldsAll, Condition.fields, List.forall_mem_append]
    refine ⟨?_, ih hus⟩
    intro f hf
    rw [List.mem_singleton.1 hf]
    rcases comparison_eq_ok ht with ⟨r, bound, -, -, rfl⟩ | ⟨negated, low, high, -, -, rfl⟩
    · exact hP
    · exact hP

theorem forall_fields_ofMembership {field : String} (hP : P field) {m : Membership BindValue}
    {o : Option (Condition BindValue)} (h : ofMembership field m = .ok o) :
    ∀ c ∈ o, ∀ f ∈ c.fields, P f := by
  intro c hc f hf
  cases m with
  | within xs =>
    cases h
    cases hc
    rw [List.mem_singleton.1 hf]
    exact hP
  | without xs =>
    cases h
    cases hc
    rw [List.mem_singleton.1 hf]
    exact hP
  | unrestricted =>
    cases h
    cases hc
  | impossible => cases h

/-- A clause tests the field of its filter. -/
theorem forall_fields_leaf {filter : String} {spec : FilterSpec} {value : Json}
    {o : Option (Condition BindValue)} (hP : spec.kind ≠ .passthrough → P spec.field)
    (h : leaf filter spec value = .ok o) : ∀ c ∈ o, ∀ f ∈ c.fields, P f := by
  rcases spec.kind_cases with hset | hrange | hother
  · have hfield : P spec.field := hP fun hkind => by simp [FilterSpec.IsSet, hkind] at hset
    rw [leaf_of_isSet hset] at h
    obtain ⟨body, -, hm⟩ := sets_eq_ok h
    exact forall_fields_ofMembership hfield hm
  · have hfield : P spec.field := hP fun hkind => by simp [hkind] at hrange
    rw [leaf_of_timestampRange hrange] at h
    rcases timestampRange_eq_ok h with ⟨-, rfl⟩ | ⟨fields, ts, -, hts, rfl⟩
    · exact nofun
    · exact forall_fields_join? (forall_fields_comparisons hfield hts)
  · rw [leaf_of_other hother] at h
    cases h
    exact nofun

theorem forall_fields_append {o : Option (Condition BindValue)} {cs : List (Condition BindValue)}
    (ho : ∀ c ∈ o, ∀ f ∈ c.fields, P f) (hcs : ∀ f ∈ Condition.fieldsAll cs, P f) :
    ∀ f ∈ Condition.fieldsAll (o.toList ++ cs), P f := by
  cases o with
  | none => exact hcs
  | some c =>
    rw [Option.toList_some, List.singleton_append, Condition.fieldsAll, List.forall_mem_append]
    exact ⟨ho c rfl, hcs⟩

variable {filters : FilterSet}
  (hP : ∀ name d, filters.find? name = some d → d.kind ≠ .passthrough → P d.field)
include hP

theorem Walk.forall_fields {fields : List (String × Json)} {cs : List (Condition BindValue)}
    (h : Walk filters fields cs) : ∀ f ∈ Condition.fieldsAll cs, P f := by
  induction h with
  | nil => exact nofun
  | nested hkey hinner hrest ihinner ihrest =>
    exact forall_fields_append (forall_fields_join? ihinner) ihrest
  | leaf hkey hd hleaf hrest ih =>
    exact forall_fields_append (forall_fields_leaf (hP _ _ hd) hleaf) ih
  | skipped hkey hd hrest ih => exact ih

/-- A body tests the fields of filters that may restrict. -/
theorem forall_fields_body {b : Body} {default : Combinator} {c : Condition BindValue}
    (h : body filters b default = .ok (some c)) : ∀ f ∈ c.fields, P f := by
  obtain ⟨fields, -, h⟩ := body_walk h
  rcases h with ⟨key, combinator, inner, cs, -, -, hwalk, hc⟩ | ⟨cs, hwalk, hc⟩
  · exact forall_fields_join? (hwalk.forall_fields hP) c hc.symm
  · exact forall_fields_join? (hwalk.forall_fields hP) c hc.symm

end

end Criteria.Outline
