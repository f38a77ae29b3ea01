import Criteria.Proofs.Equality
import Criteria.Proofs.FirstStop
import Criteria.Proofs.Walk
import Mathlib.Data.List.Basic
import Mathlib.Data.List.Induction

/-!
# The algebra of set criteria

Two lists amount to one test, which holds the first of all equal elements and is empty only where it
says so itself. Neither repetitions nor, among unwanted elements, the order make a difference. What
a set filter binds is therefore a list with elements, no two of them equal, and so are all lists that
a pass leaves in its table. Main statement: `Membership.laws`, and from it
`Compiler.sets_without_repetitions`.
-/

namespace Criteria

/-! ### First occurrences -/

/-- The elements that pass a test and have no equal one in front of them, in their order. -/
def firstOccurrences {α : Type} [BEq α] (p : α → Bool) (xs : List α) : List α :=
  (xs.zipIdx.filter fun (x, i) => p x && !(xs.take i).contains x).map Prod.fst

/-- A list has elements, and no two of them are equal. -/
structure IsListing {α : Type} [BEq α] (xs : List α) : Prop where
  ne_nil : xs ≠ []
  pairwise : xs.Pairwise fun x y => (x == y) = false

section
variable {α : Type} [BEq α]

theorem firstOccurrences_concat (p : α → Bool) (xs : List α) (a : α) :
    firstOccurrences p (xs ++ [a]) =
      firstOccurrences p xs ++ if p a && !xs.contains a then [a] else [] := by
  have hfront : (xs.zipIdx.filter fun (x, i) => p x && !((xs ++ [a]).take i).contains x) =
      xs.zipIdx.filter fun (x, i) => p x && !(xs.take i).contains x := by
    refine List.filter_congr fun (x, i) h => ?_
    have hi : i ≤ xs.length := Nat.le_of_lt (by simpa using List.snd_lt_of_mem_zipIdx h)
    dsimp only
    rw [List.take_append_of_le_length hi]
  rw [firstOccurrences, List.zipIdx_append, List.filter_append, hfront, List.map_append]
  congr 1
  simp only [List.zipIdx_singleton, Nat.zero_add, List.filter_cons, List.filter_nil,
    List.take_left]
  split <;> rfl

/-- Removing repetitions leaves the first of all equal elements. -/
theorem filter_dedup [EquivBEq α] (p : α → Bool) (xs : List α) :
    (dedup xs).filter p = firstOccurrences p xs := by
  induction xs using List.reverseRecOn with
  | nil => rfl
  | append_singleton xs a ih =>
    rw [dedup_concat, firstOccurrences_concat, ← ih]
    cases hxs : xs.contains a with
    | true => simp
    | false => cases hp : p a <;> simp [hp]

theorem dedup_comp_dedup : (dedup ∘ dedup : List α → List α) = dedup :=
  funext fun xs => dedup_of_pairwise (pairwise_dedup xs)

theorem contains_eq_of_subset {us us' : List α} (h : us' ⊆ us) (h' : us ⊆ us') (a : α) :
    us'.contains a = us.contains a := by
  rw [Bool.eq_iff_iff, List.contains_iff_exists_mem_beq, List.contains_iff_exists_mem_beq]
  exact ⟨fun ⟨b, hb, hab⟩ => ⟨b, h hb, hab⟩, fun ⟨b, hb, hab⟩ => ⟨b, h' hb, hab⟩⟩

section
variable [EquivBEq α] {p : α → Bool}

/-- Of elements that pass a test together with all equal ones, the first occurrences lose none. -/
theorem contains_firstOccurrences (hp : ∀ x y, x == y → p x = p y) (xs : List α) (a : α) :
    (firstOccurrences p xs).contains a = (xs.contains a && p a) := by
  rw [← filter_dedup, contains_filter hp, contains_dedup]

theorem firstOccurrences_eq_nil (hp : ∀ x y, x == y → p x = p y) (xs : List α) :
    firstOccurrences p xs = [] ↔ ∀ a ∈ xs, p a = false := by
  constructor
  · intro h a ha
    have hcontains := contains_firstOccurrences hp xs a
    have hxs : xs.contains a = true := List.contains_iff_exists_mem_beq.2 ⟨a, ha, BEq.rfl⟩
    rw [h, hxs, Bool.true_and] at hcontains
    exact hcontains.symm
  · intro h
    rw [← filter_dedup, List.filter_eq_nil_iff]
    intro a ha
    rw [h a ((dedup_sublist xs).subset ha)]
    exact Bool.false_ne_true

theorem isListing_firstOccurrences {xs : List α} (h : firstOccurrences p xs ≠ []) :
    IsListing (firstOccurrences p xs) := by
  refine ⟨h, ?_⟩
  rw [← filter_dedup]
  exact (pairwise_dedup xs).filter _

theorem firstOccurrences_true_ne_nil {xs : List α} (h : xs ≠ []) :
    firstOccurrences (fun _ => true) xs ≠ [] := by
  intro hnil
  obtain ⟨x, hx⟩ := List.exists_mem_of_ne_nil xs h
  exact Bool.noConfusion ((firstOccurrences_eq_nil (fun _ _ _ => rfl) xs).1 hnil x hx)

/-- Equal elements are missing together. -/
theorem notContains_congr (us : List α) (x y : α) (h : x == y) :
    (!us.contains x) = !us.contains y := by
  rw [List.contains_congr h]

end

end

namespace Membership

variable {α : Type} [BEq α]

section
variable [EquivBEq α]

theorem ofLists_some_some (ws us : List α) :
    ofLists (some ws) (some us) =
      if firstOccurrences (fun a => !us.contains a) ws = [] then .impossible
      else .within (firstOccurrences (fun a => !us.contains a) ws) := by
  -- what is left of a difference was the first of its kind
  have hdifference : difference (dedup ws) (dedup us) =
      firstOccurrences (fun a => !us.contains a) ws := by
    rw [← filter_dedup, difference]
    simp only [contains_dedup]
  simp only [ofLists_only_except, hdifference, List.isEmpty_iff]

theorem ofLists_some_none (ws : List α) :
    ofLists (some ws) none =
      if ws = [] then .unrestricted else .within (firstOccurrences (fun _ => true) ws) := by
  simp only [ofLists_only, ← filter_dedup, List.filter_true, List.isEmpty_iff]

theorem ofLists_none_some (us : List α) :
    ofLists none (some us) =
      if us = [] then .unrestricted else .without (firstOccurrences (fun _ => true) us) := by
  simp only [ofLists_except, ← filter_dedup, List.filter_true, List.isEmpty_iff]

/-! ### The four tests -/

variable {only except : Option (List α)} {xs : List α}

theorem ofLists_eq_within (h : ofLists only except = .within xs) :
    ∃ ws, only = some ws ∧ IsListing xs ∧
      (∀ a, xs.contains a = (ws.contains a && !(except.getD []).contains a)) ∧
      xs = firstOccurrences (fun a => !(except.getD []).contains a) ws := by
  -- wanted elements are needed, and may be all or those that are left
  cases only with
  | none =>
    cases except with
    | none => cases h
    | some us =>
      rw [ofLists_none_some] at h
      split at h <;> cases h
  | some ws =>
    cases except with
    | none =>
      rw [ofLists_some_none] at h
      split at h
      · cases h
      · next hws =>
        cases h
        exact ⟨ws, rfl, isListing_firstOccurrences (firstOccurrences_true_ne_nil hws),
          contains_firstOccurrences (fun _ _ _ => rfl) ws, rfl⟩
    | some us =>
      rw [ofLists_some_some] at h
      split at h
      · cases h
      · next hne =>
        cases h
        exact ⟨ws, rfl, isListing_firstOccurrences hne,
          contains_firstOccurrences (notContains_congr us) ws, rfl⟩

theorem ofLists_eq_without (h : ofLists only except = .without xs) :
    only = none ∧ ∃ us, except = some us ∧ IsListing xs ∧
      xs = firstOccurrences (fun _ => true) us := by
  cases only with
  | none =>
    cases except with
    | none => cases h
    | some us =>
      rw [ofLists_none_some] at h
      split at h
      · cases h
      · next hus =>
        cases h
        exact ⟨rfl, us, rfl, isListing_firstOccurrences (firstOccurrences_true_ne_nil hus), rfl⟩
  | some ws =>
    cases except with
    | none =>
      rw [ofLists_some_none] at h
      split at h <;> cases h
    | some us =>
      rw [ofLists_some_some] at h
      split at h <;> cases h

theorem ofLists_eq_impossible : ofLists only except = .impossible ↔
    ∃ ws us, only = some ws ∧ except = some us ∧ ∀ a ∈ ws, us.contains a = true := by
  cases only with
  | none =>
    cases except with
    | none => simp [ofLists, ofDistinct]
    | some us =>
      rw [ofLists_none_some]
      split <;> simp
  | some ws =>
    cases except with
    | none =>
      rw [ofLists_some_none]
      split <;> simp
    | some us =>
      have hnil := firstOccurrences_eq_nil (notContains_congr us) ws
      simp only [Bool.not_eq_false'] at hnil
      rw [ofLists_some_some]
      split
      · next h => exact iff_of_true rfl ⟨ws, us, rfl, rfl, hnil.1 h⟩
      · next h =>
        refine iff_of_false (by simp) ?_
        rintro ⟨_, _, ⟨⟩, ⟨⟩, hall⟩
        exact h (hnil.2 hall)

theorem ofLists_eq_unrestricted : ofLists only except = .unrestricted ↔
    (only = none ∧ (except = none ∨ except = some [])) ∨ (only = some [] ∧ except = none) := by
  cases only with
  | none =>
    cases except with
    | none => simp [ofLists, ofDistinct]
    | some us =>
      rw [ofLists_none_some]
      split <;> simp_all
  | some ws =>
    cases except with
    | none =>
      rw [ofLists_some_none]
      split <;> simp_all
    | some us =>
      rw [ofLists_some_some]
      split <;> simp

end

/-- What the test of a list of wanted elements and one of unwanted ones has to do with them. -/
structure Laws (only except : Option (List α)) : Prop where
  /-- The test for wanted elements holds those that are not unwanted, each at its first place. -/
  within : ∀ xs, ofLists only except = .within xs → ∃ ws, only = some ws ∧ IsListing xs ∧
    (∀ a, xs.contains a = (ws.contains a && !(except.getD []).contains a)) ∧
    xs = firstOccurrences (fun a => !(except.getD []).contains a) ws
  /-- Only without wanted elements there is a test for unwanted ones, each at its first place. -/
  without : ∀ xs, ofLists only except = .without xs → only = none ∧ ∃ us, except = some us ∧
    IsListing xs ∧ xs = firstOccurrences (fun _ => true) us
  impossible_iff : ofLists only except = .impossible ↔
    ∃ ws us, only = some ws ∧ except = some us ∧ ∀ a ∈ ws, us.contains a = true
  unrestricted_iff : ofLists only except = .unrestricted ↔
    (only = none ∧ (except = none ∨ except = some [])) ∨ (only = some [] ∧ except = none)
  dedup_only : ofLists (only.map dedup) except = ofLists only except
  dedup_except : ofLists only (except.map dedup) = ofLists only except
  /-- Next to wanted elements, order and repetitions of unwanted ones are free. -/
  except_free : ∀ ws us us', only = some ws → except = some us → us' ⊆ us → us ⊆ us' →
    ofLists only (some us') = ofLists only except

theorem laws [EquivBEq α] (only except : Option (List α)) : Laws only except where
  within _ h := ofLists_eq_within h
  without _ h := ofLists_eq_without h
  impossible_iff := ofLists_eq_impossible
  unrestricted_iff := ofLists_eq_unrestricted
  dedup_only := by rw [ofLists, ofLists, Option.map_map, dedup_comp_dedup]
  dedup_except := by rw [ofLists, ofLists, Option.map_map, dedup_comp_dedup]
  except_free := by
    rintro ws us us' rfl rfl hsub hsub'
    rw [ofLists_some_some, ofLists_some_some]
    simp only [contains_eq_of_subset hsub hsub']

end Membership

/-! ### What set filters bind -/

namespace Outline

/-- The values of an outline, those in front of a stop included. -/
def bound : Except Stopped (Option (Condition BindValue)) → List BindValue
  | .ok none => []
  | .ok (some c) => c.values
  | .error s => s.bound

theorem settled_table (table : BindTable) (o : Except Stopped (Option (Condition BindValue))) :
    (settled table o).2 = table.pushAll (bound o) := by
  rcases o with s | _ | c
  · rfl
  · exact (table.pushAll_nil).symm
  · rfl

theorem bound_comparison {filter field : String} {op : Comparison} {operand : Json}
    {t : Test BindValue} (h : comparison filter field op operand = .ok t) :
    ∀ v ∈ t.values, ∃ instant, v = .timestamp instant := by
  rcases comparison_eq_ok h with ⟨r, bound, -, -, rfl⟩ | ⟨negated, low, high, -, -, rfl⟩
  · simp [Test.values]
  · simp [Test.values]

/-- Comparisons bind instants, also where one of them fails. -/
theorem bound_comparisons (filter field : String) (fields : List (String × Json)) :
    (∀ ts, comparisons filter field fields = .ok ts →
      ∀ v ∈ ts.flatMap Test.values, ∃ instant, v = .timestamp instant) ∧
    ∀ e bound, comparisons filter field fields = .error (e, bound) →
      ∀ v ∈ bound, ∃ instant, v = .timestamp instant := by
  -- what a failing comparison leaves is what those before it bound
  induction fields with
  | nil =>
    refine ⟨fun ts h => ?_, fun e bound h => ?_⟩
    · cases h
      simp
    · cases h
  | cons entry rest ih =>
    obtain ⟨key, operand⟩ := entry
    refine ⟨fun ts h => ?_, fun e bound h => ?_⟩
    · obtain ⟨op, t, us, -, ht, hus, rfl⟩ := comparisons_cons_eq_ok h
      rw [List.flatMap_cons, List.forall_mem_append]
      exact ⟨bound_comparison ht, ih.1 us hus⟩
    · rw [comparisons] at h
      split at h
      · cases h
        simp
      · split at h
        · cases h
          simp
        · next t ht =>
          split at h
          · cases h
          · next more hmore =>
            cases h
            rw [List.forall_mem_append]
            exact ⟨bound_comparison ht, ih.2 _ more hmore⟩

theorem bound_sets (filter : String) (spec : FilterSpec) (value : Json) :
    (∃ result, (∀ text, result ≠ .ok (.sql text)) ∧
      ∀ table, settled table (sets filter spec value) = (result, table)) ∨
    ∃ (negated : Bool) (xs : List BindValue), IsListing xs ∧
      sets filter spec value =
        .ok (some (.group .all (.test (.membership spec.field negated (.list xs))) [])) := by
  unfold sets
  split
  · next body _ =>
    rw [FilterSpec.membership]
    generalize body.only.map (spec.elements .only) = only
    generalize body.except.map (spec.elements .except) = except
    cases hm : Membership.ofLists only except with
    | within xs =>
      obtain ⟨-, -, hxs, -⟩ := Membership.ofLists_eq_within hm
      exact Or.inr ⟨false, xs, hxs, rfl⟩
    | without xs =>
      obtain ⟨-, -, -, hxs, -⟩ := Membership.ofLists_eq_without hm
      exact Or.inr ⟨true, xs, hxs, rfl⟩
    | unrestricted => exact Or.inl ⟨.ok .empty, by simp, fun _ => rfl⟩
    | impossible =>
      exact Or.inl ⟨.ok .noMatch, by simp, fun table => congrArg _ table.pushAll_nil⟩
  · next e _ => exact Or.inl ⟨.error e, by simp, fun table => congrArg _ table.pushAll_nil⟩

/-- A filter binds instants and lists without repetitions. -/
theorem bound_leaf (filter : String) (spec : FilterSpec) (value : Json) :
    ∀ v ∈ bound (leaf filter spec value),
      (∃ instant, v = .timestamp instant) ∨ ∃ xs, v = .list xs ∧ IsListing xs := by
  rcases spec.kind_cases with hset | hrange | hother
  · rw [leaf_of_isSet hset]
    rcases bound_sets filter spec value with ⟨result, -, hsettled⟩ | ⟨negated, xs, hxs, hsets⟩
    · -- the table stays what it was, so nothing was bound
      have hnil : bound (sets filter spec value) = [] := by
        have htable := congrArg Prod.snd (hsettled (.empty ""))
        rw [settled_table] at htable
        exact List.length_eq_zero_iff.1 (by simpa using congrArg BindTable.size htable)
      rw [hnil]
      exact nofun
    · rw [hsets]
      intro v hv
      exact Or.inr ⟨xs, List.mem_singleton.1 hv, hxs⟩
  · rw [leaf_of_timestampRange hrange]
    unfold timestampRange
    split
    · exact nofun
    · next fields =>
      obtain ⟨hok, herror⟩ := bound_comparisons filter spec.field fields
      split
      · next ts hts =>
        intro v hv
        refine Or.inl (hok ts hts v ?_)
        rw [← valuesAll_tests]
        cases ts with
        | nil => exact hv
        | cons t ts => exact hv
      · next e more hmore => exact fun v hv => Or.inl (herror e more hmore v hv)
    · exact nofun
  · rw [leaf_of_other hother]
    exact nofun

end Outline

namespace Clause

/-- A set filter binds one list without repetitions behind its placeholder, or nothing. -/
theorem compile_sets {d : Descriptor} (hset : d.toFilterSpec.IsSet) (filter : String) (value : Json)
    (table : BindTable) :
    (∃ result, (∀ text, result ≠ .ok (.sql text)) ∧
      (compile filter d value).outcome table = (result, table)) ∨
    ∃ (negated : Bool) (xs : List BindValue), IsListing xs ∧
      (compile filter d value).outcome table =
        (.ok (.sql (Predicate.parenthesized
          (d.field ++ (if negated then " NOT IN (" else " IN (") ++ (":" ++ table.nextName) ++
            ")"))), table.push (.list xs)) := by
  rw [compile_outcome_of_isSet hset]
  rcases Outline.bound_sets filter d.toFilterSpec value with
    ⟨result, hresult, hsettled⟩ | ⟨negated, xs, hxs, hsets⟩
  · exact Or.inl ⟨result, hresult, hsettled table⟩
  · refine Or.inr ⟨negated, xs, hxs, ?_⟩
    rw [hsets, BindTable.push_eq_pushAll]
    rfl

/-- A custom filter leaves the table that its generator leaves. -/
theorem compile_custom_table {d : Descriptor} (hkind : d.kind = .custom) (filter : String)
    (value : Json) (table : BindTable) :
    ((compile filter d value).outcome table).2 =
      match d.generator with
      | none => table
      | some generator =>
        if value.isNull then table
        else ((generator filter d.toFilterSpec value).outcome table).2 := by
  rw [compile_outcome_custom hkind, custom]
  cases d.generator with
  | none => rfl
  | some generator =>
    dsimp only
    split
    · rfl
    · rw [Pass.outcome_bind]
      rcases (generator filter d.toFilterSpec value).outcome table with ⟨_ | _, table'⟩ <;> rfl

end Clause

/-! ### What a pass binds -/

/-- The generators of custom filters bind only values with a property. -/
def FilterSet.BindOnly (P : BindValue → Prop) (filters : FilterSet) : Prop :=
  ∀ name d generator, filters.find? name = some d → d.kind = .custom →
    d.generator = some generator → ∀ filter spec value table own,
      ((generator filter spec value).outcome table).2 = table.pushAll own → ∀ v ∈ own, P v

/-- A value is an instant, a list without repetitions, or has a property. -/
def BindValue.IsPlain (P : BindValue → Prop) (v : BindValue) : Prop :=
  (∃ instant, v = .timestamp instant) ∨ (∃ xs, v = .list xs ∧ IsListing xs) ∨ P v

theorem BindTable.pushAll_injective {table : BindTable} {xs ys : List BindValue}
    (h : table.pushAll xs = table.pushAll ys) : xs = ys := by
  have hvalues := congrArg (fun t : BindTable => t.values.toList) h
  simpa [pushAll] using hvalues

section
variable {P : BindValue → Prop} {filters : FilterSet}

/-- What a visit binds itself is plain, or comes from a generator. -/
theorem Visit.isPlain_of_mem (hfilters : filters.BindOnly P) {depth : Nat}
    {fields : List (String × Json)} {v : Visit} (hv : v ∈ entries filters depth fields)
    {table : BindTable} {own : List BindValue}
    (hown : (v.pass.outcome table).2 = table.pushAll own) : ∀ x ∈ own, x.IsPlain P := by
  have hnone (h : table = table.pushAll own) : ∀ x ∈ own, x.IsPlain P := by
    rw [← BindTable.pushAll_injective ((table.pushAll_nil).trans h)]
    exact nofun
  cases v with
  | fault f => exact hnone hown
  | leaf name d value =>
    rw [pass] at hown
    by_cases hkind : d.kind = .custom
    · rw [Clause.compile_custom_table hkind] at hown
      split at hown
      · exact hnone hown
      · next generator hgenerator =>
        split at hown
        · exact hnone hown
        · intro x hx
          exact Or.inr (Or.inr (hfilters name d generator (find?_of_mem_entries hv) hkind hgenerator
            name d.toFilterSpec value table own hown x hx))
    · rw [Clause.compile_outcome hkind, Outline.settled_table] at hown
      rw [← BindTable.pushAll_injective hown]
      exact fun x hx => (Outline.bound_leaf name d.toFilterSpec value x hx).imp_right Or.inl

theorem Visit.Passed.isPlain {visits : List Visit}
    (hvisits : ∀ v ∈ visits, ∀ table own, (v.pass.outcome table).2 = table.pushAll own →
      ∀ x ∈ own, x.IsPlain P) {table : BindTable} {ps : List Predicate} {bound : List BindValue}
    (h : Passed table visits ps bound) : ∀ x ∈ bound, x.IsPlain P := by
  induction h with
  | nil => exact nofun
  | cons hv _ _ ih =>
    obtain ⟨hfirst, hrest⟩ := List.forall_mem_cons.1 hvisits
    rw [List.forall_mem_append]
    exact ⟨hfirst _ _ (congrArg Prod.snd hv), ih hrest⟩

/-- All values that a pass leaves are plain, or come from generators, however the pass ends. -/
theorem Compiler.isPlain_of_bound {compiler : Compiler}
    (hfilters : compiler.filters.OnlyAllocate) (hbind : compiler.filters.BindOnly P) (b : Body)
    (default : Combinator) :
    ∃ result values, (∀ v ∈ values, v.IsPlain P) ∧
      compiler.Gives b default result ((BindTable.empty compiler.table.stem).pushAll values) := by
  cases hfields : b.fields? with
  | none =>
    refine ⟨.error (.invalidBody .notMapping), [], nofun, ?_⟩
    rw [BindTable.pushAll_nil]
    exact gives_of_outcome (Compile.body_of_no_fields hfields _ _ _)
  | some fields =>
    have hplain : ∀ v ∈ Visit.ofMapping compiler.filters fields, ∀ table own,
        (v.pass.outcome table).2 = table.pushAll own → ∀ x ∈ own, x.IsPlain P :=
      fun v hv table own hown => Visit.isPlain_of_mem hbind hv hown
    have honly : ∀ v ∈ Visit.ofMapping compiler.filters fields, v.pass.OnlyAllocates :=
      fun v hv => Visit.onlyAllocates_of_mem hfilters hv
    -- up to its first stop, or to its end, the walk binds what its visits bind
    rcases Visit.stops_or_passed honly (.empty compiler.table.stem) with
      ⟨⟨f⟩⟩ | ⟨ps, bound, hpassed⟩
    · rw [f.split, List.forall_mem_append, List.forall_mem_cons] at hplain
      refine ⟨_, f.bound ++ f.own, ?_, gives_of_firstStop f hfields f.split default⟩
      rw [List.forall_mem_append]
      exact ⟨f.passed.isPlain hplain.1, hplain.2.1 _ _ (congrArg Prod.snd f.stops)⟩
    · obtain ⟨predicate, hgives, -⟩ := gives_of_passed hfields hpassed default
      exact ⟨_, bound, hpassed.isPlain hplain, hgives⟩

end

/-- Set criteria hold no repetitions. For every type with an equality, the lists of a criterion
amount to a test by the laws of `Membership.Laws`; a set filter binds one list without repetitions
for it, or nothing; and every list that compiling or generating leaves in a table is one without
repetitions, unless the generator of a custom filter bound it. -/
theorem Compiler.sets_without_repetitions :
    (∀ (α : Type) [BEq α] [EquivBEq α] (only except : Option (List α)),
      Membership.Laws only except) ∧
    (∀ d : Descriptor, d.toFilterSpec.IsSet → ∀ (filter : String) (value : Json)
        (table : BindTable),
      (∃ result, (∀ text, result ≠ .ok (.sql text)) ∧
        (Clause.compile filter d value).outcome table = (result, table)) ∨
      ∃ (negated : Bool) (xs : List BindValue), IsListing xs ∧
        (Clause.compile filter d value).outcome table =
          (.ok (.sql (Predicate.parenthesized
            (d.field ++ (if negated then " NOT IN (" else " IN (") ++ (":" ++ table.nextName) ++
              ")"))), table.push (.list xs))) ∧
    ∀ (compiler : Compiler) (P : BindValue → Prop), compiler.filters.OnlyAllocate →
      compiler.filters.BindOnly P → ∀ (b : Body) (default : Combinator),
        (∀ xs, .list xs ∈ (compiler.generate b default).2.table.values →
          IsListing xs ∨ P (.list xs)) ∧
        ∀ predicate table, (compiler.compile b default).result = .ok (predicate, table) →
          ∀ xs, .list xs ∈ table.values → IsListing xs ∨ P (.list xs) := by
  refine ⟨fun α _ _ only except => Membership.laws only except,
    fun d hset filter value table => Clause.compile_sets hset filter value table, ?_⟩
  intro compiler P hfilters hbind b default
  obtain ⟨result, values, hvalues, hgives⟩ := isPlain_of_bound hfilters hbind b default
  -- lists are bound by set filters or by generators, never by comparisons
  have hlists (xs : List BindValue)
      (h : .list xs ∈ ((BindTable.empty compiler.table.stem).pushAll values).values) :
      IsListing xs ∨ P (.list xs) := by
    rcases hvalues (.list xs) (by simpa [BindTable.pushAll, BindTable.empty] using h) with
      ⟨instant, ⟨⟩⟩ | ⟨_, ⟨⟩, hxs⟩ | hP
    · exact Or.inl hxs
    · exact Or.inr hP
  refine ⟨?_, ?_⟩
  · rw [hgives.stored]
    exact hlists
  · intro predicate table h
    rw [hgives.compile] at h
    cases result with
    | error e => cases h
    | ok p =>
      cases h
      exact hlists

/-! ### Two zeros are one element -/

/-- The number zero, with a sign. -/
def Json.zero (negative : Bool) : Json :=
  .number (.double (.zero negative))

/-- Subjects of which some are named twice, and some are unwanted. -/
def SetBody.repetitive : List (String × Json) :=
  [("only", .array [.zero false, .string "go", .zero true, .string "go"]),
    ("except", .array [.string "go", .string "go"])]

theorem Compiler.sets_without_repetitions_zero :
    ((ofFilters .posts).generate (.object [("tag", .object SetBody.repetitive)]) .all).2.table =
      ⟨"p", #[.list [.json (.zero false)]]⟩ ∧
    IsListing [BindValue.json (.zero false)] ∧
    Membership.Laws (some [BindValue.json (.zero false), .json (.zero true)]) none ∧
    ∃ (negated : Bool) (xs : List BindValue), IsListing xs ∧
      (Clause.compile "tag" (.ofKind .mappedList "posts.tag")
          (.object SetBody.repetitive)).outcome (.empty "p") =
        (.ok (.sql (Predicate.parenthesized
          ("posts.tag" ++ (if negated then " NOT IN (" else " IN (") ++
            (":" ++ (BindTable.empty "p").nextName) ++ ")"))),
          (BindTable.empty "p").push (.list xs)) := by
  obtain ⟨hlaws, hleaf, hbound⟩ := sets_without_repetitions
  have htable : ((ofFilters .posts).generate (.object [("tag", .object SetBody.repetitive)])
      .all).2.table = ⟨"p", #[.list [.json (.zero false)]]⟩ := by
    decide +kernel
  have hclause : ((Clause.compile "tag" (.ofKind .mappedList "posts.tag")
      (.object SetBody.repetitive)).outcome (.empty "p")).1 =
        .ok (.sql "(posts.tag IN (:p1))") := by
    decide +kernel
  have honly : FilterSet.posts.BindOnly fun _ => False :=
    fun name d _ hd hkind => absurd hkind (FilterSet.posts_noCustom name d hd)
  refine ⟨htable, ?_, hlaws BindValue _ _, ?_⟩
  · have hlists := (hbound (ofFilters .posts) _ FilterSet.posts_onlyAllocate honly
      (.object [("tag", .object SetBody.repetitive)]) .all).1
    rw [htable] at hlists
    exact (hlists _ (by simp)).resolve_right id
  · refine (hleaf (.ofKind .mappedList "posts.tag") (Or.inr (Or.inr rfl)) "tag"
      (.object SetBody.repetitive) (.empty "p")).resolve_left ?_
    rintro ⟨result, hresult, houtcome⟩
    rw [houtcome] at hclause
    exact hresult _ hclause

end Criteria
