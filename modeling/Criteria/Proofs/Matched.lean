import Criteria.Proofs.Related
import Criteria.Proofs.Simulation

/-!
# Bodies that match leaf by leaf

Two bodies match when they have the same names in the same order and their leaves are related. What
the compiler makes of a body depends on each leaf only by what the filter of its name makes of it: if
related leaves come to the same fragment and table, so do the bodies, whatever the filters are.
Errors may be told apart as far as one likes: they are compared by a function of them. Main
statements: `Compiler.compile_matched`, and `Compiler.compile_related` for the leaves of filters of
references, of which the elements count only by what they resolve to.
-/

namespace Criteria

/-- Two mappings have the same names, mappings that match in their turn below a combinator, and
related leaves below other names. Below a combinator may stand two values that are no mappings. -/
inductive Matched (related : String → Json → Json → Prop) :
    List (String × Json) → List (String × Json) → Prop
  | nil : Matched related [] []
  | nested {key : String} {combinator : Combinator}
      {fields fields' rest rest' : List (String × Json)}
      (hkey : Combinator.ofKey? key = some combinator) (hinner : Matched related fields fields')
      (hrest : Matched related rest rest') :
      Matched related ((key, .object fields) :: rest) ((key, .object fields') :: rest')
  | malformed {key : String} {combinator : Combinator} {value value' : Json}
      {rest rest' : List (String × Json)} (hkey : Combinator.ofKey? key = some combinator)
      (h : ∀ fields, value ≠ .object fields) (h' : ∀ fields, value' ≠ .object fields)
      (hrest : Matched related rest rest') :
      Matched related ((key, value) :: rest) ((key, value') :: rest')
  | leaf {key : String} {value value' : Json} {rest rest' : List (String × Json)}
      (hkey : Combinator.ofKey? key = none) (hvalue : related key value value')
      (hrest : Matched related rest rest') :
      Matched related ((key, value) :: rest) ((key, value') :: rest')

theorem Matched.keys_eq {related : String → Json → Json → Prop}
    {fields fields' : List (String × Json)} (h : Matched related fields fields') :
    Assoc.keys fields = Assoc.keys fields' := by
  induction h with
  | nil => rfl
  | nested _ _ _ _ ih => rw [Assoc.keys_cons, Assoc.keys_cons, ih]
  | malformed _ _ _ _ ih => rw [Assoc.keys_cons, Assoc.keys_cons, ih]
  | leaf _ _ _ ih => rw [Assoc.keys_cons, Assoc.keys_cons, ih]

/-! ### What shows of an outcome -/

section
variable {κ : Type} (kind : FilterError → κ)

/-- An outcome with its error told apart from others by a function only. -/
def Pass.observed {α : Type} (x : Except FilterError α × BindTable) : Except κ α × BindTable :=
  (x.1.mapError kind, x.2)

@[simp] theorem Pass.observed_ok {α : Type} (a : α) (table : BindTable) :
    observed kind (.ok a, table) = (.ok a, table) := rfl

@[simp] theorem Pass.observed_error {α : Type} (e : FilterError) (table : BindTable) :
    observed (α := α) kind (.error e, table) = (.error (kind e), table) := rfl

theorem Pass.observed_map {α β : Type} (f : α → β) (x : Except FilterError α × BindTable) :
    observed kind (x.1.map f, x.2) = ((observed kind x).1.map f, (observed kind x).2) := by
  match x with
  | (.ok a, table) => rfl
  | (.error e, table) => rfl

namespace Compile

open Pass (observed)

variable {kind} {filters : FilterSet} {depth : Nat}

theorem continued_observed
    {rest rest' : BindTable → Except FilterError (Option (List String)) × BindTable}
    (hrest : ∀ table, observed kind (rest table) = observed kind (rest' table))
    {first first' : Except FilterError Predicate × BindTable}
    (hfirst : observed kind first = observed kind first') :
    observed kind (continued rest first) = observed kind (continued rest' first') := by
  match first, first' with
  | (.error e, table), (.error e', table') => simpa [continued] using hfirst
  | (.error e, table), (.ok predicate, table') => simp at hfirst
  | (.ok predicate, table), (.error e, table') => simp at hfirst
  | (.ok predicate, table), (.ok predicate', table') =>
    obtain ⟨hpredicate, rfl⟩ := Prod.mk.inj hfirst
    cases hpredicate
    cases predicate with
    | sql text => simp only [continued, Pass.observed_map, hrest]
    | empty => exact hrest table
    | noMatch => rfl

theorem group_observed {fields fields' : List (String × Json)}
    (h : ∀ table, observed kind ((entries filters depth fields).outcome table) =
      observed kind ((entries filters depth fields').outcome table))
    (key : String) (combinator : Combinator) (table : BindTable) :
    observed kind ((group filters key combinator depth (.object fields)).outcome table) =
      observed kind ((group filters key combinator depth (.object fields')).outcome table) := by
  rcases Nat.lt_or_ge maxBodyDepth depth with hdeep | hdepth
  · rw [group_tooDeep hdeep, group_tooDeep hdeep]
  · rw [group_object_outcome hdepth, group_object_outcome hdepth, Pass.observed_map, h,
      Pass.observed_map]

theorem group_outcome_malformed {value value' : Json} (h : ∀ fields, value ≠ .object fields)
    (h' : ∀ fields, value' ≠ .object fields) (key : String) (combinator : Combinator)
    (table : BindTable) :
    (group filters key combinator depth value).outcome table =
      (group filters key combinator depth value').outcome table := by
  rcases Nat.lt_or_ge maxBodyDepth depth with hdeep | hdepth
  · rw [group_tooDeep hdeep, group_tooDeep hdeep]
  · rw [group_malformed hdepth h, group_malformed hdepth h']

variable {related : String → Json → Json → Prop}
  (hrelated : ∀ key value value', related key value value' → ∀ d, filters.find? key = some d →
    ∀ table, observed kind ((Clause.compile key d value).outcome table) =
      observed kind ((Clause.compile key d value').outcome table))
include hrelated

theorem entries_matched {fields fields' : List (String × Json)}
    (h : Matched related fields fields') (depth : Nat) (table : BindTable) :
    observed kind ((entries filters depth fields).outcome table) =
      observed kind ((entries filters depth fields').outcome table) := by
  induction h generalizing depth table with
  | nil => rfl
  | nested hkey _ _ ihinner ihrest =>
    rw [entries_cons_outcome, entries_cons_outcome, entry_of_combinator hkey,
      entry_of_combinator hkey]
    exact continued_observed (ihrest depth) (group_observed (ihinner _) _ _ _)
  | malformed hkey h h' _ ih =>
    rw [entries_cons_outcome, entries_cons_outcome, entry_of_combinator hkey,
      entry_of_combinator hkey, group_outcome_malformed h h']
    exact continued_observed (ih depth) rfl
  | @leaf key value value' _ _ hkey hvalue _ ih =>
    rw [entries_cons_outcome, entries_cons_outcome]
    apply continued_observed (ih depth)
    cases hd : filters.find? key with
    | none => rw [entry_of_skipped hkey hd, entry_of_skipped hkey hd]
    | some d =>
      rw [entry_of_filter hkey hd, entry_of_filter hkey hd]
      exact hrelated key value value' hvalue d hd table

theorem mapping_matched {fields fields' : List (String × Json)}
    (h : Matched related fields fields') (default : Combinator) (table : BindTable) :
    observed kind ((mapping filters default fields).outcome table) =
      observed kind ((mapping filters default fields').outcome table) := by
  by_cases hlone : IsLone fields
  · obtain ⟨key, value, combinator, rfl, hkey⟩ := hlone
    cases h with
    | nested _ hinner hrest =>
      cases hrest
      rw [mapping_of_lone hkey, mapping_of_lone hkey]
      exact group_observed (entries_matched hrelated hinner 1) key combinator table
    | malformed _ h h' hrest =>
      cases hrest
      rw [mapping_of_lone hkey, mapping_of_lone hkey, group_outcome_malformed h h']
    | leaf hleaf => cases hkey.symm.trans hleaf
  · have hlone' : ¬ IsLone fields' := by
      rwa [isLone_iff_keys, ← h.keys_eq, ← isLone_iff_keys]
    rw [mapping_of_not_lone hlone, mapping_of_not_lone hlone', Pass.observed_map,
      entries_matched hrelated h, Pass.observed_map]

end Compile
end

/-- Bodies that match compile alike where related leaves do: the same predicate comes out with the
same table, or errors that are told apart by nothing that shows. -/
theorem Compiler.compile_matched {κ : Type} {kind : FilterError → κ} {compiler : Compiler}
    {related : String → Json → Json → Prop}
    (hrelated : ∀ key value value', related key value value' →
      ∀ d, compiler.filters.find? key = some d → ∀ table,
        Pass.observed kind ((Clause.compile key d value).outcome table) =
          Pass.observed kind ((Clause.compile key d value').outcome table))
    {b b' : Body} {fields fields' : List (String × Json)} (hb : b.fields? = some fields)
    (hb' : b'.fields? = some fields') (h : Matched related fields fields')
    (default : Combinator) :
    (compiler.compile b default).result.mapError kind =
      (compiler.compile b' default).result.mapError kind := by
  have hbody := Compile.mapping_matched hrelated h default (.empty compiler.table.stem)
  rw [← Compile.body_of_fields hb, ← Compile.body_of_fields hb'] at hbody
  -- what is observed tells predicates from errors, so the results are of one kind
  match hfirst : (Compile.body compiler.filters b default).outcome (.empty compiler.table.stem),
    hsecond : (Compile.body compiler.filters b' default).outcome (.empty compiler.table.stem) with
  | (.ok predicate, table), (.ok predicate', table') =>
    rw [hfirst, hsecond] at hbody
    cases hbody
    rw [compile_of_outcome hfirst, compile_of_outcome hsecond]
  | (.error e, table), (.error e', table') =>
    rw [hfirst, hsecond] at hbody
    rw [compile_of_outcome hfirst, compile_of_outcome hsecond]
    exact congrArg Except.error (Except.error.inj (Prod.mk.inj hbody).1)
  | (.ok predicate, table), (.error e, table') =>
    rw [hfirst, hsecond] at hbody
    cases hbody
  | (.error e, table), (.ok predicate, table') =>
    rw [hfirst, hsecond] at hbody
    cases hbody

/-- The same where all of an error shows. -/
theorem Compiler.compile_matched_eq {compiler : Compiler} {related : String → Json → Json → Prop}
    (hrelated : ∀ key value value', related key value value' →
      ∀ d, compiler.filters.find? key = some d → ∀ table,
        (Clause.compile key d value).outcome table = (Clause.compile key d value').outcome table)
    {b b' : Body} {fields fields' : List (String × Json)} (hb : b.fields? = some fields)
    (hb' : b'.fields? = some fields') (h : Matched related fields fields')
    (default : Combinator) :
    (compiler.compile b default).result = (compiler.compile b' default).result := by
  have hobserved : ∀ key value value', related key value value' →
      ∀ d, compiler.filters.find? key = some d → ∀ table,
        Pass.observed id ((Clause.compile key d value).outcome table) =
          Pass.observed id ((Clause.compile key d value').outcome table) := by
    intro key value value' hvalue d hd table
    rw [hrelated key value value' hvalue d hd table]
  have hcompile := compile_matched hobserved hb hb' h default
  rwa [Except.mapError_id, Except.mapError_id] at hcompile

/-! ### Filters of references -/

/-- A leaf of a body that stays as it is, or the value of a filter of references and one with related
elements in its lists. -/
inductive Reference.LeafRel (r : Json → Json → Prop) (filters : FilterSet) (key : String) :
    Json → Json → Prop
  | same (v : Json) : LeafRel r filters key v v
  | value {v w : Json} {d : Descriptor} (hd : filters.find? key = some d)
      (hkind : d.kind = .reference ∨ d.kind = .polymorphicReference) (h : ValueRel r v w) :
      LeafRel r filters key v w

section
variable {r : Json → Json → Prop} (hr : Reference.ReadAlike r)
include hr

theorem Clause.compile_related {filters : FilterSet} {key : String} {v w : Json}
    (h : Reference.LeafRel r filters key v w) {d : Descriptor} (hd : filters.find? key = some d)
    (table : BindTable) :
    (compile key d v).outcome table = (compile key d w).outcome table := by
  cases h with
  | same => rfl
  | value hd' hkind h =>
    cases hd.symm.trans hd'
    have hset : d.IsSet := hkind.imp id Or.inl
    rw [compile_outcome_of_isSet hset, compile_outcome_of_isSet hset,
      Outline.sets_related hr hkind key h]

/-- Bodies compile alike that differ in elements of lists of references which resolve to the same. -/
theorem Compiler.compile_related {compiler : Compiler} {b b' : Body}
    {fields fields' : List (String × Json)} (hb : b.fields? = some fields)
    (hb' : b'.fields? = some fields')
    (h : Matched (Reference.LeafRel r compiler.filters) fields fields') (default : Combinator) :
    (compiler.compile b default).result = (compiler.compile b' default).result :=
  compile_matched_eq (fun _ _ _ hvw _ hd => Clause.compile_related hr hvw hd) hb hb' h default

end

end Criteria
