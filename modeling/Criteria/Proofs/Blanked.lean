import Criteria.Proofs.Adjusted
import Criteria.Proofs.Simulation

/-!
# Blanked filters

A filter asks nothing of a leaf that is `null`, whatever its kind is: it binds nothing, raises no
error and ends no walk. So a body whose leaves of some names have been blanked compiles as the body
itself does without the filters of these names. Main statement: `Compiler.compile_blanked`.
-/

namespace Criteria

/-! ### Sets of filters without some names -/

namespace FilterSet

/-- The filters whose names are not among the given ones. -/
def without (filters : FilterSet) (names : String → Prop) [DecidablePred names] : FilterSet where
  entries := filters.entries.filter fun entry => ¬ names entry.1
  nodup := filters.nodup.sublist (List.filter_sublist.map Prod.fst)

/-- Every custom filter has a generator. -/
def HaveGenerators (filters : FilterSet) : Prop :=
  ∀ name d, filters.find? name = some d → d.kind = .custom → d.generator.isSome

variable (filters : FilterSet) {names : String → Prop} [DecidablePred names]

theorem find?_without (name : String) :
    (filters.without names).find? name = if names name then none else filters.find? name :=
  Assoc.find?_filter names name filters.entries

end FilterSet

/-! ### Leaves that are replaced -/

/-- A mapping and the same with other leaves, each in a relation to the one in its place. -/
inductive Replaced (related : String → Json → Json → Prop) :
    List (String × Json) → List (String × Json) → Prop
  | nil : Replaced related [] []
  | nested {key : String} {combinator : Combinator} {fields fields' rest rest' : List (String × Json)}
      (hkey : Combinator.ofKey? key = some combinator) (hinner : Replaced related fields fields')
      (hrest : Replaced related rest rest') :
      Replaced related ((key, .object fields) :: rest) ((key, .object fields') :: rest')
  | leaf {key : String} {value value' : Json} {rest rest' : List (String × Json)}
      (hkey : Combinator.ofKey? key = none) (hvalue : related key value value')
      (hrest : Replaced related rest rest') :
      Replaced related ((key, value) :: rest) ((key, value') :: rest')

theorem Adjust.Adjusts.replaced {transform : Adjust.Transform} {fields fields' : List (String × Json)}
    (h : Adjusts transform fields fields') {related : String → Json → Json → Prop}
    (hrelated : ∀ name value value', transform name value = .ok value' →
      related name value value') : Replaced related fields fields' := by
  induction h with
  | nil => exact .nil
  | nested hkey _ _ ihinner ihrest => exact .nested hkey ihinner ihrest
  | leaf hkey hvalue _ ih => exact .leaf hkey (hrelated _ _ _ hvalue) ih

theorem Replaced.isLone_iff {related : String → Json → Json → Prop}
    {fields fields' : List (String × Json)} (h : Replaced related fields fields') :
    IsLone fields' ↔ IsLone fields := by
  have hlone (key : String) (value value' : Json) (rest rest' : List (String × Json))
      (hrest : rest = [] ↔ rest' = []) :
      IsLone ((key, value') :: rest') ↔ IsLone ((key, value) :: rest) := by
    constructor
    · rintro ⟨_, _, combinator, heq, hkey⟩
      cases heq
      exact ⟨key, value, combinator, by rw [hrest.2 rfl], hkey⟩
    · rintro ⟨_, _, combinator, heq, hkey⟩
      cases heq
      exact ⟨key, value', combinator, by rw [hrest.1 rfl], hkey⟩
  have hnil {rest rest' : List (String × Json)} (hrest : Replaced related rest rest') :
      rest = [] ↔ rest' = [] := by
    cases hrest <;> simp
  cases h with
  | nil => exact Iff.rfl
  | nested _ _ hrest => exact hlone _ _ _ _ _ (hnil hrest)
  | leaf _ _ hrest => exact hlone _ _ _ _ _ (hnil hrest)

/-- Leaves of the given names become `null` and those of other filters stay. Whatever stands in the
place of a leaf without a filter, nothing is asked of it. -/
def Blanks (filters : FilterSet) (names : String → Prop) (name : String) (value value' : Json) :
    Prop :=
  (filters.find? name).isSome → (names name → value' = .null) ∧ (¬ names name → value' = value)

/-! ### Walks over blanked bodies -/

/-- A filter asks nothing of `null`. -/
theorem Clause.compile_null {d : Descriptor} (hd : d.kind = .custom → d.generator.isSome)
    (filter : String) (table : BindTable) :
    (compile filter d .null).outcome table = (.ok .empty, table) := by
  by_cases hkind : d.kind = .custom
  · obtain ⟨generator, hgenerator⟩ := Option.isSome_iff_exists.1 (hd hkind)
    rw [compile_outcome_custom hkind]
    simp only [custom, hgenerator]
    rfl
  · have hleaf : Outline.leaf filter d.toFilterSpec .null = .ok none := by
      rcases d.kind_cases with hset | hrange | hother
      · rw [Outline.leaf_of_isSet hset]
        rfl
      · rw [Outline.leaf_of_timestampRange hrange]
        rfl
      · rw [Outline.leaf_of_other hother]
    rw [compile_outcome hkind, hleaf]
    rfl

section
variable {filters : FilterSet} (hgenerators : filters.HaveGenerators)
  {names : String → Prop} [DecidablePred names]
include hgenerators

/-- A leaf that was blanked is passed as one that has no filter is. -/
theorem Compile.entry_blanked {key : String} {value value' : Json}
    (hkey : Combinator.ofKey? key = none) (hvalue : Blanks filters names key value value')
    (depth : Nat) (table : BindTable) :
    (entry filters depth key value').outcome table =
      (entry (filters.without names) depth key value).outcome table := by
  have hwithout : (filters.without names).find? key = if names key then none else filters.find? key :=
    filters.find?_without key
  cases hd : filters.find? key with
  | none =>
    rw [hd, ite_self] at hwithout
    rw [entry_of_skipped hkey hd, entry_of_skipped hkey hwithout]
  | some d =>
    obtain ⟨hblank, hkeep⟩ := hvalue (Option.isSome_iff_exists.2 ⟨d, hd⟩)
    -- a configured leaf is null where its filter is missing, and is kept where it is not
    by_cases hname : names key
    · rw [if_pos hname] at hwithout
      rw [hblank hname, entry_of_filter hkey hd, entry_of_skipped hkey hwithout]
      exact Clause.compile_null (hgenerators key d hd) key table
    · rw [if_neg hname, hd] at hwithout
      rw [hkeep hname, entry_of_filter hkey hd, entry_of_filter hkey hwithout]

theorem Compile.entries_blanked {fields fields' : List (String × Json)}
    (h : Replaced (Blanks filters names) fields fields') (depth : Nat) (table : BindTable) :
    (entries filters depth fields').outcome table =
      (entries (filters.without names) depth fields).outcome table := by
  induction h generalizing depth table with
  | nil => rw [entries_nil_outcome, entries_nil_outcome]
  | nested hkey _ _ ihinner ihrest =>
    rw [entries_cons_outcome, entries_cons_outcome, funext (ihrest depth), entry_of_combinator hkey,
      entry_of_combinator hkey]
    -- the depth is checked before the inner mapping is walked, and is the same on both sides
    rcases Nat.lt_or_ge maxBodyDepth (depth + 1) with hdeep | hdepth
    · rw [group_tooDeep hdeep, group_tooDeep hdeep]
    · rw [group_object_outcome hdepth, group_object_outcome hdepth, ihinner]
  | leaf hkey hvalue _ ih =>
    rw [entries_cons_outcome, entries_cons_outcome, funext (ih depth),
      entry_blanked hgenerators hkey hvalue]

theorem Compile.mapping_blanked {fields fields' : List (String × Json)}
    (h : Replaced (Blanks filters names) fields fields') (default : Combinator)
    (table : BindTable) :
    (mapping filters default fields').outcome table =
      (mapping (filters.without names) default fields).outcome table := by
  -- blanking keeps the keys, so both mappings are lone or neither is
  by_cases hlone : IsLone fields
  · obtain ⟨key, value, combinator, rfl, hkey⟩ := hlone
    cases h with
    | leaf hleaf => cases hkey.symm.trans hleaf
    | nested _ hinner hrest =>
      cases hrest
      have hdepth : 1 ≤ maxBodyDepth := by decide
      rw [mapping_of_lone hkey, mapping_of_lone hkey, group_object_outcome hdepth,
        group_object_outcome hdepth, entries_blanked hgenerators hinner]
  · rw [mapping_of_not_lone hlone, mapping_of_not_lone (mt h.isLone_iff.1 hlone),
      entries_blanked hgenerators h]

end

/-- To blank the leaves of some names in a body is to compile it without the filters of these names:
the same predicate comes out with the same bind table, or the same error. What takes the place of a
leaf without a filter does not matter, and may be something else each time. -/
theorem Compiler.compile_blanked {compiler : Compiler} (hgenerators : compiler.filters.HaveGenerators)
    (names : String → Prop) [DecidablePred names] (b : Body) (default : Combinator) :
    let bare : Compiler := { compiler with filters := compiler.filters.without names }
    (∀ transform adjusted,
      (∀ name value value', transform name value = .ok value' →
        Blanks compiler.filters names name value value') →
      (Adjust.body transform b).result = .ok adjusted →
      (compiler.compile (.json adjusted) default).result = (bare.compile b default).result) ∧
    ∀ fields fields', b.fields? = some fields →
      Replaced (Blanks compiler.filters names) fields fields' →
      (compiler.compile (.object fields') default).result = (bare.compile b default).result := by
  intro bare
  have hreplaced {b' : Body} {fields fields' : List (String × Json)} (hb : b.fields? = some fields)
      (hb' : b'.fields? = some fields')
      (h : Replaced (Blanks compiler.filters names) fields fields') :
      (compiler.compile b' default).result = (bare.compile b default).result := by
    have hmapping := Compile.mapping_blanked hgenerators h default (.empty compiler.table.stem)
    have hbare : (bare.compile b default).result = _ :=
      compile_of_outcome (Compile.body_of_fields hb _ _ _)
    rw [compile_of_outcome ((Compile.body_of_fields hb' _ _ _).trans hmapping), hbare]
  constructor
  · intro transform adjusted htransform hadjusted
    obtain ⟨fields, fields', hfields, rfl, hadjusts⟩ := Adjust.body_adjusts hadjusted
    exact hreplaced hfields rfl (hadjusts.replaced htransform)
  · intro fields fields' hfields h
    exact hreplaced hfields rfl h

/-! ### A custom filter that is blanked -/

/-- A least number, which the value must give. -/
def leastNumber : Generator := fun filter spec value =>
  match value.field? "min" >>= Json.word? with
  | some least => do
    let name ← Pass.placeholder (.integer least)
    return Predicate.parenthesized (spec.field ++ " >= " ++ name)
  | none => .fail (.custom (filter ++ " requires 'min'"))

/-- Filters on posts, with one on their score. -/
def FilterSet.scoredPosts : FilterSet :=
  posts.insert "score" (.custom "posts.score" leastNumber)

theorem FilterSet.scoredPosts_haveGenerators : scoredPosts.HaveGenerators :=
  forall_find? (P := fun d => d.kind = .custom → d.generator.isSome) (by decide)

/-- Posts with some score, on one page. -/
def Body.scoredPosts : Body :=
  .object [("any", .object [("score", .object []), ("tag", .string "rust")]), ("page", .int 2)]

/-- The same without a score, on another page. -/
def Json.unscoredPosts : Json :=
  .object [("any", .object [("score", .null), ("tag", .string "rust")]), ("page", .int 3)]

/-- Blank the score and turn the page. -/
def Adjust.withoutScore : Transform := fun name value =>
  if name = "score" then .ok .null else if name = "page" then .ok (.int 3) else .ok value

theorem Compiler.compile_blanked_scoredPosts :
    ((ofFilters .scoredPosts).compile .scoredPosts .all).result =
        .error (.custom "score requires 'min'") ∧
      (Adjust.body Adjust.withoutScore .scoredPosts).result = .ok .unscoredPosts ∧
      ((ofFilters .scoredPosts).compile (.json .unscoredPosts) .all).result =
        .ok (.sql "(((posts.tag IN (:p1))))", ⟨"p", #[.list [.text "rust"]]⟩) ∧
      ((ofFilters (FilterSet.scoredPosts.without (· = "score"))).compile .scoredPosts .all).result =
        .ok (.sql "(((posts.tag IN (:p1))))", ⟨"p", #[.list [.text "rust"]]⟩) := by
  have hadjusted : (Adjust.body Adjust.withoutScore .scoredPosts).result = .ok .unscoredPosts := by
    rfl
  have hcompile : ((ofFilters .scoredPosts).compile (.json .unscoredPosts) .all).result =
      .ok (.sql "(((posts.tag IN (:p1))))", ⟨"p", #[.list [.text "rust"]]⟩) := by
    decide +kernel
  have hblanks (name : String) (value value' : Json)
      (h : Adjust.withoutScore name value = .ok value') :
      Blanks .scoredPosts (· = "score") name value value' := by
    intro hname
    unfold Adjust.withoutScore at h
    split at h
    · next hscore =>
      cases h
      exact ⟨fun _ => rfl, fun hother => absurd hscore hother⟩
    · next hscore =>
      refine ⟨fun h => absurd h hscore, fun _ => ?_⟩
      split at h
      · next hpage =>
        subst hpage
        cases hname
      · cases h
        rfl
  have hblanked := (@compile_blanked (ofFilters .scoredPosts) FilterSet.scoredPosts_haveGenerators
    (· = "score") _ .scoredPosts .all).1 Adjust.withoutScore .unscoredPosts hblanks hadjusted
  refine ⟨?_, hadjusted, hcompile, ?_⟩
  · decide +kernel
  · rw [← hcompile, hblanked]
    rfl

end Criteria
