import Criteria.Proofs.Nesting

/-!
# Adjustments that keep every leaf

An adjustment that keeps every leaf looks at the structure of a body only, and so does compiling
without filters. Both accept the same bodies, with one exception: the depth of a combinator that is
the only key of a body is counted from one in compiling and from two in adjusting. Main statement:
`Compiler.adjust_keep`.
-/

namespace Criteria

/-! ### What is kept -/

namespace Adjust

/-- The transform that leaves every leaf as it is. -/
def keep : Transform := fun _ value => .ok value

theorem group_tooDeep {depth : Nat} (h : maxBodyDepth < depth) (transform : Transform)
    (key : String) (value : Json) :
    group transform key depth value = .fail (.invalidBody .tooDeep) := by
  cases value with
  | object fields => rw [group, if_pos h]
  | _ =>
    rw [group, if_pos h]
    intros
    contradiction

theorem group_malformed {depth : Nat} (h : depth ≤ maxBodyDepth) {value : Json}
    (hvalue : ∀ fields, value ≠ .object fields) (transform : Transform) (key : String) :
    group transform key depth value = .fail (.invalidBody (.combinatorNotMapping key)) := by
  cases value with
  | object fields => exact absurd rfl (hvalue fields)
  | _ =>
    rw [group, if_neg (Nat.not_lt.2 h)]
    intros
    contradiction

theorem group_of_object {depth : Nat} (h : depth ≤ maxBodyDepth) (transform : Transform)
    (key : String) (fields : List (String × Json)) :
    group transform key depth (.object fields) = (do
      let fields' ← entries transform depth fields
      return .object fields') := by
  rw [group, if_neg (Nat.not_lt.2 h)]

theorem group_object {depth : Nat} (h : depth ≤ maxBodyDepth) (transform : Transform)
    (key : String) (fields : List (String × Json)) :
    (group transform key depth (.object fields)).result =
      (entries transform depth fields).result.map .object := by
  rw [group_of_object h, Traced.result_bind]
  cases (entries transform depth fields).result <;> rfl

mutual
/-- Where every leaf is kept, a group is, or it has a fault in its structure. -/
theorem group_keep (key : String) (depth : Nat) (value : Json) :
    (group keep key depth value).result = .ok value ∨
      ∃ fault, (group keep key depth value).result = .error (.invalidBody fault) := by
  rcases Nat.lt_or_ge maxBodyDepth depth with hdeep | hdepth
  · exact Or.inr ⟨_, by rw [group_tooDeep hdeep, Traced.fail]⟩
  · match value with
    | .object fields =>
      rw [group_object hdepth]
      rcases entries_keep depth fields with hfields | ⟨fault, hfault⟩
      · exact Or.inl (by rw [hfields, Except.map])
      · exact Or.inr ⟨fault, by rw [hfault, Except.map]⟩
    | .null | .bool _ | .number _ | .string _ | .array _ =>
      exact Or.inr ⟨_, by rw [group_malformed hdepth (by nofun), Traced.fail]⟩

theorem entries_keep (depth : Nat) (fields : List (String × Json)) :
    (entries keep depth fields).result = .ok fields ∨
      ∃ fault, (entries keep depth fields).result = .error (.invalidBody fault) := by
  match fields with
  | [] =>
    rw [entries]
    exact Or.inl rfl
  -- an entry fails by its own group, or by what is behind it; a leaf never fails
  | (key, value) :: rest =>
    have hrest := entries_keep depth rest
    rw [entries]
    cases hkey : Combinator.ofKey? key with
    | some combinator =>
      simp only [Traced.result_bind]
      rcases group_keep key (depth + 1) value with hvalue | ⟨fault, hfault⟩
      · rcases hrest with hrest | ⟨fault, hfault⟩
        · left
          rw [hvalue, hrest]
          rfl
        · right
          rw [hvalue, hfault]
          exact ⟨fault, rfl⟩
      · right
        rw [hfault]
        exact ⟨fault, rfl⟩
    | none =>
      simp only [Traced.result_bind]
      rcases hrest with hrest | ⟨fault, hfault⟩
      · left
        rw [hrest]
        rfl
      · right
        rw [hfault]
        exact ⟨fault, rfl⟩
end

theorem body_of_fields {b : Body} {fields : List (String × Json)} (h : b.fields? = some fields)
    (transform : Transform) :
    (body transform b).result = (entries transform 1 fields).result.map .object := by
  simp only [body, Body.mapping, h, Traced.result_bind, Traced.pure, Except.bind]
  cases (entries transform 1 fields).result <;> rfl

theorem body_of_no_fields {b : Body} (h : b.fields? = none) (transform : Transform) :
    (body transform b).result = .error (.invalidBody .notMapping) := by
  rw [body, Body.mapping, h]
  rfl

end Adjust

/-! ### Without filters -/

namespace Compile

mutual
/-- Without filters a group asks nothing and binds nothing; it fails where an adjustment that keeps
every leaf does. -/
theorem group_without_filters (key : String) (combinator : Combinator) (depth : Nat) (value : Json)
    (table : BindTable) :
    (group .empty key combinator depth value).outcome table =
      ((Adjust.group Adjust.keep key depth value).result.map fun _ => .empty, table) := by
  rcases Nat.lt_or_ge maxBodyDepth depth with hdeep | hdepth
  · rw [group_tooDeep hdeep, Adjust.group_tooDeep hdeep]
    rfl
  · match value with
    | .object fields =>
      rw [group_object_outcome hdepth, Adjust.group_object hdepth,
        entries_without_filters depth fields table]
      cases (Adjust.entries Adjust.keep depth fields).result <;> rfl
    | .null | .bool _ | .number _ | .string _ | .array _ =>
      rw [group_malformed hdepth (by nofun), Adjust.group_malformed hdepth (by nofun)]
      rfl

theorem entries_without_filters (depth : Nat) (fields : List (String × Json)) (table : BindTable) :
    (entries .empty depth fields).outcome table =
      ((Adjust.entries Adjust.keep depth fields).result.map fun _ => some [], table) := by
  match fields with
  | [] =>
    rw [entries_nil_outcome, Adjust.entries]
    rfl
  | (key, value) :: rest =>
    have hrest := entries_without_filters depth rest table
    rw [entries_cons_outcome, Adjust.entries]
    cases hkey : Combinator.ofKey? key with
    | some combinator =>
      rw [entry_of_combinator hkey, group_without_filters key combinator (depth + 1) value table]
      simp only [Traced.result_bind]
      cases (Adjust.group Adjust.keep key (depth + 1) value).result with
      | error e => rfl
      | ok kept =>
        refine hrest.trans ?_
        cases (Adjust.entries Adjust.keep depth rest).result <;> rfl
    | none =>
      rw [entry_of_skipped hkey rfl]
      simp only [Traced.result_bind]
      refine hrest.trans ?_
      cases (Adjust.entries Adjust.keep depth rest).result <;> rfl
end

/-- The top of a body, seen from an adjustment: a combinator that is the only key may take one depth
more in compiling. -/
theorem mapping_without_filters (default : Combinator) (fields : List (String × Json))
    (table : BindTable) :
    (mapping .empty default fields).outcome table =
        ((Adjust.entries Adjust.keep 1 fields).result.map fun _ => .empty, table) ∨
      (Adjust.entries Adjust.keep 1 fields).result = .error (.invalidBody .tooDeep) ∧
        IsLone fields ∧ maxBodyDepth ≤ nesting fields := by
  by_cases hlone : IsLone fields
  · obtain ⟨key, value, combinator, rfl, hkey⟩ := hlone
    have hentries : (Adjust.entries Adjust.keep 1 [(key, value)]).result =
        (Adjust.group Adjust.keep key 2 value).result.map fun kept => [(key, kept)] := by
      simp only [Adjust.entries, hkey, Traced.result_bind]
      cases (Adjust.group Adjust.keep key 2 value).result <;> rfl
    -- adjusting enters the only combinator at depth two, compiling at depth one
    have hdeeper := group_deeper .empty key combinator 1 value table
    rw [group_without_filters key combinator 2 value table] at hdeeper
    rw [mapping_of_lone hkey, hentries]
    rcases hdeeper with hsame | ⟨herror, hdeep⟩
    · left
      rw [← hsame]
      cases (Adjust.group Adjust.keep key 2 value).result <;> rfl
    · right
      refine ⟨?_, ⟨key, value, combinator, rfl, hkey⟩, ?_⟩
      · cases hgroup : (Adjust.group Adjust.keep key 2 value).result with
        | error e =>
          rw [hgroup] at herror
          cases herror
          rfl
        | ok kept =>
          rw [hgroup] at herror
          cases herror
      · rw [nesting_lone hkey]
        omega
  · left
    rw [mapping_of_not_lone hlone, entries_without_filters]
    cases (Adjust.entries Adjust.keep 1 fields).result <;> rfl

/-- What is adjusted has fewer combinators inside each other than may be compiled. -/
theorem nesting_lt_of_keep {fields fields' : List (String × Json)}
    (h : (Adjust.entries Adjust.keep 1 fields).result = .ok fields') :
    nesting fields < maxBodyDepth := by
  -- adjusting goes where compiling without filters goes
  have hwalk := entries_without_filters 1 fields default
  rw [h] at hwalk
  have hnesting := nesting_le_of_ok hwalk
  have hpos : 0 < maxBodyDepth := by decide
  omega

end Compile

theorem Body.toJson_of_fields {b : Body} {fields : List (String × Json)}
    (h : b.fields? = some fields) : b.toJson = .object fields := by
  unfold Body.fields? at h
  split at h
  · next heq =>
    cases h
    exact heq
  · cases h

/-- An adjustment that keeps every leaf gives back the body where compiling without filters succeeds,
and fails with the same error where that fails; except that it takes one combinator less inside each
other when a combinator is the only key of the body. Its errors are faults in the structure. -/
theorem Compiler.adjust_keep (table : BindTable) (b : Body) (default : Combinator) :
    ((Adjust.body Adjust.keep b).result =
        ((Compiler.mk .empty table).compile b default).result.map (fun _ => b.toJson) ∨
      (Adjust.body Adjust.keep b).result = .error (.invalidBody .tooDeep) ∧
        ∃ fields, b.fields? = some fields ∧ IsLone fields ∧ maxBodyDepth ≤ nesting fields) ∧
    (∀ fields, b.fields? = some fields → maxBodyDepth ≤ nesting fields →
      ∃ e, (Adjust.body Adjust.keep b).result = .error e) ∧
    ∀ e, (Adjust.body Adjust.keep b).result = .error e → ∃ fault, e = .invalidBody fault := by
  cases hfields : b.fields? with
  | none =>
    have hcompile : ((Compiler.mk .empty table).compile b default).result = _ :=
      compile_of_outcome (Compile.body_of_no_fields hfields .empty default (.empty table.stem))
    rw [hcompile, Adjust.body_of_no_fields hfields]
    refine ⟨Or.inl rfl, nofun, ?_⟩
    rintro e ⟨⟩
    exact ⟨.notMapping, rfl⟩
  | some fields =>
    rw [Adjust.body_of_fields hfields, Body.toJson_of_fields hfields]
    -- both walks are over one mapping, and start at different depths only for a lone combinator
    refine ⟨?_, ?_, ?_⟩
    · have hbody := Compile.body_of_fields hfields .empty default (.empty table.stem)
      rcases Compile.mapping_without_filters default fields (.empty table.stem) with
        hmapping | ⟨hdeep, hlone⟩
      · left
        have hcompile : ((Compiler.mk .empty table).compile b default).result = _ :=
          compile_of_outcome (hbody.trans hmapping)
        rw [hcompile]
        rcases Adjust.entries_keep 1 fields with hkept | ⟨fault, hfault⟩
        · rw [hkept]
          rfl
        · rw [hfault]
          rfl
      · right
        rw [hdeep]
        exact ⟨rfl, fields, rfl, hlone⟩
    · -- success would bound the nesting
      rintro fields' ⟨⟩ hnesting
      cases hkept : (Adjust.entries Adjust.keep 1 fields).result with
      | error e => exact ⟨e, rfl⟩
      | ok kept => exact absurd (Compile.nesting_lt_of_keep hkept) (Nat.not_lt.2 hnesting)
    · intro e herror
      rcases Adjust.entries_keep 1 fields with hkept | ⟨fault, hfault⟩
      · rw [hkept] at herror
        cases herror
      · rw [hfault] at herror
        cases herror
        exact ⟨fault, rfl⟩

theorem Compiler.adjust_keep_nestedAll :
    maxBodyDepth ≤ nesting [("all", .nestedAll 31)] ∧
      ∃ e, (Adjust.body Adjust.keep (.json (.nestedAll 32))).result = .error e := by
  have hkey : Combinator.ofKey? "all" = some .all := rfl
  have hnesting : maxBodyDepth ≤ nesting [("all", .nestedAll 31)] := by
    rw [nesting_lone hkey, nestingBelow_nestedAll]
    exact Nat.le_refl _
  exact ⟨hnesting, (adjust_keep default (.json (.nestedAll 32)) .all).2.1 _ rfl hnesting⟩

/-- As many combinators inside each other as may be compiled are one too many for an adjustment. -/
theorem Compiler.adjust_keep_refuses_nestedAll :
    ((ofFilters .empty).compile (.json (.nestedAll 32)) .all).result =
        .ok (.empty, .empty BindTable.defaultStem) ∧
      (Adjust.body Adjust.keep (.json (.nestedAll 32))).result =
        .error (.invalidBody .tooDeep) :=
  ⟨rfl, rfl⟩

end Criteria
