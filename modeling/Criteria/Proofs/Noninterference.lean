import Criteria.Proofs.Meaning

/-!
# Values do not show

Two bodies are alike when they have the same keys in the same order and their leaves have the same
shapes. Alike bodies have the same predicate, character for character, and bind tables with the same
names, whatever their values are. Main statement: `compile_noninterference`.

The outline of a body is divided into its form, which no value takes part in, and its values; the
induction is over two bodies at once and shows that their forms agree.
-/

namespace Criteria

/-! ### Alike bodies -/

/-- Two membership tests are of the same kind, their elements aside. -/
inductive Membership.SameKind {α : Type} : Membership α → Membership α → Prop
  | within (xs ys : List α) : SameKind (.within xs) (.within ys)
  | without (xs ys : List α) : SameKind (.without xs) (.without ys)
  | unrestricted : SameKind .unrestricted .unrestricted
  | impossible : SameKind .impossible .impossible

/-- The key of a comparison with an operand that it accepts. -/
def Comparison.Accepts (key : String) (operand : Json) : Prop :=
  ∃ op, ofKey? key = some op ∧
    if op.isRange then (Meaning.pair? operand).isSome else (Timestamp.ofJson? operand).isSome

/-- Two values of a filter that may restrict rows have the same shape. -/
inductive SameShape (filter : String) (spec : FilterSpec) : Json → Json → Prop
  /-- The lists of a set filter amount to tests of the same kind. -/
  | sets {value value' : Json} {body body' : SetBody} (hset : spec.IsSet)
      (hread : SetBody.read filter value = .ok body)
      (hread' : SetBody.read filter value' = .ok body')
      (hkind : (spec.membership body).SameKind (spec.membership body')) :
      SameShape filter spec value value'
  /-- The same comparisons in the same order, with operands of any value. -/
  | comparisons {fields fields' : List (String × Json)} (hrange : spec.kind = .timestampRange)
      (hkeys : fields.map Prod.fst = fields'.map Prod.fst)
      (hfields : ∀ entry ∈ fields, Comparison.Accepts entry.1 entry.2)
      (hfields' : ∀ entry ∈ fields', Comparison.Accepts entry.1 entry.2) :
      SameShape filter spec (.object fields) (.object fields')
  /-- No comparisons at all. -/
  | unrestricted {value value' : Json} (hrange : spec.kind = .timestampRange)
      (h : value = .null ∨ value = .object []) (h' : value' = .null ∨ value' = .object []) :
      SameShape filter spec value value'
  /-- A filter that never restricts. -/
  | passthrough (value value' : Json) (hkind : spec.kind = .passthrough) :
      SameShape filter spec value value'

/-- Two mappings have the same keys in the same order, also under every combinator, and leaves of
the same shapes where a filter has the name of the leaf. -/
inductive Alike (filters : FilterSet) : List (String × Json) → List (String × Json) → Prop
  | nil : Alike filters [] []
  | nested {key : String} {combinator : Combinator}
      {fields fields' rest rest' : List (String × Json)}
      (hkey : Combinator.ofKey? key = some combinator) (hinner : Alike filters fields fields')
      (hrest : Alike filters rest rest') :
      Alike filters ((key, .object fields) :: rest) ((key, .object fields') :: rest')
  /-- Neither value is a mapping, as the key asks for. -/
  | malformed {key : String} {combinator : Combinator} {value value' : Json}
      {rest rest' : List (String × Json)} (hkey : Combinator.ofKey? key = some combinator)
      (h : ∀ fields, value ≠ .object fields) (h' : ∀ fields, value' ≠ .object fields)
      (hrest : Alike filters rest rest') :
      Alike filters ((key, value) :: rest) ((key, value') :: rest')
  | leaf {key : String} {d : Descriptor} {value value' : Json} {rest rest' : List (String × Json)}
      (hkey : Combinator.ofKey? key = none) (hd : filters.find? key = some d)
      (hshape : SameShape key d.toFilterSpec value value') (hrest : Alike filters rest rest') :
      Alike filters ((key, value) :: rest) ((key, value') :: rest')
  | skipped {key : String} {value value' : Json} {rest rest' : List (String × Json)}
      (hkey : Combinator.ofKey? key = none) (hd : filters.find? key = none)
      (hrest : Alike filters rest rest') :
      Alike filters ((key, value) :: rest) ((key, value') :: rest')

/-- Two bodies are alike mappings, or neither is a mapping. -/
def Body.Alike (filters : FilterSet) (b b' : Body) : Prop :=
  (∃ fields fields', b.fields? = some fields ∧ b'.fields? = some fields' ∧
    Criteria.Alike filters fields fields') ∨ (b.fields? = none ∧ b'.fields? = none)

namespace Outline

/-! ### Forms -/

/-- The form of an outline without its values; of a stop, its cause and how many values were bound
by then. -/
def form : Except Stopped (Option (Condition BindValue)) →
    Except (Stop × Nat) (Option (Condition Unit))
  | .ok o => .ok (o.map Condition.shape)
  | .error s => .error (s.cause, s.bound.length)

/-- The form of an outline of entries. -/
def formAll : Except Stopped (List (Condition BindValue)) →
    Except (Stop × Nat) (List (Condition Unit))
  | .ok cs => .ok (cs.map Condition.shape)
  | .error s => .error (s.cause, s.bound.length)

/-- The form of an entry and what follows it. -/
def formFollowedBy (first : Except (Stop × Nat) (Option (Condition Unit)))
    (rest : Except (Stop × Nat) (List (Condition Unit))) :
    Except (Stop × Nat) (List (Condition Unit)) :=
  match first with
  | .error s => .error s
  | .ok none => rest
  | .ok (some c) =>
    match rest with
    | .ok cs => .ok (c :: cs)
    | .error (cause, bound) => .error (cause, c.values.length + bound)

theorem formAll_followedBy (first : Except Stopped (Option (Condition BindValue)))
    (rest : Except Stopped (List (Condition BindValue))) :
    formAll (followedBy first rest) = formFollowedBy (form first) (formAll rest) := by
  match first, rest with
  | .error s, _ => rfl
  | .ok none, _ => rfl
  | .ok (some c), .ok cs => rfl
  | .ok (some c), .error s =>
    simp only [followedBy, formAll, form, formFollowedBy, Stopped.after, Option.map_some,
      Condition.length_values_shape, List.length_append]

theorem form_map_join? (o : Except Stopped (List (Condition BindValue)))
    (combinator : Combinator) :
    form (o.map (Condition.join? combinator)) = (formAll o).map (Condition.join? combinator) := by
  match o with
  | .error s => rfl
  | .ok [] => rfl
  | .ok (c :: cs) =>
    have hshape := Condition.shape_group combinator c cs
    simp only [Except.map, Condition.join?, form, Option.map_some, hshape, formAll, List.map_cons]

/-- What a form comes to behind a table: the predicate, and the names of the table then. -/
def written (table : BindTable) :
    Except (Stop × Nat) (Option (Condition Unit)) → Except FilterError Predicate × List String
  | .ok none => (.ok .empty, BindTable.names table.stem table.size)
  | .ok (some c) =>
    (.ok (.sql (c.textAt table)), BindTable.names table.stem (table.size + c.values.length))
  | .error (cause, bound) =>
    (stopResult .noMatch cause, BindTable.names table.stem (table.size + bound))

/-- The form of an outline decides its predicate and the names in its table. -/
theorem settled_written (o : Except Stopped (Option (Condition BindValue))) (table : BindTable) :
    ((settled table o).1, (settled table o).2.entries.keys) = written table (form o) := by
  match o with
  | .ok none =>
    simp only [settled, form, Option.map_none, written, BindTable.keys_entries]
  | .ok (some c) =>
    simp only [settled, form, Option.map_some, written, BindTable.keys_entries,
      BindTable.stem_pushAll,
      BindTable.size_pushAll, Condition.textAt, Condition.label_shape,
      Condition.length_values_shape]
  | .error s =>
    simp only [settled, form, written, BindTable.keys_entries, BindTable.stem_pushAll,
      BindTable.size_pushAll]

/-! ### Leaves of the same shape -/

theorem form_ofMembership {m m' : Membership BindValue} (h : m.SameKind m') (field : String) :
    form (ofMembership field m) = form (ofMembership field m') := by
  cases h <;> rfl

theorem instant_of_isSome {operand : Json} (h : (Timestamp.ofJson? operand).isSome)
    (filter : String) : ∃ t, Clause.instant filter operand = .ok t := by
  obtain ⟨t, ht⟩ := Option.isSome_iff_exists.1 h
  exact ⟨t, by rw [Clause.instant, ht]⟩

theorem bounds_of_isSome {operand : Json} (h : (Meaning.pair? operand).isSome) (filter : String) :
    ∃ low high, Clause.bounds filter operand = .ok (low, high) := by
  unfold Meaning.pair? at h
  split at h
  · next x y =>
    cases hx : Timestamp.ofJson? x with
    | none =>
      rw [hx] at h
      cases h
    | some a =>
      cases hy : Timestamp.ofJson? y with
      | none =>
        rw [hx, hy] at h
        cases h
      | some b =>
        have hfirst : Clause.instant filter x = .ok a := by rw [Clause.instant, hx]
        have hsecond : Clause.instant filter y = .ok b := by rw [Clause.instant, hy]
        rw [Clause.bounds, hfirst, hsecond]
        exact ⟨_, _, rfl⟩
  · cases h

/-- A comparison that accepts its operand succeeds, and its key decides the form of the test. -/
theorem comparison_of_accepts {key : String} {operand : Json}
    (h : Comparison.Accepts key operand) (filter field : String) :
    ∃ op t, Comparison.ofKey? key = some op ∧ comparison filter field op operand = .ok t ∧
      t.label (fun _ => ()) 0 =
        match op.form with
        | .inl r => .relation field r ()
        | .inr negated => .range field negated () () := by
  obtain ⟨op, hop, haccepts⟩ := h
  rw [op.isRange_eq] at haccepts
  cases hform : op.form with
  | inl r =>
    rw [hform] at haccepts
    obtain ⟨t, ht⟩ := instant_of_isSome haccepts filter
    refine ⟨op, .relation field r (.timestamp t), hop, ?_, ?_⟩
    · rw [comparison, hform]
      simp only [ht, Except.map]
    · rw [hform, Test.label]
  | inr negated =>
    rw [hform] at haccepts
    obtain ⟨low, high, hbounds⟩ := bounds_of_isSome haccepts filter
    refine ⟨op, .range field negated (.timestamp low) (.timestamp high), hop, ?_, ?_⟩
    · rw [comparison, hform]
      simp only [hbounds, Except.map]
    · rw [hform, Test.label]

theorem comparisons_of_accepts (filter field : String) {fields fields' : List (String × Json)}
    (hkeys : fields.map Prod.fst = fields'.map Prod.fst)
    (hfields : ∀ entry ∈ fields, Comparison.Accepts entry.1 entry.2)
    (hfields' : ∀ entry ∈ fields', Comparison.Accepts entry.1 entry.2) :
    ∃ ts ts', comparisons filter field fields = .ok ts ∧
      comparisons filter field fields' = .ok ts' ∧
      ts.map (Test.label (fun _ => ()) 0) = ts'.map (Test.label (fun _ => ()) 0) := by
  -- both lists have the same keys, so they are walked in step
  induction fields generalizing fields' with
  | nil =>
    rw [List.map_nil, eq_comm, List.map_eq_nil_iff] at hkeys
    subst hkeys
    exact ⟨[], [], rfl, rfl, rfl⟩
  | cons entry rest ih =>
    cases fields' with
    | nil => cases hkeys
    | cons entry' rest' =>
      obtain ⟨key, operand⟩ := entry
      obtain ⟨key', operand'⟩ := entry'
      simp only [List.map_cons, List.cons.injEq] at hkeys
      obtain ⟨rfl, hkeys⟩ := hkeys
      obtain ⟨hentry, hrest⟩ := List.forall_mem_cons.1 hfields
      obtain ⟨hentry', hrest'⟩ := List.forall_mem_cons.1 hfields'
      obtain ⟨op, t, hop, ht, hlabel⟩ := comparison_of_accepts hentry filter field
      obtain ⟨op', t', hop', ht', hlabel'⟩ := comparison_of_accepts hentry' filter field
      obtain ⟨ts, ts', hts, hts', hlabels⟩ := ih hkeys hrest hrest'
      obtain rfl : op = op' := Option.some.inj (hop.symm.trans hop')
      refine ⟨t :: ts, t' :: ts', ?_, ?_, ?_⟩
      · simp only [comparisons, hop, ht, hts]
      · simp only [comparisons, hop, ht', hts']
      · rw [List.map_cons, List.map_cons, hlabel, hlabel', hlabels]

/-- Leaves of the same shape have outlines of the same form. -/
theorem form_leaf {filter : String} {spec : FilterSpec} {value value' : Json}
    (h : SameShape filter spec value value') :
    form (leaf filter spec value) = form (leaf filter spec value') := by
  cases h with
  | sets hset hread hread' hkind =>
    rw [leaf_of_isSet hset, leaf_of_isSet hset, sets, sets, hread, hread']
    exact form_ofMembership hkind spec.field
  | comparisons hrange hkeys hfields hfields' =>
    obtain ⟨ts, ts', hts, hts', hlabels⟩ :=
      comparisons_of_accepts filter spec.field hkeys hfields hfields'
    -- the conjunction of the tests, without what they bind
    have hform (ts : List (Test BindValue)) :
        form (.ok (Condition.join? .all (ts.map .test))) =
          .ok (Condition.join? .all ((ts.map (Test.label (fun _ => ()) 0)).map .test)) := by
      have hjoin := form_map_join? (.ok (ts.map .test)) .all
      simp only [Except.map, formAll, List.map_map] at hjoin ⊢
      exact hjoin
    rw [leaf_of_timestampRange hrange, leaf_of_timestampRange hrange, timestampRange,
      timestampRange, hts, hts']
    simp only [hform, hlabels]
  | unrestricted hrange h h' =>
    have hnone {value : Json} (h : value = .null ∨ value = .object []) :
        timestampRange filter spec.field value = .ok none := by
      rcases h with rfl | rfl <;> rfl
    rw [leaf_of_timestampRange hrange, leaf_of_timestampRange hrange, hnone h, hnone h']
  | passthrough value value' hkind => simp only [leaf, hkind]

/-! ### Alike bodies have the same form -/

theorem group_of_not_object {value : Json} (h : ∀ fields, value ≠ .object fields)
    (filters : FilterSet) (key : String) (combinator : Combinator) (depth : Nat) :
    group filters key combinator depth value =
      if maxBodyDepth < depth then .error ⟨.failed (.invalidBody .tooDeep), []⟩
      else .error ⟨.failed (.invalidBody (.combinatorNotMapping key)), []⟩ := by
  cases value with
  | object fields => exact absurd rfl (h fields)
  | _ =>
    rw [group]
    intros
    contradiction

theorem form_group {filters : FilterSet} {fields fields' : List (String × Json)} {depth : Nat}
    (h : formAll (entries filters depth fields) = formAll (entries filters depth fields'))
    (key : String) (combinator : Combinator) :
    form (group filters key combinator depth (.object fields)) =
      form (group filters key combinator depth (.object fields')) := by
  rw [group, group]
  split
  · rfl
  · rw [form_map_join?, form_map_join?, h]

theorem form_entries {filters : FilterSet} {fields fields' : List (String × Json)}
    (h : Alike filters fields fields') (depth : Nat) :
    formAll (entries filters depth fields) = formAll (entries filters depth fields') := by
  -- the form of an entry says where the walk goes on, so it is compared entry by entry
  induction h generalizing depth with
  | nil => rfl
  | nested hkey hinner hrest ihinner ihrest =>
    rw [entries, entries, formAll_followedBy, formAll_followedBy, ihrest]
    simp only [hkey, form_group (ihinner (depth + 1))]
  | malformed hkey h h' hrest ih =>
    rw [entries, entries, formAll_followedBy, formAll_followedBy, ih]
    simp only [hkey, group_of_not_object h, group_of_not_object h']
  | leaf hkey hd hshape hrest ih =>
    rw [entries, entries, formAll_followedBy, formAll_followedBy, ih]
    simp only [hkey, hd, form_leaf hshape]
  | skipped hkey hd hrest ih =>
    rw [entries, entries, formAll_followedBy, formAll_followedBy, ih]
    simp only [hkey, hd]

theorem keys_of_alike {filters : FilterSet} {fields fields' : List (String × Json)}
    (h : Alike filters fields fields') : Assoc.keys fields = Assoc.keys fields' := by
  induction h with
  | nil => rfl
  | nested _ _ _ _ ih => exact congrArg (_ :: ·) ih
  | malformed _ _ _ _ ih => exact congrArg (_ :: ·) ih
  | leaf _ _ _ _ ih => exact congrArg (_ :: ·) ih
  | skipped _ _ _ ih => exact congrArg (_ :: ·) ih

theorem form_mapping {filters : FilterSet} {fields fields' : List (String × Json)}
    (h : Alike filters fields fields') (default : Combinator) :
    form (mapping filters default fields) = form (mapping filters default fields') := by
  by_cases hlone : IsLone fields
  · obtain ⟨key, value, combinator, rfl, hkey⟩ := hlone
    cases h with
    | nested _ hinner hrest =>
      cases hrest
      rw [mapping_eq_group hkey, mapping_eq_group hkey, form_group (form_entries hinner 1)]
    | malformed _ h h' hrest =>
      cases hrest
      rw [mapping_eq_group hkey, mapping_eq_group hkey, group_of_not_object h,
        group_of_not_object h']
    | leaf hleaf _ _ _ => cases hkey.symm.trans hleaf
    | skipped hleaf _ _ => cases hkey.symm.trans hleaf
  · have hlone' : ¬ IsLone fields' := by
      rwa [isLone_iff_keys, ← keys_of_alike h, ← isLone_iff_keys]
    rw [mapping_eq_entries hlone, mapping_eq_entries hlone', form_map_join?, form_map_join?,
      form_entries h 1]

theorem form_body {filters : FilterSet} {b b' : Body} (h : Body.Alike filters b b')
    (default : Combinator) : form (body filters b default) = form (body filters b' default) := by
  rcases h with ⟨fields, fields', hfields, hfields', halike⟩ | ⟨hnone, hnone'⟩
  · rw [body, body, hfields, hfields']
    exact form_mapping halike default
  · rw [body, body, hnone, hnone']

end Outline

/-- Alike bodies have the same predicate, character for character, and tables with the same names,
or the same error. -/
theorem Compiler.compile_noninterference {compiler : Compiler} (hcustom : compiler.filters.NoCustom)
    {b b' : Body} (h : Body.Alike compiler.filters b b') (default : Combinator) :
    ((compiler.compile b default).result.map fun (predicate, table) =>
        (predicate, table.entries.keys)) =
      (compiler.compile b' default).result.map fun (predicate, table) =>
        (predicate, table.entries.keys) := by
  have hwritten (b : Body) :
      ((compiler.compile b default).result.map fun (predicate, table) =>
          (predicate, table.entries.keys)) =
        let (result, names) := Outline.written (.empty compiler.table.stem)
          (Outline.form (Outline.body compiler.filters b default))
        result.map fun predicate => (predicate, names) := by
    rw [compile_result hcustom, ← Outline.settled_written]
    match Outline.settled (.empty compiler.table.stem)
      (Outline.body compiler.filters b default) with
    | (.ok predicate, table) => rfl
    | (.error e, table) => rfl
  rw [hwritten b, hwritten b', Outline.form_body h]

/-- Other posts, asked for in the same way. -/
def Body.hostilePosts : Body :=
  .object [
    ("tag", .array [.string "') OR 1 = 1 --", .int 7]),
    ("any", .object [
      ("tag", .object [("except", .string ":p1")]),
      ("created", .object [("between", .array [.int 0, .int 1])])]),
    ("order", .null)]

theorem Body.rustPosts_alike : Body.Alike .posts .rustPosts .hostilePosts := by
  have hbetween (x y : Json) (hx : (Timestamp.ofJson? x).isSome)
      (hy : (Timestamp.ofJson? y).isSome) :
      ∀ entry ∈ [("between", Json.array [x, y])], Comparison.Accepts entry.1 entry.2 := by
    obtain ⟨a, ha⟩ := Option.isSome_iff_exists.1 hx
    obtain ⟨b, hb⟩ := Option.isSome_iff_exists.1 hy
    intro entry hentry
    obtain rfl := List.mem_singleton.1 hentry
    refine ⟨.between, Comparison.ofKey?_key .between, ?_⟩
    simp [Comparison.isRange, Meaning.pair?, ha, hb]
  refine Or.inl ⟨_, _, rfl, rfl, ?_⟩
  refine .leaf rfl rfl (.sets (Or.inr (Or.inr rfl)) rfl rfl (.within _ _)) (.nested rfl ?_ ?_)
  · refine .leaf rfl rfl (.sets (Or.inr (Or.inr rfl)) rfl rfl (.without _ _)) ?_
    exact .leaf rfl rfl (.comparisons rfl rfl (hbetween _ _ rfl rfl) (hbetween _ _ rfl rfl)) .nil
  · exact .leaf rfl rfl (.passthrough _ _ rfl) .nil

theorem Compiler.compile_noninterference_rustPosts :
    Body.Alike .posts .rustPosts .hostilePosts ∧
      (((ofFilters .posts).compile .rustPosts .all).result.map fun (predicate, table) =>
          (predicate, table.entries.keys)) =
        ((ofFilters .posts).compile .hostilePosts .all).result.map fun (predicate, table) =>
          (predicate, table.entries.keys) :=
  ⟨Body.rustPosts_alike,
    compile_noninterference FilterSet.posts_noCustom Body.rustPosts_alike .all⟩

end Criteria
