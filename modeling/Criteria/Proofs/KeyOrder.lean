import Criteria.Proofs.Meaning
import Criteria.Proofs.Unordered

/-!
# The order of keys carries no meaning

Two bodies that differ in the order of the fields of their mappings, at any depth, mean the same, as
long as no function that converts the elements of a list looks at that order. Their predicates may
differ in every character, and their walks may stop at different entries; but unless one of them is
refused, both restrict nothing, both match nothing, or both bind the same values and are passed by
the same rows. Main statements: `Compiler.compile_reordered`, and `Compiler.order_may_show` for such
a function, and for the parameters of a request.

What a body asks does not depend on the order, and so decides between no condition and some; the
outlines of the two bodies decide the rest.
-/

namespace Criteria

open Json (AtKey Reordered perm_map_of_rel)

namespace Meaning

/-! ### Leaves -/

theorem joined_perm (combinator : Combinator) {ms ms' : List (Row → Bool)} (h : ms.Perm ms') :
    joined combinator ms = joined combinator ms' := by
  have hholds : holds combinator ms = holds combinator ms' := by
    funext row
    cases combinator with
    | all => exact h.all_eq
    | any => exact h.any_eq
  rw [joined, joined, hholds, h.isEmpty_eq]

theorem lists_congr {only only' except except' : Option (List BindValue)}
    (honly : Option.Rel SameElements only only')
    (hexcept : Option.Rel SameElements except except') :
    lists only except = lists only' except' := by
  cases honly with
  | none =>
    cases hexcept with
    | none => rfl
    | some hexcept => simp only [lists, hexcept.isEmpty_eq, hexcept.contains_eq]
  | some honly =>
    cases hexcept with
    | none => simp only [lists, honly.isEmpty_eq, honly.contains_eq]
    | some hexcept => simp only [lists, honly.contains_eq, hexcept.contains_eq]

theorem sets_reordered {filter : String} {spec : FilterSpec}
    (hspec : spec.kind = .mappedList → spec.convert.IgnoresOrder) (hset : spec.IsSet) {x y : Json}
    (h : Reordered x y) : sets filter spec x = sets filter spec y := by
  have hside := FilterSpec.map_elements_reordered hspec hset
  cases h with
  | array h =>
    simp only [sets, SetBody.read, SetBody.listOf?]
    rw [lists_congr (hside .only (.some h)) (hside .except .none)]
  | object hkeys hperm h =>
    have hobject := Reordered.object hkeys hperm h
    simp only [sets, SetBody.read]
    rw [lists_congr (hside .only (SetBody.side?_reordered hobject .only))
      (hside .except (SetBody.side?_reordered hobject .except))]
  | _ => rfl

theorem pair?_reordered {x y : Json} (h : Reordered x y) : pair? x = pair? y := by
  cases h with
  | array h =>
    match h with
    | .cons hfirst (.cons hsecond .nil) =>
      rw [pair?, pair?, Timestamp.ofJson?_reordered hfirst, Timestamp.ofJson?_reordered hsecond]
    | .nil | .cons _ .nil | .cons _ (.cons _ (.cons _ _)) => rfl
  | _ => rfl

theorem passes_reordered (v : BindValue) (key : String) {x y : Json} (h : Reordered x y) :
    passes v key x = passes v key y := by
  have hcompares (t : Timestamp) : compares t x = compares t y := by
    funext op
    cases op <;> simp only [compares, Timestamp.ofJson?_reordered h, pair?_reordered h]
  simp only [passes, hcompares]

theorem timestampRange_reordered (field : String) {x y : Json} (h : Reordered x y) :
    timestampRange field x = timestampRange field y := by
  cases h with
  | object hkeys hperm h =>
    have hrel := (Reordered.object hkeys hperm h).rel_fields.2
    refine joined_perm .all (perm_map_of_rel (F := fun key operand (row : Row) =>
      passes (row field) key operand) ?_ hrel)
    intro key x y h
    funext row
    exact passes_reordered _ key h
  | _ => rfl

theorem leaf_reordered {filter : String} {spec : FilterSpec}
    (hspec : spec.kind = .mappedList → spec.convert.IgnoresOrder) {x y : Json}
    (h : Reordered x y) : leaf filter spec x = leaf filter spec y := by
  rcases spec.kind_cases with hset | hrange | hother
  · rw [leaf_of_isSet hset, leaf_of_isSet hset, sets_reordered hspec hset h]
  · rw [leaf_of_timestampRange hrange, leaf_of_timestampRange hrange,
      timestampRange_reordered _ h]
  · rw [leaf_of_other hother, leaf_of_other hother]

/-! ### Bodies -/

/-- What one entry of a mapping asks. -/
def entry (filters : FilterSet) (key : String) (value : Json) : Meaning :=
  match Combinator.ofKey? key with
  | some combinator => group filters combinator value
  | none =>
    match filters.find? key with
    | some d => leaf key d.toFilterSpec value
    | none => none

theorem entries_eq (filters : FilterSet) (fields : List (String × Json)) :
    entries filters fields = (fields.map fun f => entry filters f.1 f.2).filterMap id := by
  induction fields with
  | nil => rw [entries, List.map_nil, List.filterMap_nil]
  | cons f rest ih =>
    obtain ⟨key, value⟩ := f
    have hcons : entries filters ((key, value) :: rest) =
        (entry filters key value).toList ++ entries filters rest := by
      rw [entries]
      rfl
    rw [hcons, ih, List.map_cons]
    cases entry filters key value <;> rfl

theorem entries_perm {filters : FilterSet} {P : Json → Json → Prop}
    (hentry : ∀ key x y, P x y → entry filters key x = entry filters key y)
    {fs gs : List (String × Json)}
    (h : Multiset.Rel (AtKey P) (fs : Multiset (String × Json)) gs) :
    (entries filters fs).Perm (entries filters gs) := by
  rw [entries_eq, entries_eq]
  exact (perm_map_of_rel hentry h).filterMap id

section
variable {filters : FilterSet} (hfilters : filters.ConversionsIgnoreOrder)
include hfilters

theorem entry_reordered {x y : Json} (h : Reordered x y)
    (hgroup : ∀ combinator, group filters combinator x = group filters combinator y)
    (key : String) : entry filters key x = entry filters key y := by
  unfold entry
  split
  · exact hgroup _
  · split
    · next d hd => exact leaf_reordered (hfilters key d hd) h
    · rfl

theorem group_reordered {x y : Json} (h : Reordered x y) (combinator : Combinator) :
    group filters combinator x = group filters combinator y := by
  refine h.induct (P := fun x y => ∀ combinator,
    group filters combinator x = group filters combinator y) (fun _ => rfl) (fun _ _ => rfl)
    (fun _ _ => rfl) (fun _ _ => rfl) ?array ?object combinator
  case array =>
    intro xs ys _ combinator
    simp only [group]
  case object =>
    intro fs gs _ hrel combinator
    rw [group, group]
    refine joined_perm combinator (entries_perm ?_ hrel)
    rintro key x y ⟨hvalue, hgroup⟩
    exact entry_reordered hfilters hvalue hgroup key

theorem body_reordered {b b' : Body} (h : Reordered b.toJson b'.toJson) (default : Combinator) :
    body filters b default = body filters b' default := by
  unfold body Body.fields?
  generalize b.toJson = x at h ⊢
  generalize b'.toJson = y at h ⊢
  cases h with
  | object hkeys hperm h =>
    refine joined_perm default (entries_perm ?_ (Reordered.object hkeys hperm h).rel_fields.2)
    intro key x y h
    exact entry_reordered hfilters h (group_reordered hfilters h) key
  | _ => rfl

end

end Meaning

/-- Two predicates, each with its table, ask the same: nothing, what no row passes, or of the same
values that a row passes both or neither. -/
inductive Predicate.Alike : Predicate × BindTable → Predicate × BindTable → Prop
  | empty (table table' : BindTable) : Alike (.empty, table) (.empty, table')
  | noMatch (table table' : BindTable) : Alike (.noMatch, table) (.noMatch, table')
  | sql {text text' : String} {table table' : BindTable}
      (hvalues : SameValues table.values.toList table'.values.toList)
      (hrows : ∀ row, ∃ truth,
        Sql.Evaluates text table row truth ∧ Sql.Evaluates text' table' row truth) :
      Alike (.sql text, table) (.sql text', table')

/-- Bodies that differ in the order of keys only compile to predicates that ask the same, where both
compile. The function of a mapped list, if its conversion is one, has to make equal lists of lists
that differ in the order of keys only; the conversions that have a name do. -/
theorem Compiler.compile_reordered {compiler : Compiler} (hcustom : compiler.filters.NoCustom)
    (hcolumns : compiler.filters.PlainColumns)
    (hfilters : compiler.filters.ConversionsIgnoreOrder)
    (hstem : AppConfig.isStem compiler.table.stem = true) {b b' : Body}
    (h : Reordered b.toJson b'.toJson) {default : Combinator} {p p' : Predicate × BindTable}
    (hp : (compiler.compile b default).result = .ok p)
    (hp' : (compiler.compile b' default).result = .ok p') : Predicate.Alike p p' := by
  have hagree := Outline.body_agree hfilters h default
  have hmeaning := Meaning.body_reordered hfilters h default
  have hresult := hp
  have hresult' := hp'
  rw [compile_result hcustom] at hresult hresult'
  generalize ho : Outline.body compiler.filters b default = o at hresult hagree
  generalize ho' : Outline.body compiler.filters b' default = o' at hresult' hagree
  -- outlines agree in what they bind; that rows pass or not is left to the meanings
  cases hagree with
  | failed => cases hresult
  | fails => cases hresult'
  | unmatchable =>
    cases hresult
    cases hresult'
    exact .noMatch _ _
  | @ok c? c?' hvalues =>
    have hsome : c?.isSome = c?'.isSome := by
      rw [← Outline.isSome_body ho, ← Outline.isSome_body ho', hmeaning]
    rcases c? with _ | c <;> rcases c?' with _ | c'
    · cases hresult
      cases hresult'
      exact .empty _ _
    · cases hsome
    · cases hsome
    · cases hresult
      cases hresult'
      -- both texts are true of a row exactly if the one meaning is
      obtain ⟨m, hm⟩ := Option.isSome_iff_exists.1 (Outline.isSome_body ho)
      have hm' := hmeaning.symm.trans hm
      refine .sql ?_ fun row => ⟨m row, evaluates_meaning hcustom hcolumns hstem hp hm row,
        evaluates_meaning hcustom hcolumns hstem hp' hm' row⟩
      simpa [valuesOf, Condition.valuesAll, BindTable.pushAll, BindTable.empty] using hvalues

/-! ### Bodies in two orders -/

/-- Filters on posts, one of them with a conversion that turns its list round. -/
def FilterSet.topicalPosts : FilterSet :=
  insert posts "topic" ((Descriptor.ofKind .mappedList "posts.topic").withConvert
    (.function fun xs _ => xs.reverse))

theorem FilterSet.topicalPosts_noCustom : topicalPosts.NoCustom :=
  forall_find? (P := fun d => d.kind ≠ .custom) (by decide)

theorem FilterSet.topicalPosts_plainColumns : topicalPosts.PlainColumns :=
  forall_find? (P := fun d => d.kind ≠ .passthrough → Sql.IsColumn d.field) (by
    unfold Sql.IsColumn
    decide)

theorem Convert.ignoresOrder_reverse : (function fun xs _ => xs.reverse).IgnoresOrder := by
  intro f hf side xs ys h
  cases hf
  rw [List.forall₂_reverse_iff]
  exact h.forall₂.imp fun _ _ => Reordered.beq

theorem FilterSet.topicalPosts_conversionsIgnoreOrder :
    topicalPosts.ConversionsIgnoreOrder := by
  have hentries : topicalPosts.entries = [
      ("author", (Descriptor.ofKind .reference "posts.author_id").withClassName "User"),
      ("tag", .ofKind .mappedList "posts.tag"),
      ("created", .ofKind .timestampRange "posts.created_at"),
      ("order", .ofKind .passthrough ""),
      ("topic", (Descriptor.ofKind .mappedList "posts.topic").withConvert
        (.function fun xs _ => xs.reverse))] := rfl
  have hname : Convert.ofName? "identity" = some .identity := rfl
  have htag := Convert.ignoresOrder_of_ofName? hname
  apply forall_find?
  simp [hentries, Descriptor.withClassName, Descriptor.withConvert, Descriptor.ofKind, htag,
    Convert.ignoresOrder_reverse]

/-- One demand in two orders: the walks bind the same values under different names. -/
theorem Compiler.compile_reordered_topicalPosts :
    let b := Body.object [
      ("any", .object [
        ("author", .array [.object [("class", .string "User"), ("id", .int 7)]]),
        ("created", .object [("before", .int 9), ("after", .int 5)])]),
      ("topic", .array [.string "lists", .string "maps"])]
    let b' := Body.object [
      ("topic", .array [.string "lists", .string "maps"]),
      ("any", .object [
        ("created", .object [("after", .int 5), ("before", .int 9)]),
        ("author", .array [.object [("id", .int 7), ("class", .string "User")]])])]
    let p : Predicate × BindTable :=
      (.sql ("(((posts.author_id IN (:p1)) OR " ++
        "(posts.created_at < :p2 AND posts.created_at > :p3)) AND (posts.topic IN (:p4)))"),
        ⟨"p", #[.list [.integer 7], .timestamp ⟨9, 0⟩, .timestamp ⟨5, 0⟩,
          .list [.text "maps", .text "lists"]]⟩)
    let p' : Predicate × BindTable :=
      (.sql ("((posts.topic IN (:p1)) AND " ++
        "((posts.created_at > :p2 AND posts.created_at < :p3) OR (posts.author_id IN (:p4))))"),
        ⟨"p", #[.list [.text "maps", .text "lists"], .timestamp ⟨5, 0⟩, .timestamp ⟨9, 0⟩,
          .list [.integer 7]]⟩)
    Reordered b.toJson b'.toJson ∧
      ((ofFilters .topicalPosts).compile b .all).result = .ok p ∧
      ((ofFilters .topicalPosts).compile b' .all).result = .ok p' ∧ Predicate.Alike p p' := by
  intro b b' p p'
  have hauthor : Reordered (.array [.object [("class", .string "User"), ("id", .int 7)]])
      (.array [.object [("id", .int 7), ("class", .string "User")]]) :=
    .array (.cons (.object (by decide) (List.Perm.swap _ _ _)
      (.cons (.number _) (.cons (.string _) .nil))) .nil)
  have hcreated : Reordered (.object [("before", .int 9), ("after", .int 5)])
      (.object [("after", .int 5), ("before", .int 9)]) :=
    .object (by decide) (List.Perm.swap _ _ _) (.cons (.number _) (.cons (.number _) .nil))
  have htopic : Reordered (.array [.string "lists", .string "maps"])
      (.array [.string "lists", .string "maps"]) :=
    .array (.cons (.string _) (.cons (.string _) .nil))
  have h : Reordered b.toJson b'.toJson :=
    .object (by decide) (List.Perm.swap _ _ _) (.cons htopic (.cons
      (.object (by decide) (List.Perm.swap _ _ _) (.cons hcreated (.cons hauthor .nil))) .nil))
  have hp : ((ofFilters .topicalPosts).compile b .all).result = .ok p := by decide +kernel
  have hp' : ((ofFilters .topicalPosts).compile b' .all).result = .ok p' := by decide +kernel
  exact ⟨h, hp, hp', compile_reordered FilterSet.topicalPosts_noCustom
    FilterSet.topicalPosts_plainColumns FilterSet.topicalPosts_conversionsIgnoreOrder rfl h hp hp'⟩

/-! ### Orders that show -/

/-- The first key of each object. -/
def firstKeys (xs : List Json) (_ : Side) : List Json :=
  xs.filterMap fun
    | .object ((key, _) :: _) => some (.string key)
    | _ => none

/-- Filters on posts, one of them with a conversion that looks at the order of keys. -/
def FilterSet.labelledPosts : FilterSet :=
  insert posts "label" ((Descriptor.ofKind .mappedList "posts.label").withConvert
    (.function firstKeys))

theorem FilterSet.labelledPosts_noCustom : labelledPosts.NoCustom :=
  forall_find? (P := fun d => d.kind ≠ .custom) (by decide)

theorem FilterSet.labelledPosts_plainColumns : labelledPosts.PlainColumns :=
  forall_find? (P := fun d => d.kind ≠ .passthrough → Sql.IsColumn d.field) (by
    unfold Sql.IsColumn
    decide)

theorem SameValues.beq_of_singleton {v w : BindValue} (h : SameValues [v] [w]) :
    (v == w) = true := by
  obtain ⟨w', hw', hvalue⟩ :=
    Multiset.exists_mem_of_rel_of_mem h (Multiset.mem_coe.2 List.mem_cons_self)
  rwa [List.mem_singleton.1 (Multiset.mem_coe.1 hw')] at hvalue

/-- Predicates that bind one value each do not ask the same where the values differ. -/
theorem Predicate.not_alike {text text' stem stem' : String} {v w : BindValue}
    (h : (v == w) = false) : ¬ Alike (.sql text, ⟨stem, #[v]⟩) (.sql text', ⟨stem', #[w]⟩) := by
  intro halike
  cases halike with
  | sql hvalues _ => exact Bool.false_ne_true (h.symm.trans hvalues.beq_of_singleton)

/-- A function that picks the first key of an object binds another value where the keys change
places. Of the parameters of a request the order counts as well, even if no key is there twice: what
is written later takes the place of what is in its way. -/
theorem Compiler.order_may_show :
    (¬ ∀ compiler : Compiler, compiler.filters.NoCustom → compiler.filters.PlainColumns →
      AppConfig.isStem compiler.table.stem = true → ∀ b b' : Body, Reordered b.toJson b'.toJson →
      ∀ (default : Combinator) (p p' : Predicate × BindTable),
        (compiler.compile b default).result = .ok p →
        (compiler.compile b' default).result = .ok p' → Predicate.Alike p p') ∧
    ¬ ∀ pairs pairs' : List (String × String), (pairs.map Prod.fst).Nodup → pairs.Perm pairs' →
      ∀ (default : Combinator) (p p' : Predicate × BindTable),
        ((ofFilters .posts).compile (.request ⟨pairs⟩) default).result = .ok p →
        ((ofFilters .posts).compile (.request ⟨pairs'⟩) default).result = .ok p' →
        Predicate.Alike p p' := by
  constructor
  · intro h
    -- the keys of one element change places
    let b := Body.object [("label", .array [.object [("new", .int 1), ("hot", .int 2)]])]
    let b' := Body.object [("label", .array [.object [("hot", .int 2), ("new", .int 1)]])]
    have hlabel : Reordered (.array [.object [("new", .int 1), ("hot", .int 2)]])
        (.array [.object [("hot", .int 2), ("new", .int 1)]]) :=
      .array (.cons (.object (by decide) (List.Perm.swap _ _ _)
        (.cons (.number _) (.cons (.number _) .nil))) .nil)
    have hreordered : Reordered b.toJson b'.toJson :=
      .object (by decide) (List.Perm.refl _) (.cons hlabel .nil)
    have hnew : ((ofFilters .labelledPosts).compile b .all).result =
        .ok (.sql "((posts.label IN (:p1)))", ⟨"p", #[.list [.text "new"]]⟩) := by
      decide +kernel
    have hhot : ((ofFilters .labelledPosts).compile b' .all).result =
        .ok (.sql "((posts.label IN (:p1)))", ⟨"p", #[.list [.text "hot"]]⟩) := by
      decide +kernel
    exact Predicate.not_alike (by decide) (h (ofFilters .labelledPosts)
      FilterSet.labelledPosts_noCustom FilterSet.labelledPosts_plainColumns rfl b b' hreordered .all
      _ _ hnew hhot)
  · intro h
    -- one parameter is in the way of the other, so the later one is left
    have hrust : ((ofFilters .posts).compile
        (.request ⟨[("tag", "go"), ("tag[only][]", "rust")]⟩) .all).result =
          .ok (.sql "((posts.tag IN (:p1)))", ⟨"p", #[.list [.text "rust"]]⟩) := by
      decide +kernel
    have hgo : ((ofFilters .posts).compile
        (.request ⟨[("tag[only][]", "rust"), ("tag", "go")]⟩) .all).result =
          .ok (.sql "((posts.tag IN (:p1)))", ⟨"p", #[.list [.text "go"]]⟩) := by
      decide +kernel
    exact Predicate.not_alike (by decide)
      (h _ _ (by decide) (List.Perm.swap _ _ _) .all _ _ hrust hgo)

end Criteria
