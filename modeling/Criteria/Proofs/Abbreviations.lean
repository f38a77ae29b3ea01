import Criteria.Proofs.Leafwise
import Criteria.Proofs.Matched
import Criteria.Proofs.Simulation
import Mathlib.Logic.Relation

/-!
# Abbreviated set criteria

The value of a set filter may be abbreviated: a list, a text or a number by itself stands for what is
wanted, a value by itself for a list of one, and keys other than those of the two lists say nothing.
Every value has one written out in full, two lists under their keys, to which all its abbreviations
come. Main statement: `Compiler.sets_written_out`.
-/

namespace Criteria

namespace SetBody

/-! ### Criteria written out in full -/

/-- The entry of one side, where a list is given. -/
def entries (side : Side) (list : Option (List Json)) : List (String × Json) :=
  (list.map fun xs => (side.key, .array xs)).toList

/-- A set criterion written out in full. -/
def toJson (body : SetBody) : Json :=
  .object (entries .only body.only ++ entries .except body.except)

/-- The value of a set filter written out in full. A Boolean is no set criterion and stays. -/
def canonical : Json → Json
  | .null => none.toJson
  | .bool b => .bool b
  | .array xs => toJson ⟨some xs, .none⟩
  | .object fields => toJson ⟨side? .only fields, side? .except fields⟩
  | value => toJson ⟨some [value], .none⟩

/-- A value says all it says under the keys of the two lists, and each list is a list. -/
def IsCanonical (value : Json) : Prop :=
  (∃ b, value = .bool b) ∨ ∃ body : SetBody, value = body.toJson

theorem side?_toJson (body : SetBody) :
    side? .only (entries .only body.only ++ entries .except body.except) = body.only ∧
      side? .except (entries .only body.only ++ entries .except body.except) = body.except := by
  obtain ⟨only, except⟩ := body
  cases only <;> cases except <;> simp [entries, side?, listOf?, Side.key, Assoc.find?_cons]

/-- What is written out is read as what it was. -/
theorem read_toJson (filter : String) (body : SetBody) : read filter body.toJson = .ok body := by
  obtain ⟨honly, hexcept⟩ := side?_toJson body
  rw [toJson, read, honly, hexcept]

theorem read_canonical (filter : String) (value : Json) :
    read filter (canonical value) = read filter value := by
  cases value with
  | bool b => rfl
  | null => exact read_toJson filter none
  | array xs => exact read_toJson filter ⟨some xs, .none⟩
  | object fields => exact read_toJson filter ⟨side? .only fields, side? .except fields⟩
  | number n => exact read_toJson filter ⟨some [.number n], .none⟩
  | string s => exact read_toJson filter ⟨some [.string s], .none⟩

theorem canonical_toJson (body : SetBody) : canonical body.toJson = body.toJson := by
  obtain ⟨honly, hexcept⟩ := side?_toJson body
  rw [toJson, canonical, honly, hexcept, toJson]

theorem isCanonical_canonical (value : Json) : IsCanonical (canonical value) := by
  cases value with
  | bool b => exact .inl ⟨b, rfl⟩
  | _ => exact .inr ⟨_, rfl⟩

/-- Nothing is left to write out. -/
theorem canonical_of_isCanonical {value : Json} (h : IsCanonical value) :
    canonical value = value := by
  rcases h with ⟨b, rfl⟩ | ⟨body, rfl⟩
  · rfl
  · exact canonical_toJson body

/-! ### Abbreviations -/

/-- One step of writing out the value of a set filter. -/
inductive Expands : Json → Json → Prop
  /-- A list by itself is what is wanted. -/
  | list (xs : List Json) : Expands (.array xs) (.object [(Side.only.key, .array xs)])
  /-- A text by itself is a list of one. -/
  | text (s : String) : Expands (.string s) (.object [(Side.only.key, .array [.string s])])
  /-- A number by itself is a list of one. -/
  | number (n : Number) : Expands (.number n) (.object [(Side.only.key, .array [.number n])])
  /-- A value on one side that is no list is a list of one, whatever it is. -/
  | single {side : Side} {value : Json} {fields : List (String × Json)}
      (hfind : Assoc.find? side.key fields = some value) (hnull : value ≠ .null)
      (hlist : ∀ xs, value ≠ .array xs) :
      Expands (.object fields) (.object (Assoc.insert side.key (.array [value]) fields))
  /-- A side that is `null` may as well be missing. -/
  | missing {side : Side} {fields : List (String × Json)}
      (hfind : Assoc.find? side.key fields = some .null) :
      Expands (.object fields) (.object (fields.filter fun field => ¬ field.1 = side.key))
  /-- Another key says nothing, wherever it stands and whatever it holds. -/
  | other {key : String} (hkey : ∀ side : Side, key ≠ side.key) (value : Json)
      (before after : List (String × Json)) :
      Expands (.object (before ++ (key, value) :: after)) (.object (before ++ after))

theorem listOf?_single {value : Json} (hnull : value ≠ .null) (hlist : ∀ xs, value ≠ .array xs) :
    listOf? value = some [value] := by
  cases value with
  | null => exact absurd rfl hnull
  | array xs => exact absurd rfl (hlist xs)
  | _ => rfl

theorem side?_insert_single {side : Side} {value : Json} {fields : List (String × Json)}
    (hfind : Assoc.find? side.key fields = some value) (hvalue : listOf? value = some [value])
    (side' : Side) :
    side? side' (Assoc.insert side.key (.array [value]) fields) = side? side' fields := by
  rw [side?, side?, Assoc.find?_insert]
  by_cases hside : side = side'
  · subst hside
    rw [if_pos rfl, hfind]
    exact hvalue.symm
  · have hkey : side.key ≠ side'.key := by
      cases side <;> cases side' <;> simp [Side.key] at hside ⊢
    rw [if_neg hkey]

theorem side?_missing {side : Side} {fields : List (String × Json)}
    (hfind : Assoc.find? side.key fields = some .null) (side' : Side) :
    side? side' (fields.filter fun field => ¬ field.1 = side.key) = side? side' fields := by
  rw [side?, side?, Assoc.find?_filter (· = side.key)]
  by_cases hkey : side'.key = side.key
  · rw [if_pos hkey, hkey, hfind]
    rfl
  · rw [if_neg hkey]

theorem side?_other {key : String} (hkey : ∀ side : Side, key ≠ side.key) (value : Json)
    (before after : List (String × Json)) (side : Side) :
    side? side (before ++ (key, value) :: after) = side? side (before ++ after) := by
  rw [side?, side?, Assoc.find?_append_cons (hkey side)]

/-- A step changes nothing in what is written out in the end. -/
theorem Expands.canonical_eq {value value' : Json} (h : Expands value value') :
    canonical value = canonical value' := by
  -- a value is written out from its two sides, and from nothing else
  have hsides {fields fields' : List (String × Json)}
      (hside : ∀ side, side? side fields' = side? side fields) :
      canonical (.object fields) = canonical (.object fields') := by
    rw [canonical, canonical, hside .only, hside .except]
  cases h with
  | list xs => exact (canonical_toJson ⟨some xs, .none⟩).symm
  | text s => exact (canonical_toJson ⟨some [.string s], .none⟩).symm
  | number n => exact (canonical_toJson ⟨some [.number n], .none⟩).symm
  | single hfind hnull hlist => exact hsides (side?_insert_single hfind (listOf?_single hnull hlist))
  | missing hfind => exact hsides (side?_missing hfind)
  | other hkey value before after =>
    exact hsides fun side => (side?_other hkey value before after side).symm

/-- Steps in either direction, one after the other. -/
theorem canonical_eq_of_eqvGen {value value' : Json} (h : Relation.EqvGen Expands value value') :
    canonical value = canonical value' := by
  induction h with
  | rel value value' h => exact h.canonical_eq
  | refl value => rfl
  | symm value value' _ ih => exact ih.symm
  | trans value value' value'' _ _ ih ih' => exact ih.trans ih'

/-- Values that are written out alike are read alike. -/
theorem read_eq_of_canonical_eq {value value' : Json} (h : canonical value = canonical value')
    (filter : String) : read filter value = read filter value' := by
  rw [← read_canonical filter value, h, read_canonical]

end SetBody

/-! ### Leaves of set filters -/

/-- The value of a leaf may be another abbreviation of the same, if a set filter has its name. -/
inductive Reworded (filters : FilterSet) (name : String) : Json → Json → Prop
  | same (value : Json) : Reworded filters name value value
  | sets {d : Descriptor} {value value' : Json} (hd : filters.find? name = some d) (hset : d.IsSet)
      (h : Relation.EqvGen SetBody.Expands value value') : Reworded filters name value value'

/-- A leaf of a set filter written out in full; other leaves stay. -/
def FilterSet.writeOut (filters : FilterSet) (name : String) (value : Json) : Json :=
  match filters.find? name with
  | some d => if d.IsSet then SetBody.canonical value else value
  | none => value

theorem FilterSet.writeOut_of_isSet {filters : FilterSet} {name : String} {d : Descriptor}
    (hd : filters.find? name = some d) (hset : d.IsSet) (value : Json) :
    filters.writeOut name value = SetBody.canonical value := by
  simp only [writeOut, hd, if_pos hset]

theorem FilterSet.writeOut_writeOut (filters : FilterSet) (name : String) (value : Json) :
    filters.writeOut name (filters.writeOut name value) = filters.writeOut name value := by
  unfold writeOut
  cases filters.find? name with
  | none => rfl
  | some d =>
    by_cases hset : d.IsSet
    · simp only [if_pos hset, SetBody.canonical_of_isCanonical (SetBody.isCanonical_canonical value)]
    · simp only [if_neg hset]

/-- A set filter sees nothing of a value but what it is when written out. -/
theorem Clause.compile_of_canonical_eq {d : Descriptor} (hset : d.IsSet) {value value' : Json}
    (h : SetBody.canonical value = SetBody.canonical value') (name : String) (table : BindTable) :
    (compile name d value).outcome table = (compile name d value').outcome table := by
  rw [compile_outcome_of_isSet hset, compile_outcome_of_isSet hset, Outline.sets, Outline.sets,
    SetBody.read_eq_of_canonical_eq h]

theorem Clause.compile_reworded {filters : FilterSet} {name : String} {value value' : Json}
    (h : Reworded filters name value value') {d : Descriptor} (hd : filters.find? name = some d)
    (table : BindTable) :
    (compile name d value).outcome table = (compile name d value').outcome table := by
  cases h with
  | same => rfl
  | sets hd' hset h =>
    cases hd.symm.trans hd'
    exact compile_of_canonical_eq hset (SetBody.canonical_eq_of_eqvGen h) name table

theorem Clause.compile_writeOut {filters : FilterSet} {name : String} {d : Descriptor}
    (hd : filters.find? name = some d) (value : Json) (table : BindTable) :
    (compile name d value).outcome table =
      (compile name d (filters.writeOut name value)).outcome table := by
  by_cases hset : d.IsSet
  · rw [FilterSet.writeOut_of_isSet hd hset]
    have hcanonical := SetBody.canonical_of_isCanonical (SetBody.isCanonical_canonical value)
    exact compile_of_canonical_eq hset hcanonical.symm name table
  · simp only [FilterSet.writeOut, hd, if_neg hset]

/-! ### Bodies -/

mutual
theorem Adjust.matched_mapBelow (f : String → Json → Json) {key : String} {combinator : Combinator}
    (hkey : Combinator.ofKey? key = some combinator) (value : Json)
    {rest rest' : List (String × Json)}
    (hrest : Matched (fun name leaf leaf' => leaf' = f name leaf) rest rest') :
    Matched (fun name leaf leaf' => leaf' = f name leaf) ((key, value) :: rest)
      ((key, mapBelow f value) :: rest') := by
  match value with
  | .object fields =>
    rw [mapBelow]
    exact .nested hkey (matched_mapLeaves f fields) hrest
  | .null | .bool _ | .number _ | .string _ | .array _ =>
    simp only [mapBelow]
    exact .malformed hkey (by nofun) (by nofun) hrest

/-- A body matches the one with what a function makes of its leaves. -/
theorem Adjust.matched_mapLeaves (f : String → Json → Json) (fields : List (String × Json)) :
    Matched (fun name leaf leaf' => leaf' = f name leaf) fields (mapLeaves f fields) := by
  match fields with
  | [] =>
    rw [mapLeaves]
    exact .nil
  | (key, value) :: rest =>
    have hrest := matched_mapLeaves f rest
    cases hkey : Combinator.ofKey? key with
    | some combinator =>
      rw [mapLeaves_nested f hkey]
      exact matched_mapBelow f hkey value hrest
    | none =>
      rw [mapLeaves_leaf f hkey]
      exact .leaf hkey rfl hrest
end

theorem Compiler.compile_reworded {compiler : Compiler} {b b' : Body}
    {fields fields' : List (String × Json)} (hb : b.fields? = some fields)
    (hb' : b'.fields? = some fields') (h : Matched (Reworded compiler.filters) fields fields')
    (default : Combinator) :
    (compiler.compile b' default).result = (compiler.compile b default).result := by
  have hrelated : ∀ name value value', Reworded compiler.filters name value value' →
      ∀ d, compiler.filters.find? name = some d → ∀ table,
        (Clause.compile name d value).outcome table =
          (Clause.compile name d value').outcome table := by
    intro name value value' hvalue d hd table
    exact Clause.compile_reworded hvalue hd table
  exact (compile_matched_eq hrelated hb hb' h default).symm

theorem Compiler.compile_writeOut {compiler : Compiler} {b : Body} {fields : List (String × Json)}
    (hb : b.fields? = some fields) (default : Combinator) :
    (compiler.compile (.object (Adjust.mapLeaves compiler.filters.writeOut fields)) default).result =
      (compiler.compile b default).result := by
  have hrelated : ∀ name value value', value' = compiler.filters.writeOut name value →
      ∀ d, compiler.filters.find? name = some d → ∀ table,
        (Clause.compile name d value).outcome table =
          (Clause.compile name d value').outcome table := by
    intro name value value' hvalue d hd table
    rw [hvalue]
    exact Clause.compile_writeOut hd value table
  have hmatched := Adjust.matched_mapLeaves compiler.filters.writeOut fields
  exact (compile_matched_eq hrelated hb rfl hmatched default).symm

/-- Leaves of set filters may be reworded at any place of a body, and all of them may be written out
in full: the body compiles to the same, be it a predicate with its table or an error. Writing out
what is written out changes nothing, and it leaves no leaf of a set filter that is abbreviated. -/
theorem Compiler.sets_written_out (compiler : Compiler) (b : Body) (fields : List (String × Json))
    (hb : b.fields? = some fields) (default : Combinator) :
    (∀ (b' : Body) (fields' : List (String × Json)), b'.fields? = some fields' →
      Matched (Reworded compiler.filters) fields fields' →
      (compiler.compile b' default).result = (compiler.compile b default).result) ∧
    let writtenOut := Adjust.mapLeaves compiler.filters.writeOut fields
    (compiler.compile (.object writtenOut) default).result = (compiler.compile b default).result ∧
      Adjust.mapLeaves compiler.filters.writeOut writtenOut = writtenOut ∧
      ∀ (path : List Nat) (mapping : List (String × Json)) (name : String) (value : Json)
        (d : Descriptor), Adjust.mappingAt? path writtenOut = some mapping →
        (name, value) ∈ mapping → Combinator.ofKey? name = none →
        compiler.filters.find? name = some d → d.IsSet → SetBody.IsCanonical value := by
  refine ⟨?_, compile_writeOut hb default, ?_, ?_⟩
  · intro b' fields' hb' h
    exact compile_reworded hb hb' h default
  · rw [Adjust.mapLeaves_mapLeaves]
    simp only [FilterSet.writeOut_writeOut]
  · intro path mapping name value d hmapping hmem hname hd hset
    -- every leaf of the result was written out, and what was written out is canonical
    rw [Adjust.mappingAt?_mapLeaves] at hmapping
    obtain ⟨before, -, rfl⟩ := Option.map_eq_some_iff.1 hmapping
    obtain ⟨value, rfl⟩ := Adjust.leaf_of_mem_mapLeaves hmem hname
    rw [FilterSet.writeOut_of_isSet hd hset]
    exact SetBody.isCanonical_canonical value

/-- Posts on a subject by some authors, with abbreviated criteria. -/
def Body.tersePosts : List (String × Json) :=
  [("any", .object [
      ("tag", .string "rust"),
      ("author", .object [("note", .null), ("except", .null), ("only", .int 7)])]),
    ("tag", .array [.string "lean"])]

/-- The same with the author's criterion reworded in two steps, and with all criteria written out. -/
theorem Compiler.sets_written_out_tersePosts :
    let reworded := [("any", Json.object [
        ("tag", .object [("only", .array [.string "rust"])]),
        ("author", .object [("except", .null), ("only", .array [.int 7])])]),
      ("tag", .array [.string "lean"])]
    let writtenOut := [("any", Json.object [
        ("tag", .object [("only", .array [.string "rust"])]),
        ("author", .object [("only", .array [.int 7])])]),
      ("tag", .object [("only", .array [.string "lean"])])]
    ((ofFilters .posts).compile (.object reworded) .all).result =
        ((ofFilters .posts).compile (.object Body.tersePosts) .all).result ∧
      ((ofFilters .posts).compile (.object writtenOut) .all).result =
        ((ofFilters .posts).compile (.object Body.tersePosts) .all).result ∧
      ((ofFilters .posts).compile (.object Body.tersePosts) .all).result.map (·.1) =
        .ok (.sql ("(((posts.tag IN (:p1)) OR (posts.author_id IN (:p2))) AND " ++
          "(posts.tag IN (:p3)))")) := by
  intro reworded writtenOut
  obtain ⟨hreworded, hwrittenOut, -⟩ :=
    sets_written_out (ofFilters .posts) (.object Body.tersePosts) Body.tersePosts rfl .all
  have htag : Reworded .posts "tag" (.string "rust") (.object [("only", .array [.string "rust"])]) :=
    .sets (d := .ofKind .mappedList "posts.tag") rfl (by decide) (.rel _ _ (.text "rust"))
  have hauthor : Reworded .posts "author"
      (.object [("note", .null), ("except", .null), ("only", .int 7)])
      (.object [("except", .null), ("only", .array [.int 7])]) := by
    refine .sets (d := (Descriptor.ofKind .reference "posts.author_id").withClassName "User") rfl
      (by decide) (.trans _ (.object [("except", .null), ("only", .int 7)]) _ (.rel _ _ ?_)
        (.rel _ _ ?_))
    · have hkey : ∀ side : Side, "note" ≠ side.key := by
        intro side
        cases side <;> decide
      exact .other hkey .null [] [("except", .null), ("only", .int 7)]
    · exact @SetBody.Expands.single .only (.int 7) _ rfl nofun nofun
  have hmatched : Matched (Reworded .posts) Body.tersePosts reworded :=
    .nested (Combinator.ofKey?_key .any) (.leaf rfl htag (.leaf rfl hauthor .nil))
      (.leaf rfl (.same _) .nil)
  exact ⟨hreworded (.object reworded) reworded rfl hmatched, hwrittenOut, by decide +kernel⟩

end Criteria
