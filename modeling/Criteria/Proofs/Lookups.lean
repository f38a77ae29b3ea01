import Criteria.Proofs.Objections
import Criteria.Proofs.Simulation
import Mathlib.Data.List.Basic
import Mathlib.Data.List.Induction

/-!
# Filters by look-up

A set of filters is an ordered map. It is filled pair by pair, and what it lists and finds depends
on the pairs alone: every name once, in the order in which the names came first, with the descriptor
that came last. Compiling asks a set for the names of the leaves of a body and for nothing else, so
neither the order of a configuration nor what was replaced in it shows in any result. Main
statements: `FilterSet.BuiltFrom.isMapOf`, `Compile.body_congr` and, from both,
`FilterSet.last_descriptors_decide`.
-/

namespace Criteria

/-! ### The last of equal names -/

namespace Assoc

variable {α : Type}

/-- The value of the last entry called `key`. -/
def last? (key : String) (entries : Assoc α) : Option α :=
  find? key entries.reverse

theorem last?_concat (key k : String) (v : α) (entries : Assoc α) :
    last? key (entries ++ [(k, v)]) = if k = key then some v else last? key entries := by
  rw [last?, List.reverse_append, List.reverse_singleton, List.singleton_append, find?_cons, last?]

theorem last?_eq_none_iff (key : String) (entries : Assoc α) :
    last? key entries = none ↔ key ∉ keys entries := by
  rw [last?, find?_eq_none_iff, keys, keys, List.map_reverse, List.mem_reverse]

end Assoc

/-! ### Sets made of pairs -/

namespace FilterSet

/-- A set was collected from pairs, and then filters were added to it one by one; the pairs are
those of the whole history. -/
inductive BuiltFrom : List (String × Descriptor) → FilterSet → Prop
  | collected (pairs : List (String × Descriptor)) : BuiltFrom pairs (ofList pairs)
  | inserted {pairs : List (String × Descriptor)} {filters : FilterSet}
      (h : BuiltFrom pairs filters) (name : String) (d : Descriptor) :
      BuiltFrom (pairs ++ [(name, d)]) (filters.insert name d)

/-- A set is the ordered map that some pairs describe. -/
structure IsMapOf (pairs : List (String × Descriptor)) (filters : FilterSet) : Prop where
  /-- No name is listed twice. -/
  nodup : filters.names.Nodup
  mem_names : ∀ name, name ∈ filters.names ↔ name ∈ Assoc.keys pairs
  /-- The names are listed in the order in which they came first. -/
  ordered : filters.names.Pairwise fun name name' =>
    (Assoc.keys pairs).idxOf name < (Assoc.keys pairs).idxOf name'
  /-- Every name is listed with the descriptor that came last. -/
  mem_entries : ∀ name d, (name, d) ∈ filters.entries ↔ Assoc.last? name pairs = some d
  /-- This descriptor is what a look-up answers with. -/
  find?_eq : ∀ name, filters.find? name = Assoc.last? name pairs
  /-- A look-up answers with nothing where a name never came. -/
  find?_eq_none : ∀ name, filters.find? name = none ↔ name ∉ Assoc.keys pairs

theorem ofList_concat (pairs : List (String × Descriptor)) (p : String × Descriptor) :
    ofList (pairs ++ [p]) = (ofList pairs).insert p.1 p.2 := by
  simp only [ofList, List.foldl_append, List.foldl_cons, List.foldl_nil]

theorem names_insert (filters : FilterSet) (name : String) (d : Descriptor) :
    (filters.insert name d).names =
      if name ∈ filters.names then filters.names else filters.names ++ [name] :=
  Assoc.keys_alter name _ filters.entries

/-- A set lists what its look-ups answer with. -/
theorem mem_entries_iff (filters : FilterSet) (name : String) (d : Descriptor) :
    (name, d) ∈ filters.entries ↔ filters.find? name = some d :=
  ⟨Assoc.find?_of_mem filters.nodup, Assoc.mem_of_find?⟩

theorem mem_names_iff (filters : FilterSet) (name : String) :
    name ∈ filters.names ↔ filters.find? name ≠ none := by
  rw [find?, Ne, Assoc.find?_eq_none_iff, not_not, names]

section
variable {pairs : List (String × Descriptor)} {filters : FilterSet}

/-- Look-ups and the order of the names say all about a map. -/
theorem isMapOf_of_find?_eq (hfind : ∀ name, filters.find? name = Assoc.last? name pairs)
    (hordered : filters.names.Pairwise fun name name' =>
      (Assoc.keys pairs).idxOf name < (Assoc.keys pairs).idxOf name') :
    IsMapOf pairs filters where
  nodup := filters.nodup
  mem_names name := by
    rw [mem_names_iff, hfind, Ne, Assoc.last?_eq_none_iff, not_not]
  ordered := hordered
  mem_entries name d := by
    rw [mem_entries_iff, hfind]
  find?_eq := hfind
  find?_eq_none name := by
    rw [hfind, Assoc.last?_eq_none_iff]

theorem isMapOf_empty : IsMapOf [] empty :=
  isMapOf_of_find?_eq (fun _ => rfl) .nil

/-- A name that is new comes behind all others, and one that is not keeps its place. -/
theorem IsMapOf.names_ordered (h : IsMapOf pairs filters) (name : String) (d : Descriptor) :
    (filters.insert name d).names.Pairwise fun n n' =>
      (Assoc.keys (pairs ++ [(name, d)])).idxOf n < (Assoc.keys (pairs ++ [(name, d)])).idxOf n' := by
  have hkeys : Assoc.keys (pairs ++ [(name, d)]) = Assoc.keys pairs ++ [name] := by
    simp [Assoc.keys]
  -- a pair at the end moves no name that is there already
  have hplace : ∀ n ∈ filters.names,
      (Assoc.keys pairs ++ [name]).idxOf n = (Assoc.keys pairs).idxOf n := by
    intro n hn
    exact List.idxOf_append_of_mem ((h.mem_names n).1 hn)
  have hordered : filters.names.Pairwise fun n n' =>
      (Assoc.keys pairs ++ [name]).idxOf n < (Assoc.keys pairs ++ [name]).idxOf n' := by
    apply h.ordered.imp_of_mem
    intro n n' hn hn' hlt
    rw [hplace n hn, hplace n' hn']
    exact hlt
  rw [hkeys, names_insert]
  by_cases hname : name ∈ filters.names
  · rw [if_pos hname]
    exact hordered
  · rw [if_neg hname, List.pairwise_append]
    refine ⟨hordered, List.pairwise_singleton _ _, ?_⟩
    intro n hn n' hn'
    rw [List.mem_singleton.1 hn', hplace n hn,
      List.idxOf_append_of_notMem (mt (h.mem_names name).2 hname)]
    have hlt := List.idxOf_lt_length_of_mem ((h.mem_names n).1 hn)
    omega

/-- Adding a filter is one more pair. -/
theorem IsMapOf.insert (h : IsMapOf pairs filters) (name : String) (d : Descriptor) :
    IsMapOf (pairs ++ [(name, d)]) (filters.insert name d) := by
  apply isMapOf_of_find?_eq
  · intro name'
    rw [find?_insert, Assoc.last?_concat, h.find?_eq]
  · exact h.names_ordered name d

/-- However a set was built, it is the map of its pairs. -/
theorem BuiltFrom.isMapOf (h : BuiltFrom pairs filters) : IsMapOf pairs filters := by
  induction h with
  | collected pairs =>
    -- what is collected in one go is added pair by pair, too
    induction pairs using List.reverseRecOn with
    | nil => exact isMapOf_empty
    | append_singleton pairs p ih =>
      rw [ofList_concat]
      exact ih.insert p.1 p.2
  | inserted _ name d ih => exact ih.insert name d

/-- Pairs that end alike under every name make sets with the same filters. -/
theorem BuiltFrom.find?_congr (h : BuiltFrom pairs filters)
    {pairs' : List (String × Descriptor)} {filters' : FilterSet} (h' : BuiltFrom pairs' filters')
    (hlast : ∀ name, Assoc.last? name pairs = Assoc.last? name pairs') (name : String) :
    filters.find? name = filters'.find? name := by
  rw [h.isMapOf.find?_eq, h'.isMapOf.find?_eq, hlast]

end

end FilterSet

/-! ### What compiling looks up -/

namespace Adjust

mutual
theorem ofKey?_of_mem_leavesBelow (value : Json) :
    ∀ leaf ∈ leavesBelow value, Combinator.ofKey? leaf.1 = none := by
  match value with
  | .object fields =>
    rw [leavesBelow]
    exact ofKey?_of_mem_leaves fields
  | .null | .bool _ | .number _ | .string _ | .array _ => simp [leavesBelow]

/-- No leaf stands under the key of a combinator. -/
theorem ofKey?_of_mem_leaves (fields : List (String × Json)) :
    ∀ leaf ∈ leaves fields, Combinator.ofKey? leaf.1 = none := by
  match fields with
  | [] => simp [leaves]
  | (key, value) :: rest =>
    rw [leaves]
    cases hkey : Combinator.ofKey? key with
    | some combinator =>
      rw [List.forall_mem_append]
      exact ⟨ofKey?_of_mem_leavesBelow value, ofKey?_of_mem_leaves rest⟩
    | none =>
      rw [List.forall_mem_cons]
      exact ⟨hkey, ofKey?_of_mem_leaves rest⟩
end

end Adjust

/-- The names of the leaves of a body, in the order of the document. -/
def Body.leafNames (b : Body) : List String :=
  match b.fields? with
  | some fields => Assoc.keys (Adjust.leaves fields)
  | none => []

theorem Body.leafNames_of_fields {b : Body} {fields : List (String × Json)}
    (h : b.fields? = some fields) : b.leafNames = Assoc.keys (Adjust.leaves fields) := by
  rw [leafNames, h]

theorem Body.ofKey?_of_mem_leafNames {b : Body} {name : String} (h : name ∈ b.leafNames) :
    Combinator.ofKey? name = none := by
  cases hfields : b.fields? with
  | none =>
    rw [leafNames, hfields] at h
    cases h
  | some fields =>
    rw [leafNames_of_fields hfields, Assoc.keys, List.mem_map] at h
    obtain ⟨leaf, hleaf, rfl⟩ := h
    exact Adjust.ofKey?_of_mem_leaves fields leaf hleaf

namespace Compile

section
variable {filters filters' : FilterSet}

mutual
theorem group_congr (key : String) (combinator : Combinator) (depth : Nat) (value : Json)
    (h : ∀ leaf ∈ Adjust.leavesBelow value, filters.find? leaf.1 = filters'.find? leaf.1) :
    group filters key combinator depth value = group filters' key combinator depth value := by
  match value with
  | .object fields =>
    rw [Adjust.leavesBelow] at h
    rw [group, group, entries_congr depth fields h]
  | .null | .bool _ | .number _ | .string _ | .array _ => simp only [group]

/-- Only the names of the leaves are looked up. -/
theorem entries_congr (depth : Nat) (fields : List (String × Json))
    (h : ∀ leaf ∈ Adjust.leaves fields, filters.find? leaf.1 = filters'.find? leaf.1) :
    entries filters depth fields = entries filters' depth fields := by
  match fields with
  | [] => rw [entries, entries]
  | (key, value) :: rest =>
    rw [Adjust.leaves] at h
    rw [entries_cons, entries_cons, entry, entry]
    cases hkey : Combinator.ofKey? key with
    | some combinator =>
      rw [hkey, List.forall_mem_append] at h
      simp only [group_congr key combinator (depth + 1) value h.1, entries_congr depth rest h.2]
    | none =>
      rw [hkey, List.forall_mem_cons] at h
      simp only [h.1, entries_congr depth rest h.2]
end

theorem mapping_congr (default : Combinator) (fields : List (String × Json))
    (h : ∀ leaf ∈ Adjust.leaves fields, filters.find? leaf.1 = filters'.find? leaf.1) :
    mapping filters default fields = mapping filters' default fields := by
  by_cases hlone : IsLone fields
  · obtain ⟨key, value, combinator, rfl, hkey⟩ := hlone
    simp only [Adjust.leaves, hkey, List.append_nil] at h
    rw [mapping_of_lone hkey, mapping_of_lone hkey, group_congr key combinator 1 value h]
  · rw [mapping_eq_joined hlone, mapping_eq_joined hlone, entries_congr 1 fields h]

/-- Sets that have the same filters for the leaves of a body make the same pass over it: the same
result, table and reports. -/
theorem body_congr (b : Body) (default : Combinator)
    (h : ∀ name ∈ b.leafNames, filters.find? name = filters'.find? name) :
    body filters b default = body filters' b default := by
  cases hfields : b.fields? with
  | none =>
    simp only [body, Body.mapping_of_no_fields hfields]
    rfl
  | some fields =>
    rw [Body.leafNames_of_fields hfields, Assoc.keys, List.forall_mem_map] at h
    -- no filter is looked up before the mapping of the body is read
    have hmapping : (.lift b.mapping : Pass (List (String × Json))) = pure fields :=
      congrArg Pass.lift (Body.mapping_of_fields hfields)
    simp only [body, hmapping, pure_bind, mapping_congr default fields h]

end

end Compile

theorem Compiler.compile_of_find?_eq {filters filters' : FilterSet} {b : Body}
    (h : ∀ name ∈ b.leafNames, filters.find? name = filters'.find? name) (table : BindTable)
    (default : Combinator) :
    (Compiler.mk filters table).compile b default =
      (Compiler.mk filters' table).compile b default := by
  rw [compile, compile, Compile.body_congr b default h]

/-- However a set of filters was built, in one go or one by one, it is the ordered map of its pairs.
Compiling a body depends on the set through the look-ups of the names of its leaves alone: the
result, the bind table and the reports are the same for every set that answers them alike. So sets
whose pairs end alike under every name compile every body alike, whatever the order of the pairs is
and whatever they replaced. -/
theorem FilterSet.last_descriptors_decide :
    (∀ pairs filters, BuiltFrom pairs filters → IsMapOf pairs filters) ∧
    (∀ (filters filters' : FilterSet) (b : Body),
      (∀ name ∈ b.leafNames, filters.find? name = filters'.find? name) →
      ∀ (table : BindTable) (default : Combinator),
        (Compiler.mk filters table).compile b default =
          (Compiler.mk filters' table).compile b default) ∧
    ∀ pairs pairs' filters filters', BuiltFrom pairs filters → BuiltFrom pairs' filters' →
      (∀ name, Assoc.last? name pairs = Assoc.last? name pairs') →
      ∀ (table : BindTable) (b : Body) (default : Combinator),
        (Compiler.mk filters table).compile b default =
          (Compiler.mk filters' table).compile b default := by
  refine ⟨fun _ _ h => h.isMapOf, ?_, ?_⟩
  · intro filters filters' b h table default
    exact Compiler.compile_of_find?_eq h table default
  · intro pairs pairs' filters filters' h h' hlast table b default
    apply Compiler.compile_of_find?_eq
    intro name _
    exact h.find?_congr h' hlast name

/-! ### A filter that is replaced -/

/-- Filters on posts, with the subject first in one column and then in another. -/
def FilterSet.movedTags : FilterSet :=
  (ofList [
    ("tag", .ofKind .mappedList "posts.topic"),
    ("order", .ofKind .passthrough "")]).insert "tag" (.ofKind .mappedList "posts.tag")

/-- The same filters in another order. -/
def FilterSet.sortedTags : FilterSet :=
  .ofList [("order", .ofKind .passthrough ""), ("tag", .ofKind .mappedList "posts.tag")]

/-- Posts on one subject, on one page. -/
def Body.anyRustPosts : Body :=
  .object [("any", .object [("tag", .string "rust")]), ("page", .int 2)]

/-- For this body, these filters are as good as all filters on posts. -/
theorem FilterSet.last_descriptors_decide_movedTags :
    movedTags.names.Nodup ∧
      movedTags.find? "tag" = some (.ofKind .mappedList "posts.tag") ∧
      movedTags.find? "page" = none ∧
      ((Compiler.ofFilters movedTags).compile .anyRustPosts .all).result =
        .ok (.sql "(((posts.tag IN (:p1))))", ⟨"p", #[.list [.text "rust"]]⟩) ∧
      ((Compiler.ofFilters sortedTags).compile .anyRustPosts .all).result =
        .ok (.sql "(((posts.tag IN (:p1))))", ⟨"p", #[.list [.text "rust"]]⟩) := by
  obtain ⟨hmaps, hlookups, hlasts⟩ := last_descriptors_decide
  have hmoved : BuiltFrom ([
      ("tag", .ofKind .mappedList "posts.topic"),
      ("order", .ofKind .passthrough "")] ++ [("tag", .ofKind .mappedList "posts.tag")]) movedTags :=
    .inserted (.collected _) "tag" _
  have hsorted : BuiltFrom [
      ("order", .ofKind .passthrough ""),
      ("tag", .ofKind .mappedList "posts.tag")] sortedTags :=
    .collected _
  have hmap := hmaps _ _ hmoved
  have hposts : ((Compiler.ofFilters .posts).compile .anyRustPosts .all).result =
      .ok (.sql "(((posts.tag IN (:p1))))", ⟨"p", #[.list [.text "rust"]]⟩) := by
    decide +kernel
  have hleaves : ∀ name ∈ Body.anyRustPosts.leafNames,
      movedTags.find? name = posts.find? name := by
    have hnames : Body.anyRustPosts.leafNames = ["tag", "page"] := rfl
    rw [hnames, List.forall_mem_cons, List.forall_mem_singleton]
    exact ⟨rfl, rfl⟩
  have hcompile : ((Compiler.ofFilters movedTags).compile .anyRustPosts .all).result =
      .ok (.sql "(((posts.tag IN (:p1))))", ⟨"p", #[.list [.text "rust"]]⟩) := by
    rw [← hposts]
    exact congrArg Traced.result (hlookups movedTags posts _ hleaves (.empty _) .all)
  refine ⟨hmap.nodup, hmap.find?_eq "tag", ?_, hcompile, ?_⟩
  · exact (hmap.find?_eq_none "page").2 (by decide)
  · rw [← hcompile]
    refine congrArg Traced.result (hlasts _ _ sortedTags movedTags hsorted hmoved ?_ (.empty _) _ _)
    intro name
    by_cases htag : "tag" = name <;> simp [Assoc.last?, Assoc.find?_cons, htag]

end Criteria
