import Criteria.Proofs.Kept

/-!
# Adjustments leaf by leaf

A transform that answers for every leaf does nothing to a body but exchange its leaves: whether an
adjustment succeeds depends on the combinators of the body only, and what comes out is the body with
a function applied to its leaves. Adjusting is therefore a functor: it preserves the identity and
composition, and every mapping keeps its place and its keys. Main statement: `adjust_leafwise`.
-/

namespace Criteria.Adjust

/-- The transform that answers for every leaf. -/
def Transform.total (f : String → Json → Json) : Transform := fun name value => .ok (f name value)

/-! ### A function applied to leaves -/

mutual
/-- Apply a function to the leaves below a combinator key. -/
def mapBelow (f : String → Json → Json) : Json → Json
  | .object fields => .object (mapLeaves f fields)
  | value => value

/-- Apply a function to the leaves of a mapping. -/
def mapLeaves (f : String → Json → Json) : List (String × Json) → List (String × Json)
  | [] => []
  | (key, value) :: rest =>
    let value := match Combinator.ofKey? key with
      | some _ => mapBelow f value
      | none => f key value
    (key, value) :: mapLeaves f rest
end

section
variable {key : String} {combinator : Combinator} (f : String → Json → Json)

theorem mapLeaves_nested (hkey : Combinator.ofKey? key = some combinator) (value : Json)
    (rest : List (String × Json)) :
    mapLeaves f ((key, value) :: rest) = (key, mapBelow f value) :: mapLeaves f rest := by
  simp only [mapLeaves, hkey]

theorem mapLeaves_leaf (hkey : Combinator.ofKey? key = none) (value : Json)
    (rest : List (String × Json)) :
    mapLeaves f ((key, value) :: rest) = (key, f key value) :: mapLeaves f rest := by
  simp only [mapLeaves, hkey]

mutual
theorem mapBelow_self (value : Json) : mapBelow (fun _ leaf => leaf) value = value := by
  match value with
  | .object fields => rw [mapBelow, mapLeaves_self fields]
  | .null | .bool _ | .number _ | .string _ | .array _ => simp [mapBelow]

theorem mapLeaves_self (fields : List (String × Json)) :
    mapLeaves (fun _ leaf => leaf) fields = fields := by
  match fields with
  | [] => rw [mapLeaves]
  | (key, value) :: rest =>
    cases hkey : Combinator.ofKey? key with
    | some combinator => rw [mapLeaves_nested _ hkey, mapBelow_self value, mapLeaves_self rest]
    | none => rw [mapLeaves_leaf _ hkey, mapLeaves_self rest]
end

variable (g : String → Json → Json)

mutual
theorem mapBelow_mapBelow (value : Json) :
    mapBelow g (mapBelow f value) = mapBelow (fun name leaf => g name (f name leaf)) value := by
  match value with
  | .object fields => simp only [mapBelow, mapLeaves_mapLeaves fields]
  | .null | .bool _ | .number _ | .string _ | .array _ => simp [mapBelow]

theorem mapLeaves_mapLeaves (fields : List (String × Json)) :
    mapLeaves g (mapLeaves f fields) = mapLeaves (fun name leaf => g name (f name leaf)) fields := by
  match fields with
  | [] => simp only [mapLeaves]
  | (key, value) :: rest =>
    cases hkey : Combinator.ofKey? key with
    | some combinator =>
      rw [mapLeaves_nested _ hkey, mapLeaves_nested _ hkey, mapLeaves_nested _ hkey,
        mapBelow_mapBelow value, mapLeaves_mapLeaves rest]
    | none =>
      rw [mapLeaves_leaf _ hkey, mapLeaves_leaf _ hkey, mapLeaves_leaf _ hkey,
        mapLeaves_mapLeaves rest]
end

end

/-! ### Steps of an adjustment -/

section
variable {key : String} {combinator : Combinator}

theorem entries_nested (hkey : Combinator.ofKey? key = some combinator) (transform : Transform)
    (depth : Nat) (value : Json) (rest : List (String × Json)) :
    (entries transform depth ((key, value) :: rest)).result =
      (group transform key (depth + 1) value).result.bind fun value' =>
        (entries transform depth rest).result.map ((key, value') :: ·) := by
  simp only [entries, hkey, Traced.result_bind]
  rfl

theorem entries_leaf (hkey : Combinator.ofKey? key = none) (transform : Transform) (depth : Nat)
    (value : Json) (rest : List (String × Json)) :
    (entries transform depth ((key, value) :: rest)).result =
      (transform key value).bind fun value' =>
        (entries transform depth rest).result.map ((key, value') :: ·) := by
  simp only [entries, hkey, Traced.result_bind, leaf]
  rfl

end

/-! ### Adjustments that cannot object -/

section
variable (f g : String → Json → Json)

mutual
/-- What stands in the place of a leaf is not looked into: an adjustment meets the combinators that
were there before. -/
theorem group_total (key : String) (depth : Nat) (value : Json) :
    (group (.total g) key depth (mapBelow f value)).result =
      (group keep key depth value).result.map fun _ =>
        mapBelow (fun name leaf => g name (f name leaf)) value := by
  rcases Nat.lt_or_ge maxBodyDepth depth with hdeep | hdepth
  · rw [group_tooDeep hdeep, group_tooDeep hdeep]
    rfl
  · match value with
    | .object fields =>
      rw [mapBelow, mapBelow, group_object hdepth, group_object hdepth, entries_total depth fields]
      cases (entries keep depth fields).result <;> rfl
    | .null | .bool _ | .number _ | .string _ | .array _ =>
      rw [mapBelow, group_malformed hdepth (by nofun), group_malformed hdepth (by nofun)]
      · rfl
      · intros
        contradiction

theorem entries_total (depth : Nat) (fields : List (String × Json)) :
    (entries (.total g) depth (mapLeaves f fields)).result =
      (entries keep depth fields).result.map fun _ =>
        mapLeaves (fun name leaf => g name (f name leaf)) fields := by
  match fields with
  | [] =>
    simp only [entries, mapLeaves]
    rfl
  | (key, value) :: rest =>
    cases hkey : Combinator.ofKey? key with
    -- the recursion follows the body before the exchange, so `f key value` is never taken apart
    | some combinator =>
      rw [mapLeaves_nested _ hkey, mapLeaves_nested _ hkey, entries_nested hkey,
        entries_nested hkey, group_total key (depth + 1) value, entries_total depth rest]
      cases (group keep key (depth + 1) value).result with
      | error e => rfl
      | ok kept => cases (entries keep depth rest).result <;> rfl
    | none =>
      rw [mapLeaves_leaf _ hkey, mapLeaves_leaf _ hkey, entries_leaf hkey, entries_leaf hkey,
        entries_total depth rest]
      cases (entries keep depth rest).result <;> rfl
end

/-- The combinators decide whether an adjustment succeeds, and the function what comes out. -/
theorem body_total (b : Body) :
    (body (.total f) b).result = (body keep b).result.map fun _ => mapBelow f b.toJson := by
  cases hfields : b.fields? with
  | none =>
    rw [body_of_no_fields hfields, body_of_no_fields hfields]
    rfl
  | some fields =>
    have hentries := entries_total (fun _ leaf => leaf) f 1 fields
    rw [mapLeaves_self] at hentries
    rw [body_of_fields hfields, body_of_fields hfields, hentries, Body.toJson_of_fields hfields,
      mapBelow]
    cases (entries keep 1 fields).result <;> rfl

theorem eq_of_body_total {b : Body} {adjusted : Json}
    (h : (body (.total f) b).result = .ok adjusted) : adjusted = mapBelow f b.toJson := by
  rw [body_total] at h
  obtain ⟨kept, -, heq⟩ := Except.map_eq_ok h
  exact heq

theorem body_total_total (b : Body) :
    ((body (.total f) b).result.bind fun adjusted => (body (.total g) (.json adjusted)).result) =
      (body (.total fun name value => g name (f name value)) b).result := by
  rw [body_total, body_total]
  cases hfields : b.fields? with
  | none =>
    rw [body_of_no_fields hfields]
    rfl
  | some fields =>
    have hbody : Body.fields? (.json (.object (mapLeaves f fields))) = some (mapLeaves f fields) :=
      rfl
    have hagain := body_of_fields hbody (.total g)
    rw [entries_total] at hagain
    rw [body_of_fields hfields, Body.toJson_of_fields hfields, mapBelow, mapBelow]
    cases hkept : (entries keep 1 fields).result with
    | error e => rfl
    | ok kept =>
      rw [hkept] at hagain
      exact hagain

end

/-! ### Places in a body -/

/-- An entry with the function applied to it, or to the leaves below it. -/
def mapEntry (f : String → Json → Json) : String × Json → String × Json
  | (key, value) =>
    match Combinator.ofKey? key with
    | some _ => (key, mapBelow f value)
    | none => (key, f key value)

theorem mapLeaves_eq_map (f : String → Json → Json) (fields : List (String × Json)) :
    mapLeaves f fields = fields.map (mapEntry f) := by
  induction fields with
  | nil => rw [mapLeaves, List.map_nil]
  | cons entry rest ih =>
    obtain ⟨key, value⟩ := entry
    rw [List.map_cons, ← ih]
    cases hkey : Combinator.ofKey? key with
    | some combinator => simp only [mapLeaves_nested f hkey, mapEntry, hkey]
    | none => simp only [mapLeaves_leaf f hkey, mapEntry, hkey]

/-- Every leaf of the result comes from one. -/
theorem leaf_of_mem_mapLeaves {f : String → Json → Json} {fields : List (String × Json)}
    {name : String} {value : Json} (h : (name, value) ∈ mapLeaves f fields)
    (hname : Combinator.ofKey? name = none) : ∃ before, value = f name before := by
  rw [mapLeaves_eq_map] at h
  obtain ⟨⟨key, before⟩, -, hentry⟩ := List.mem_map.1 h
  cases hkey : Combinator.ofKey? key with
  | some combinator =>
    simp only [mapEntry, hkey, Prod.mk.injEq] at hentry
    rw [hentry.1, hname] at hkey
    cases hkey
  | none =>
    simp only [mapEntry, hkey, Prod.mk.injEq] at hentry
    obtain ⟨rfl, rfl⟩ := hentry
    exact ⟨before, rfl⟩

@[simp] theorem keys_mapLeaves (f : String → Json → Json) (fields : List (String × Json)) :
    Assoc.keys (mapLeaves f fields) = Assoc.keys fields := by
  rw [mapLeaves_eq_map, Assoc.keys, Assoc.keys, List.map_map]
  apply List.map_congr_left
  rintro ⟨key, value⟩ -
  simp only [Function.comp_apply, mapEntry]
  split <;> rfl

/-- The mapping that a combinator holds. -/
def innerMapping? : String × Json → Option (List (String × Json))
  | (key, .object fields) => if (Combinator.ofKey? key).isSome then some fields else none
  | _ => none

/-- The mapping that a path leads to: each index is that of a combinator in the mapping before. -/
def mappingAt? : List Nat → List (String × Json) → Option (List (String × Json))
  | [], fields => some fields
  | i :: path, fields => (fields[i]?.bind innerMapping?).bind (mappingAt? path)

/-- A mapping that takes the place of a leaf is no mapping of a combinator. -/
theorem innerMapping?_mapEntry (f : String → Json → Json) (entry : String × Json) :
    innerMapping? (mapEntry f entry) = (innerMapping? entry).map (mapLeaves f) := by
  obtain ⟨key, value⟩ := entry
  cases hkey : Combinator.ofKey? key with
  | some combinator => cases value <;> simp [mapEntry, innerMapping?, mapBelow, hkey]
  | none =>
    have hleaf (v : Json) : innerMapping? (key, v) = none := by
      cases v <;> simp [innerMapping?, hkey]
    simp [mapEntry, hkey, hleaf]

/-- Paths lead to the same places where leaves have been exchanged. -/
theorem mappingAt?_mapLeaves (f : String → Json → Json) (path : List Nat)
    (fields : List (String × Json)) :
    mappingAt? path (mapLeaves f fields) = (mappingAt? path fields).map (mapLeaves f) := by
  induction path generalizing fields with
  | nil => rfl
  | cons i path ih =>
    have hentry : (mapLeaves f fields)[i]?.bind innerMapping? =
        (fields[i]?.bind innerMapping?).map (mapLeaves f) := by
      rw [mapLeaves_eq_map, List.getElem?_map]
      cases fields[i]? with
      | none => rfl
      | some entry => exact innerMapping?_mapEntry f entry
    rw [mappingAt?, mappingAt?, hentry]
    cases fields[i]?.bind innerMapping? with
    | none => rfl
    | some inner => exact ih inner

/-! ### The laws of adjusting -/

/-- An adjustment that keeps every leaf gives back the body, and every other one succeeds and fails
where that does. Two adjustments, one after the other, are one by the composition of what they do to
a leaf. Every mapping of the body is found in the result at its place, with its keys in their order;
there, a leaf has become what the function makes of its name and value. -/
theorem adjust_leafwise (b : Body) (f g : String → Json → Json) :
    (∀ adjusted, (body (.total fun _ value => value) b).result = .ok adjusted →
      adjusted = b.toJson) ∧
    ((body (.total f) b).result.map fun _ => ()) =
      ((body (.total fun _ value => value) b).result.map fun _ => ()) ∧
    ((body (.total f) b).result.bind fun adjusted => (body (.total g) (.json adjusted)).result) =
      (body (.total fun name value => g name (f name value)) b).result ∧
    ∀ adjusted, (body (.total f) b).result = .ok adjusted →
      ∃ fields fields', b.fields? = some fields ∧ adjusted = .object fields' ∧
        ∀ path,
          (mappingAt? path fields').map Assoc.keys = (mappingAt? path fields).map Assoc.keys ∧
          ∀ (mapping mapping' : List (String × Json)) (i : Nat) (name : String) (value : Json),
            mappingAt? path fields = some mapping → mappingAt? path fields' = some mapping' →
            mapping[i]? = some (name, value) → Combinator.ofKey? name = none →
            mapping'[i]? = some (name, f name value) := by
  -- an adjustment that succeeds is `mapLeaves` of the body, so its laws are those of `mapLeaves`
  refine ⟨?_, ?_, body_total_total f g b, ?_⟩
  · intro adjusted hadjusted
    rw [eq_of_body_total _ hadjusted, mapBelow_self]
  · show _ = (body keep b).result.map fun _ => ()
    rw [body_total]
    cases (body keep b).result <;> rfl
  · intro adjusted hadjusted
    cases hfields : b.fields? with
    | none =>
      rw [body_of_no_fields hfields] at hadjusted
      cases hadjusted
    | some fields =>
      refine ⟨fields, mapLeaves f fields, rfl, ?_, fun path => ⟨?_, ?_⟩⟩
      · rw [eq_of_body_total f hadjusted, Body.toJson_of_fields hfields, mapBelow]
      · rw [mappingAt?_mapLeaves]
        cases mappingAt? path fields with
        | none => rfl
        | some mapping => exact congrArg some (keys_mapLeaves f mapping)
      · intro mapping mapping' i name value hmapping hmapping' hentry hname
        -- the place of the leaf is found again under the same index
        rw [mappingAt?_mapLeaves, hmapping] at hmapping'
        cases hmapping'
        rw [mapLeaves_eq_map, List.getElem?_map, hentry]
        simp only [Option.map_some, mapEntry, hname]

/-- Posts of one page, on a subject or by an author. -/
def sortedPosts : List (String × Json) :=
  [("any", .object [("tag", .string "rust"), ("author", .int 7)]), ("page", .int 2)]

/-- A leaf in a mapping that could be taken for a conjunction. -/
def disguised (_ : String) (value : Json) : Json :=
  .object [("all", value)]

theorem adjust_leafwise_sortedPosts :
    (body (.total disguised) (.object sortedPosts)).result =
        .ok (.object [
          ("any", .object [
            ("tag", .object [("all", .string "rust")]), ("author", .object [("all", .int 7)])]),
          ("page", .object [("all", .int 2)])]) ∧
      (body (.total fun _ value => value) (.object sortedPosts)).result =
        .ok (.object sortedPosts) ∧
      (body (.total fun _ _ => .null) (.json (.object [
          ("any", .object [
            ("tag", .object [("all", .string "rust")]), ("author", .object [("all", .int 7)])]),
          ("page", .object [("all", .int 2)])]))).result =
        .ok (.object [("any", .object [("tag", .null), ("author", .null)]), ("page", .null)]) := by
  obtain ⟨hidentity, htogether, hcompose, -⟩ :=
    adjust_leafwise (.object sortedPosts) disguised fun _ _ => .null
  have hdisguised : (body (.total disguised) (.object sortedPosts)).result = .ok (.object [
      ("any", .object [
        ("tag", .object [("all", .string "rust")]), ("author", .object [("all", .int 7)])]),
      ("page", .object [("all", .int 2)])]) := rfl
  refine ⟨hdisguised, ?_, ?_⟩
  · rw [hdisguised] at htogether
    cases hkept : (body (.total fun _ value => value) (.object sortedPosts)).result with
    | error e =>
      rw [hkept] at htogether
      cases htogether
    | ok kept => rw [hidentity kept hkept, Body.toJson]
  · rw [hdisguised] at hcompose
    exact hcompose

end Criteria.Adjust
