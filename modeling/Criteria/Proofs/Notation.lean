import Criteria.RequestParams
import Mathlib.Data.List.Chain

/-!
# Bracket notation is read back

A body whose leaves are texts is spelt as request parameters by listing its leaves in document
order: the path to a leaf becomes a key, with the empty text for a list position. Main statement:
`RequestParams.toBody_ofFields`, that reading the parameters gives back the body, whenever bracket
notation can tell the body from others (`IsExpressible`).
-/

namespace Criteria.RequestParams

/-! ### Spelling a body -/

/-- The key of a path: its first segment, and the others in brackets. -/
def keyText : List String → String
  | [] => ""
  | name :: segments =>
    String.ofList (name.toList ++ segments.flatMap fun segment => '[' :: segment.toList ++ [']'])

/-- The leaf below one more segment. -/
def under (segment : String) (leaf : List String × String) : List String × String :=
  (segment :: leaf.1, leaf.2)

mutual
/-- The texts in a value, each with the path to it, in document order. -/
def leaves : Json → List (List String × String)
  | .string text => [([], text)]
  | .array elements => leavesList elements
  | .object fields => leavesFields fields
  | _ => []

/-- The leaves of a list's elements. -/
def leavesList : List Json → List (List String × String)
  | [] => []
  | element :: rest => (leaves element).map (under "") ++ leavesList rest

/-- The leaves of a mapping's fields. -/
def leavesFields : List (String × Json) → List (List String × String)
  | [] => []
  | (key, value) :: rest => (leaves value).map (under key) ++ leavesFields rest
end

/-- The parameters that spell a body. -/
def ofFields (fields : List (String × Json)) : RequestParams :=
  ⟨(leavesFields fields).map fun leaf => (keyText leaf.1, leaf.2)⟩

/-! ### What bracket notation can spell -/

/-- A name that may begin a key. -/
def IsTopKey (key : String) : Prop :=
  key ≠ "" ∧ '[' ∉ key.toList

/-- A name that may stand in brackets. -/
def IsNestedKey (key : String) : Prop :=
  key ≠ "" ∧ ']' ∉ key.toList

/-- An element of a list: a text, or a mapping of names to texts. -/
inductive IsElement : Json → Prop where
  | string (text : String) : IsElement (.string text)
  | mapping {fields : List (String × Json)} (nonempty : fields ≠ [])
      (distinct : (Assoc.keys fields).Nodup)
      (named : ∀ field ∈ fields, IsNestedKey field.1)
      (flat : ∀ field ∈ fields, ∃ text, field.2 = .string text) : IsElement (.object fields)

/-- One element of a list may follow another: a mapping that follows a mapping begins with a key
that the first one has, for else it would be taken for its continuation. -/
def MayFollow : Json → Json → Prop
  | .object fields, .object next => ∀ field ∈ next.head?, Assoc.hasKey field.1 fields
  | _, _ => True

/-- A value that the rest of a key may spell: a text, a list or a mapping. -/
inductive IsValue : Json → Prop where
  | string (text : String) : IsValue (.string text)
  | list {elements : List Json} (nonempty : elements ≠ [])
      (each : ∀ element ∈ elements, IsElement element)
      (separate : elements.IsChain MayFollow) : IsValue (.array elements)
  | mapping {fields : List (String × Json)} (nonempty : fields ≠ [])
      (distinct : (Assoc.keys fields).Nodup)
      (named : ∀ field ∈ fields, IsNestedKey field.1)
      (values : ∀ field ∈ fields, IsValue field.2) : IsValue (.object fields)

/-- A body that request parameters can spell. -/
structure IsExpressible (fields : List (String × Json)) : Prop where
  distinct : (Assoc.keys fields).Nodup
  named : ∀ field ∈ fields, IsTopKey field.1
  values : ∀ field ∈ fields, IsValue field.2
  short : ∀ leaf ∈ leavesFields fields, leaf.1.length ≤ maxSegments

/-! ### Keys are split as they were joined -/

/-- A segment is read up to its closing bracket. -/
theorem bracketed_segment (seen segment rest : List Char) (h : ']' ∉ segment) :
    bracketed (some seen) (segment ++ ']' :: rest) =
      (bracketed none rest).map (String.ofList (seen.reverse ++ segment) :: ·) := by
  induction segment generalizing seen with
  | nil => simp [bracketed]
  | cons c cs ih =>
    rw [List.mem_cons, not_or] at h
    rw [List.cons_append, bracketed, if_neg (Ne.symm h.1), ih _ h.2]
    simp

theorem bracketed_segments (segments : List String) (h : ∀ s ∈ segments, ']' ∉ s.toList) :
    bracketed none (segments.flatMap fun s => '[' :: s.toList ++ [']']) = some segments := by
  induction segments with
  | nil => rfl
  | cons s rest ih =>
    rw [List.forall_mem_cons] at h
    rw [List.flatMap_cons, List.cons_append, List.cons_append, bracketed, if_pos rfl,
      List.append_assoc, List.singleton_append, bracketed_segment _ _ _ h.1, ih h.2]
    simp

/-- The name of a key stands in front of its first opening bracket. -/
theorem cut_keyText {name : String} (hname : '[' ∉ name.toList) (segments : List String) :
    (keyText (name :: segments)).toList.takeWhile (· != '[') = name.toList ∧
      (keyText (name :: segments)).toList.dropWhile (· != '[') =
        segments.flatMap fun s => '[' :: s.toList ++ [']'] := by
  have hno : ∀ c ∈ name.toList, (c != '[') = true := by
    intro c hc
    simpa using fun e : c = '[' => hname (e ▸ hc)
  rw [keyText, String.toList_ofList, List.takeWhile_append_of_pos hno,
    List.dropWhile_append_of_pos hno]
  cases segments with
  | nil => simp
  | cons s rest => simp

theorem splitKey_keyText {name : String} {segments : List String} (hname : '[' ∉ name.toList)
    (hsegments : ∀ s ∈ segments, ']' ∉ s.toList)
    (hshort : (name :: segments).length ≤ maxSegments) :
    splitKey (keyText (name :: segments)) = name :: segments := by
  obtain ⟨htake, hdrop⟩ := cut_keyText hname segments
  simp only [splitKey, hdrop, htake, bracketed_segments segments hsegments, String.ofList_toList,
    if_pos hshort]

/-! ### Writing all leaves of a value -/

/-- Write leaves below a value, one after the other. -/
def writeAll (node : Json) (found : List (List String × String)) : Json :=
  found.foldl (fun node leaf => write leaf.2 leaf.1 node) node

theorem writeAll_append (node : Json) (found more : List (List String × String)) :
    writeAll node (found ++ more) = writeAll (writeAll node found) more :=
  List.foldl_append ..

theorem writeAll_cons (node : Json) (leaf : List String × String)
    (found : List (List String × String)) :
    writeAll node (leaf :: found) = writeAll (write leaf.2 leaf.1 node) found := rfl

/-- What is written under one key changes that field only, once for all of it. -/
theorem writeAll_field {key : String} (hkey : key ≠ "") (leaf : List String × String)
    (found : List (List String × String)) (node : Json) :
    writeAll node ((leaf :: found).map (under key)) = .object (Assoc.alter key
      (fun child => writeAll (child.getD .null) (leaf :: found)) (fieldsOf node)) := by
  induction found generalizing leaf node with
  | nil => simp [writeAll, under, write, hkey]
  | cons next found ih =>
    rw [List.map_cons, writeAll_cons, ih]
    simp only [under, write, hkey, if_false, fieldsOf, Assoc.alter_alter, Option.getD_some,
      writeAll_cons]

/-- The fields of a mapping are written behind those that it has. -/
theorem writeAll_fields {fields : List (String × Json)} (hfields : fields ≠ []) (node : Json)
    (distinct : (Assoc.keys (fieldsOf node ++ fields)).Nodup)
    (named : ∀ field ∈ fields, field.1 ≠ "")
    (each : ∀ field ∈ fields, leaves field.2 ≠ [] ∧ writeAll .null (leaves field.2) = field.2) :
    writeAll node (leavesFields fields) = .object (fieldsOf node ++ fields) := by
  induction fields generalizing node with
  | nil => contradiction
  | cons field rest ih =>
    obtain ⟨key, value⟩ := field
    simp only [List.forall_mem_cons] at named each
    obtain ⟨leaf, found, hleaves⟩ := List.exists_cons_of_ne_nil each.1.1
    have hnew : key ∉ Assoc.keys (fieldsOf node) := by
      intro hmem
      simp only [Assoc.keys, List.map_append, List.map_cons, List.nodup_append] at distinct
      exact distinct.2.2 key hmem key List.mem_cons_self rfl
    have hwritten : writeAll node ((leaves value).map (under key)) =
        .object (fieldsOf node ++ [(key, value)]) := by
      rw [hleaves, writeAll_field named.1, Assoc.alter_of_notMem hnew, Option.getD_none, ← hleaves,
        each.1.2]
    rw [leavesFields, writeAll_append, hwritten]
    cases rest with
    | nil => rfl
    | cons next rest =>
      rw [ih (by simp) _ (by simpa [fieldsOf] using distinct) named.2 each.2]
      simp [fieldsOf]

/-! ### Lists -/

/-- Names that the last mapping of a list has not are written into it. -/
theorem writeAll_last {fields : List (String × Json)} (front : List Json)
    (filled : List (String × Json)) (distinct : (Assoc.keys (filled ++ fields)).Nodup)
    (named : ∀ field ∈ fields, field.1 ≠ "")
    (flat : ∀ field ∈ fields, ∃ text, field.2 = .string text) :
    writeAll (.array (front ++ [.object filled])) ((leavesFields fields).map (under "")) =
      .array (front ++ [.object (filled ++ fields)]) := by
  induction fields generalizing filled with
  | nil => simp [leavesFields, writeAll]
  | cons field rest ih =>
    obtain ⟨key, value⟩ := field
    simp only [List.forall_mem_cons] at named flat
    obtain ⟨text, rfl⟩ := flat.1
    have hnew : key ∉ Assoc.keys filled := by
      intro hmem
      simp only [Assoc.keys, List.map_append, List.map_cons, List.nodup_append] at distinct
      exact distinct.2.2 key hmem key List.mem_cons_self rfl
    have hlast : lastOrNew (front ++ [.object filled]) key = (front, .object filled) := by
      simp [lastOrNew, Assoc.hasKey, (Assoc.find?_eq_none_iff key filled).2 hnew]
    have hstep : write text ["", key] (.array (front ++ [.object filled])) =
        .array (front ++ [.object (filled ++ [(key, .string text)])]) := by
      simp only [write, if_true, elementsOf, hlast, named.1, if_false, fieldsOf,
        Assoc.alter_of_notMem hnew]
    simp only [leavesFields, leaves, List.map_cons, List.map_nil, List.cons_append,
      List.nil_append, writeAll_cons, under, hstep]
    rw [ih _ (by simpa using distinct) named.2 flat.2]
    simp

/-- An element is written behind the elements that a list has. -/
theorem writeAll_element {element : Json} (h : IsElement element) (node : Json)
    (separate : ∀ last ∈ (elementsOf node).getLast?, MayFollow last element) :
    writeAll node ((leaves element).map (under "")) = .array (elementsOf node ++ [element]) := by
  cases h with
  | string text => simp [leaves, under, writeAll, write]
  | @mapping fields nonempty distinct named flat =>
    obtain ⟨⟨key, value⟩, rest, rfl⟩ := List.exists_cons_of_ne_nil nonempty
    simp only [List.forall_mem_cons] at named flat
    obtain ⟨text, rfl⟩ := flat.1
    have hnew : lastOrNew (elementsOf node) key = (elementsOf node, .object []) := by
      unfold lastOrNew
      split
      · next filled hlast =>
        rw [if_pos (separate _ hlast _ rfl)]
      · rfl
    have hfirst : write text ["", key] node =
        .array (elementsOf node ++ [.object [(key, .string text)]]) := by
      simp only [write, if_true, hnew, named.1.1, if_false, fieldsOf, Assoc.alter]
    simp only [leaves, leavesFields, List.map_cons, List.map_nil, List.cons_append,
      List.nil_append, writeAll_cons, under, hfirst]
    exact writeAll_last _ [(key, .string text)] distinct (fun field hf => (named.2 field hf).1)
      flat.2

theorem writeAll_list {elements : List Json} (nonempty : elements ≠ []) (node : Json)
    (each : ∀ element ∈ elements, IsElement element)
    (separate : (elementsOf node ++ elements).IsChain MayFollow) :
    writeAll node (leavesList elements) = .array (elementsOf node ++ elements) := by
  induction elements generalizing node with
  | nil => contradiction
  | cons element rest ih =>
    simp only [List.forall_mem_cons] at each
    have hwritten := writeAll_element each.1 node
      (fun last hlast => (List.isChain_append.1 separate).2.2 last hlast element rfl)
    rw [leavesList, writeAll_append, hwritten]
    cases rest with
    | nil => rfl
    | cons next rest =>
      rw [ih (by simp) _ each.2 (by simpa [elementsOf] using separate)]
      simp [elementsOf]

/-! ### Values -/

theorem leavesFields_ne_nil {fields : List (String × Json)} (nonempty : fields ≠ [])
    (each : ∀ field ∈ fields, leaves field.2 ≠ []) : leavesFields fields ≠ [] := by
  obtain ⟨⟨key, value⟩, rest, rfl⟩ := List.exists_cons_of_ne_nil nonempty
  have := each _ List.mem_cons_self
  simp [leavesFields, this]

theorem IsElement.leaves_ne_nil {element : Json} (h : IsElement element) : leaves element ≠ [] := by
  cases h with
  | string text => simp [leaves]
  | mapping nonempty distinct named flat =>
    apply leavesFields_ne_nil nonempty
    intro field hf
    obtain ⟨text, htext⟩ := flat field hf
    simp [htext, leaves]

theorem IsValue.leaves_ne_nil {value : Json} (h : IsValue value) : leaves value ≠ [] := by
  induction h with
  | string text => simp [leaves]
  | list nonempty each separate =>
    obtain ⟨element, rest, rfl⟩ := List.exists_cons_of_ne_nil nonempty
    have := (each element List.mem_cons_self).leaves_ne_nil
    simp [leaves, leavesList, this]
  | mapping nonempty distinct named values ih => exact leavesFields_ne_nil nonempty ih

/-- The leaves of a value, written into an empty place, make up the value. -/
theorem writeAll_leaves {value : Json} (h : IsValue value) :
    writeAll .null (leaves value) = value := by
  induction h with
  | string text => rfl
  | list nonempty each separate => exact writeAll_list nonempty .null each separate
  | mapping nonempty distinct named values ih =>
    exact writeAll_fields nonempty .null distinct (fun field hf => (named field hf).1)
      (fun field hf => ⟨(values field hf).leaves_ne_nil, ih field hf⟩)

/-- A segment below a value closes no bracket. -/
theorem bracket_notMem_leavesFields {fields : List (String × Json)}
    (named : ∀ field ∈ fields, IsNestedKey field.1)
    (each : ∀ field ∈ fields, ∀ leaf ∈ leaves field.2, ∀ s ∈ leaf.1, ']' ∉ s.toList) :
    ∀ leaf ∈ leavesFields fields, ∀ s ∈ leaf.1, ']' ∉ s.toList := by
  induction fields with
  | nil => simp [leavesFields]
  | cons field rest ih =>
    obtain ⟨key, value⟩ := field
    simp only [List.forall_mem_cons] at named each
    intro leaf hleaf
    rw [leavesFields, List.mem_append] at hleaf
    obtain hleaf | hleaf := hleaf
    · obtain ⟨below, hbelow, rfl⟩ := List.mem_map.1 hleaf
      exact List.forall_mem_cons.2 ⟨named.1.2, each.1 below hbelow⟩
    · exact ih named.2 each.2 leaf hleaf

theorem bracket_notMem_element {element : Json} (h : IsElement element) :
    ∀ leaf ∈ leaves element, ∀ s ∈ leaf.1, ']' ∉ s.toList := by
  cases h with
  | string text => simp [leaves]
  | mapping nonempty distinct named flat =>
    apply bracket_notMem_leavesFields named
    intro field hf
    obtain ⟨text, htext⟩ := flat field hf
    simp [htext, leaves]

theorem bracket_notMem_leavesList {elements : List Json}
    (each : ∀ element ∈ elements, IsElement element) :
    ∀ leaf ∈ leavesList elements, ∀ s ∈ leaf.1, ']' ∉ s.toList := by
  induction elements with
  | nil => simp [leavesList]
  | cons element rest ih =>
    simp only [List.forall_mem_cons] at each
    intro leaf hleaf
    rw [leavesList, List.mem_append] at hleaf
    obtain hleaf | hleaf := hleaf
    · obtain ⟨below, hbelow, rfl⟩ := List.mem_map.1 hleaf
      exact List.forall_mem_cons.2 ⟨by simp, bracket_notMem_element each.1 below hbelow⟩
    · exact ih each.2 leaf hleaf

theorem bracket_notMem_leaves {value : Json} (h : IsValue value) :
    ∀ leaf ∈ leaves value, ∀ s ∈ leaf.1, ']' ∉ s.toList := by
  induction h with
  | string text => simp [leaves]
  | list nonempty each separate => exact bracket_notMem_leavesList each
  | mapping nonempty distinct named values ih => exact bracket_notMem_leavesFields named ih

/-! ### The round trip -/

/-- Every leaf of a body has a path that begins with the name of a field. -/
theorem exists_field_of_mem_leavesFields {fields : List (String × Json)}
    {leaf : List String × String} (h : leaf ∈ leavesFields fields) :
    ∃ field ∈ fields, ∃ below ∈ leaves field.2, leaf = under field.1 below := by
  induction fields with
  | nil => simp [leavesFields] at h
  | cons field rest ih =>
    obtain ⟨key, value⟩ := field
    rw [leavesFields, List.mem_append] at h
    obtain h | h := h
    · obtain ⟨below, hbelow, rfl⟩ := List.mem_map.1 h
      exact ⟨(key, value), List.mem_cons_self, below, hbelow, rfl⟩
    · obtain ⟨field, hfield, hrest⟩ := ih h
      exact ⟨field, List.mem_cons_of_mem _ hfield, hrest⟩

/-- A pair that spells a leaf is written at the path of the leaf. -/
theorem writePair_keyText {fields : List (String × Json)} (h : IsExpressible fields)
    {leaf : List String × String} (hleaf : leaf ∈ leavesFields fields) (node : Json) :
    writePair node (keyText leaf.1, leaf.2) = write leaf.2 leaf.1 node := by
  have hshort := h.short leaf hleaf
  obtain ⟨⟨name, value⟩, hfield, below, hbelow, rfl⟩ := exists_field_of_mem_leavesFields hleaf
  obtain ⟨hne, hopen⟩ := h.named _ hfield
  have hsplit := splitKey_keyText hopen
    (bracket_notMem_leaves (h.values _ hfield) below hbelow) hshort
  simp [writePair, isNamed, under, hsplit, hne]

/-- Reading the parameters that spell a body gives back the body, the order of names included. -/
theorem toBody_ofFields {fields : List (String × Json)} (h : IsExpressible fields) :
    (ofFields fields).toBody = .object fields := by
  have hpairs : (ofFields fields).toBody = writeAll (.object []) (leavesFields fields) := by
    rw [toBody, ofFields, List.foldl_map, writeAll]
    exact List.foldl_ext _ _ _ fun node leaf hleaf => writePair_keyText h hleaf node
  rw [hpairs]
  cases fields with
  | nil => rfl
  | cons field rest =>
    exact writeAll_fields (by simp) (.object []) h.distinct (fun field hf => (h.named field hf).1)
      (fun field hf => ⟨(h.values field hf).leaves_ne_nil, writeAll_leaves (h.values field hf)⟩)

/-- A list of mappings, cut where the key `a` repeats, and a list below a mapping. -/
theorem toBody_ofFields_rules :
    let fields := [
      ("rules", Json.array [.object [("a", .string "1"), ("b", .string "2")],
        .object [("a", .string "3")], .string "4"]),
      ("author", Json.object [("only", .array [.string "User/1"])])]
    IsExpressible fields ∧ (ofFields fields).toBody = .object fields := by
  intro fields
  have hrules : IsValue (Json.array [.object [("a", .string "1"), ("b", .string "2")],
      .object [("a", .string "3")], .string "4"]) := by
    refine .list (by simp) ?_ (by simp [MayFollow, Assoc.hasKey, Assoc.find?])
    simp only [List.forall_mem_cons, List.not_mem_nil, false_implies, implies_true, and_true]
    refine ⟨?_, ?_, .string "4"⟩
    · exact .mapping (by simp) (by decide) (by simp [IsNestedKey]) (by simp)
    · exact .mapping (by simp) (by decide) (by simp [IsNestedKey]) (by simp)
  have hauthor : IsValue (Json.object [("only", .array [.string "User/1"])]) := by
    refine .mapping (by simp) (by decide) (by simp [IsNestedKey]) ?_
    simp only [List.forall_mem_singleton]
    exact .list (by simp) (by simpa using .string "User/1") (.singleton _)
  have h : IsExpressible fields :=
    { distinct := by decide
      named := by simp [fields, IsTopKey]
      values := by simp [fields, hrules, hauthor]
      short := by simp [fields, leavesFields, leavesList, leaves, under, maxSegments] }
  exact ⟨h, toBody_ofFields h⟩

end Criteria.RequestParams
