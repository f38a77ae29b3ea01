import Criteria.RequestParams

/-!
# What request parameters spell

The body of request parameters is a mapping, whatever the pairs are. Its leaves are texts of the
pairs, nothing below its root is empty, its keys are names, and it is no deeper than a path may be
long. Writing a pair passes through values that are not of that shape; `Holds` says what is kept
there. Main statement: `toBody_holds`.
-/

namespace Criteria.RequestParams

/-! ### Steps of writing -/

theorem write_name {name : String} (hname : name ≠ "") (value : String) (rest : List String)
    (node : Json) :
    write value (name :: rest) node = .object
      (Assoc.alter name (fun child => write value rest (child.getD .null)) (fieldsOf node)) := by
  simp only [write, hname, if_false]

theorem write_end (value : String) (node : Json) :
    write value [""] node = .array (elementsOf node ++ [.string value]) := by
  simp only [write, if_true]

theorem write_element (value next : String) (rest : List String) (node : Json) :
    write value ("" :: next :: rest) node = .array ((lastOrNew (elementsOf node) next).1 ++
      [write value (next :: rest) (lastOrNew (elementsOf node) next).2]) := by
  simp only [write, if_true]

/-- A path goes on in a new mapping behind all elements, or in a mapping at the end that has not got
the next key. -/
theorem lastOrNew_cases (xs : List Json) (next : String) :
    lastOrNew xs next = (xs, .object []) ∨
      ∃ front fields, xs = front ++ [.object fields] ∧ next ∉ Assoc.keys fields ∧
        lastOrNew xs next = (front, .object fields) := by
  unfold lastOrNew
  split
  · next fields hlast =>
    split
    · exact Or.inl rfl
    · next hnew =>
      rw [Assoc.hasKey, Bool.not_eq_true, Option.isSome_eq_false_iff, Option.isNone_iff_eq_none,
        Assoc.find?_eq_none_iff] at hnew
      obtain ⟨front, rfl⟩ := List.getLast?_eq_some_iff.1 hlast
      refine Or.inr ⟨front, fields, rfl, hnew, ?_⟩
      rw [List.dropLast_concat]
  · exact Or.inl rfl

/-! ### Keys -/

theorem splitKey_ne_nil (key : String) : splitKey key ≠ [] := by
  simp only [splitKey]
  split
  · split
    · exact List.cons_ne_nil _ _
    · exact List.cons_ne_nil _ _
  · exact List.cons_ne_nil _ _

/-- The path of a key begins with a name, or the key has none. -/
theorem splitKey_cases (key : String) :
    (isNamed key = false ∧ (splitKey key).head? = some "") ∨
      ∃ name rest, splitKey key = name :: rest ∧ name ≠ "" := by
  obtain ⟨name, rest, hkey⟩ := List.exists_cons_of_ne_nil (splitKey_ne_nil key)
  by_cases hname : name = ""
  · left
    rw [isNamed, hkey, hname]
    exact ⟨rfl, rfl⟩
  · exact Or.inr ⟨name, rest, hkey, hname⟩

theorem writePair_of_unnamed {key : String} (hkey : isNamed key = false) (body : Json)
    (value : String) : writePair body (key, value) = body := by
  rw [writePair, hkey]
  rfl

theorem writePair_of_name {key name : String} {rest : List String}
    (hkey : splitKey key = name :: rest) (hname : name ≠ "") (body : Json) (value : String) :
    writePair body (key, value) = write value (name :: rest) body := by
  have hnamed : isNamed key = true := by
    rw [isNamed, hkey, List.head?_cons, bne_iff_ne]
    exact fun h => hname (Option.some.inj h)
  rw [writePair, if_pos hnamed, hkey]

theorem length_splitKey_le (key : String) : (splitKey key).length ≤ maxSegments := by
  have hone : 1 ≤ maxSegments := by decide
  simp only [splitKey]
  split
  · split
    · assumption
    · exact hone
  · exact hone

/-! ### The shape of values -/

/-- A value that some of the texts spell: its leaves are among them, no list and no mapping in it is
empty, keys are names and not repeated, and at most as many containers stand inside each other. -/
inductive IsSpelt (texts : List String) : Nat → Json → Prop
  | text {s : String} (h : s ∈ texts) (depth : Nat) : IsSpelt texts depth (.string s)
  | list {depth : Nat} {xs : List Json} (hne : xs ≠ []) (h : ∀ x ∈ xs, IsSpelt texts depth x) :
    IsSpelt texts (depth + 1) (.array xs)
  | mapping {depth : Nat} {fields : List (String × Json)} (hne : fields ≠ [])
      (hnodup : (Assoc.keys fields).Nodup) (hkeys : ∀ field ∈ fields, field.1 ≠ "")
      (h : ∀ field ∈ fields, IsSpelt texts depth field.2) :
    IsSpelt texts (depth + 1) (.object fields)

/-- What stands in the way of a path may be of any shape, if only what it holds is spelt. -/
structure Holds (texts : List String) (depth : Nat) (node : Json) : Prop where
  elements : ∀ x ∈ elementsOf node, IsSpelt texts (depth - 1) x
  nodup : (Assoc.keys (fieldsOf node)).Nodup
  keys : ∀ field ∈ fieldsOf node, field.1 ≠ ""
  fields : ∀ field ∈ fieldsOf node, IsSpelt texts (depth - 1) field.2

section
variable {texts : List String} {depth : Nat} {node : Json}

theorem IsSpelt.holds (h : IsSpelt texts depth node) : Holds texts depth node := by
  cases h with
  | text h depth => exact ⟨nofun, List.nodup_nil, nofun, nofun⟩
  | list hne h => exact ⟨h, List.nodup_nil, nofun, nofun⟩
  | mapping hne hnodup hkeys h => exact ⟨nofun, hnodup, hkeys, h⟩

theorem Holds.null : Holds texts depth .null :=
  ⟨nofun, List.nodup_nil, nofun, nofun⟩

theorem Holds.emptyMapping : Holds texts depth (.object []) :=
  ⟨nofun, List.nodup_nil, nofun, nofun⟩

/-- The mapping in which a path goes on behind a list, with the elements before it. -/
theorem Holds.lastOrNew (h : Holds texts (depth + 1) node) (next : String) :
    (∀ x ∈ (RequestParams.lastOrNew (elementsOf node) next).1, IsSpelt texts depth x) ∧
      Holds texts depth (RequestParams.lastOrNew (elementsOf node) next).2 := by
  rcases lastOrNew_cases (elementsOf node) next with hnew | ⟨front, fields, hxs, -, hlast⟩
  · rw [hnew]
    exact ⟨h.elements, .emptyMapping⟩
  · rw [hlast]
    have helements := h.elements
    rw [hxs, List.forall_mem_append, List.forall_mem_singleton] at helements
    exact ⟨helements.1, helements.2.holds⟩

/-- The value under a name, or `null` where there is none. -/
theorem Holds.child (h : Holds texts (depth + 1) node) (name : String) :
    Holds texts depth ((Assoc.find? name (fieldsOf node)).getD .null) := by
  cases hfind : Assoc.find? name (fieldsOf node) with
  | none => exact .null
  | some child => exact (h.fields _ (Assoc.mem_of_find? hfind)).holds

theorem IsSpelt.append {xs : List Json} {x : Json} (hxs : ∀ x ∈ xs, IsSpelt texts depth x)
    (hx : IsSpelt texts depth x) : IsSpelt texts (depth + 1) (.array (xs ++ [x])) := by
  apply IsSpelt.list (List.append_ne_nil_of_right_ne_nil xs (List.cons_ne_nil x []))
  rw [List.forall_mem_append, List.forall_mem_singleton]
  exact ⟨hxs, hx⟩

theorem IsSpelt.alter {name : String} (hname : name ≠ "") (h : Holds texts (depth + 1) node)
    {f : Option Json → Json}
    (hvalue : IsSpelt texts depth (f (Assoc.find? name (fieldsOf node)))) :
    IsSpelt texts (depth + 1) (.object (Assoc.alter name f (fieldsOf node))) := by
  refine .mapping ?_ (Assoc.nodup_keys_alter name f _ h.nodup) ?_ ?_
  · intro hnil
    have hkeys := congrArg (Assoc.find? name) hnil
    rw [Assoc.find?_alter, if_pos rfl] at hkeys
    cases hkeys
  · intro field hfield
    rcases Assoc.mem_or_eq_of_mem_alter hfield with hmem | rfl
    · exact h.keys field hmem
    · exact hname
  · intro field hfield
    rcases Assoc.mem_or_eq_of_mem_alter hfield with hmem | rfl
    · exact h.fields field hmem
    · exact hvalue

/-- Once a text has been written at the end of a path, nothing on the way is left empty. -/
theorem Holds.write {value : String} (hvalue : value ∈ texts) {path : List String}
    (h : Holds texts depth node) (hpath : path.length ≤ depth) :
    IsSpelt texts depth (RequestParams.write value path node) := by
  induction path generalizing depth node with
  | nil => exact .text hvalue depth
  | cons head rest ih =>
    -- each segment is one container, so one level is used up here
    cases depth with
    | zero => cases hpath
    | succ depth =>
      have hrest : rest.length ≤ depth := Nat.le_of_succ_le_succ hpath
      by_cases hhead : head = ""
      · subst hhead
        cases rest with
        | nil =>
          rw [write_end]
          exact .append h.elements (.text hvalue depth)
        | cons next rest =>
          obtain ⟨hfront, hlast⟩ := h.lastOrNew next
          rw [write_element]
          exact .append hfront (ih hlast hrest)
      · rw [write_name hhead]
        exact .alter hhead h (ih (h.child head) hrest)

end

/-! ### Bodies -/

theorem writePair_holds {texts : List String} {fields : List (String × Json)}
    (h : Holds texts maxSegments (.object fields)) {pair : String × String}
    (hpair : pair.2 ∈ texts) :
    ∃ fields', writePair (.object fields) pair = .object fields' ∧
      Holds texts maxSegments (.object fields') := by
  obtain ⟨key, value⟩ := pair
  rcases splitKey_cases key with ⟨hkey, -⟩ | ⟨name, rest, hkey, hname⟩
  · exact ⟨fields, writePair_of_unnamed hkey _ value, h⟩
  · have hlength := length_splitKey_le key
    rw [hkey] at hlength
    have hwritten := h.write hpair hlength
    rw [writePair_of_name hkey hname]
    rw [write_name hname] at hwritten ⊢
    exact ⟨_, rfl, hwritten.holds⟩

/-- The body of request parameters is a mapping that holds what their texts spell. -/
theorem toBody_holds (params : RequestParams) :
    ∃ fields, params.toBody = .object fields ∧
      Holds (params.pairs.map Prod.snd) maxSegments (.object fields) := by
  have hfold (texts : List String) (pairs : List (String × String))
      (hpairs : ∀ pair ∈ pairs, pair.2 ∈ texts) (fields : List (String × Json))
      (h : Holds texts maxSegments (.object fields)) : ∃ fields',
        pairs.foldl writePair (.object fields) = .object fields' ∧
          Holds texts maxSegments (.object fields') := by
    induction pairs generalizing fields with
    | nil => exact ⟨fields, rfl, h⟩
    | cons pair rest ih =>
      rw [List.forall_mem_cons] at hpairs
      obtain ⟨fields', hfields, h'⟩ := writePair_holds h hpairs.1
      rw [List.foldl_cons, hfields]
      exact ih hpairs.2 fields' h'
  exact hfold _ params.pairs (fun pair hpair => List.mem_map_of_mem hpair) [] .emptyMapping

end Criteria.RequestParams
