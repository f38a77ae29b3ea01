import Criteria.Membership
import Criteria.Proofs.Appending

/-!
# One more pair of request parameters

A pair whose key is a path of names puts its text at the end of the path. Whatever lies elsewhere
stays, and so do the keys of all mappings, in their order. What a request says under one name of its
body is therefore said by the pairs for this name alone. Main statement:
`RequestParams.insertion_frames`.
-/

namespace Criteria.RequestParams

/-! ### Values elsewhere -/

/-- The value at a path of names stays, unless the path begins as the one that is written at, or the
other way about. -/
theorem valueAt?_write_elsewhere {names other : List String} (hnames : ∀ name ∈ names, name ≠ "")
    (h : ¬ names <+: other) (h' : ¬ other <+: names) (value : String) (node : Json) :
    valueAt? other (write value names node) = valueAt? other node := by
  induction names generalizing other node with
  | nil => exact absurd List.nil_prefix h
  | cons name names ih =>
    cases other with
    | nil => exact absurd List.nil_prefix h'
    | cons first rest =>
      rw [List.forall_mem_cons] at hnames
      rw [write_name hnames.1, valueAt?, valueAt?, fieldsOf, Assoc.find?_alter]
      by_cases hfirst : name = first
      · subst hfirst
        rw [List.cons_prefix_cons, not_and] at h h'
        have hrest := ih hnames.2 (h rfl) (h' rfl) ((Assoc.find? name (fieldsOf node)).getD .null)
        rw [if_pos rfl, Option.bind_some, hrest]
        cases Assoc.find? name (fieldsOf node) with
        | some child => rfl
        | none =>
          -- nothing lies below a value that is not there
          cases rest with
          | nil => exact absurd List.nil_prefix (h' rfl)
          | cons next more => rfl
      · rw [if_neg hfirst]

/-! ### Mappings anywhere -/

/-- A step into a value. -/
inductive Step where
  /-- To the value under a key of a mapping. -/
  | key (name : String)
  /-- To an element of a list. -/
  | element (i : Nat)

/-- The value to which a step leads. -/
def Step.enter? : Step → Json → Option Json
  | key name, node => Assoc.find? name (fieldsOf node)
  | element i, node => (elementsOf node)[i]?

/-- The value to which some steps lead. -/
def reach? : List Step → Json → Option Json
  | [], node => some node
  | step :: rest, node => (step.enter? node).bind (reach? rest)

/-- A mapping that is still there has its keys in front, in the order in which they were. -/
theorem keys_prefix_of_write {names : List String} (hnames : ∀ name ∈ names, name ≠ "")
    {value : String} {steps : List Step} {node : Json} {fields fields' : List (String × Json)}
    (h : reach? steps node = some (.object fields))
    (h' : reach? steps (write value names node) = some (.object fields')) :
    Assoc.keys fields <+: Assoc.keys fields' := by
  -- the steps lead along the path that is written, or leave it
  induction names generalizing steps node with
  | nil =>
    -- no step leads into a text
    cases steps with
    | nil => cases h'
    | cons step rest => cases step <;> cases h'
  | cons name names ih =>
    rw [List.forall_mem_cons] at hnames
    rw [write_name hnames.1] at h'
    cases steps with
    | nil =>
      cases h
      cases h'
      rw [fieldsOf, Assoc.keys_alter]
      split
      · exact List.prefix_refl _
      · exact List.prefix_append _ _
    | cons step rest =>
      cases step with
      | element i => cases h'
      | key first =>
        obtain ⟨child, hchild, hfields⟩ := Option.bind_eq_some_iff.1 h
        obtain ⟨child', hchild', hfields'⟩ := Option.bind_eq_some_iff.1 h'
        rw [Step.enter?] at hchild hchild'
        rw [fieldsOf, Assoc.find?_alter, hchild] at hchild'
        split at hchild'
        · next hfirst =>
          rw [hfirst, hchild] at hchild'
          cases hchild'
          exact ih hnames.2 hfields hfields'
        · cases hchild'
          cases hfields.symm.trans hfields'
          exact List.prefix_refl _

/-! ### One name of the body -/

/-- The name with which a key begins; a key that begins with the empty text has none. -/
def name? (key : String) : Option String :=
  (splitKey key).head?.filter (· ≠ "")

/-- The pairs whose keys begin with a name. -/
def startingWith (name : String) (pairs : List (String × String)) : List (String × String) :=
  pairs.filter fun pair => name? pair.1 == some name

/-- The names with which the keys begin, in the order of the pairs. -/
def names (pairs : List (String × String)) : List String :=
  pairs.filterMap fun pair => name? pair.1

theorem names_concat (pairs : List (String × String)) (pair : String × String) :
    names (pairs ++ [pair]) = names pairs ++ (name? pair.1).toList := by
  rw [names, List.filterMap_append, List.filterMap_eq_flatMap_toList _ [pair],
    List.flatMap_singleton, names]

/-- A pair is written under the name with which its key begins, or skipped where there is none. -/
theorem writePair_cases (pair : String × String) :
    (name? pair.1 = none ∧ ∀ body, writePair body pair = body) ∨
      ∃ name rest, name? pair.1 = some name ∧
        ∀ body, writePair body pair = .object (Assoc.alter name
          (fun child => write pair.2 rest (child.getD .null)) (fieldsOf body)) := by
  obtain ⟨key, value⟩ := pair
  rcases splitKey_cases key with ⟨hkey, hhead⟩ | ⟨name, rest, hkey, hname⟩
  · refine Or.inl ⟨?_, fun body => writePair_of_unnamed hkey body value⟩
    rw [name?, hhead]
    rfl
  · refine Or.inr ⟨name, rest, by simp [name?, hkey, hname], fun body => ?_⟩
    rw [writePair_of_name hkey hname, write_name hname]

theorem valueAt?_singleton (name : String) (node : Json) :
    valueAt? [name] node = Assoc.find? name (fieldsOf node) := by
  rw [valueAt?]
  cases Assoc.find? name (fieldsOf node) with
  | none => rfl
  | some child => rfl

/-- A pair leaves the other names of the body alone. -/
theorem valueAt?_writePair_of_ne {pair : String × String} {name : String}
    (h : name? pair.1 ≠ some name) (body : Json) :
    valueAt? [name] (writePair body pair) = valueAt? [name] body := by
  rcases writePair_cases pair with ⟨-, hwritten⟩ | ⟨own, rest, hown, hwritten⟩
  · rw [hwritten]
  · have hne : own ≠ name := fun heq => h (hown.trans (congrArg some heq))
    rw [hwritten, valueAt?_singleton, valueAt?_singleton, fieldsOf, Assoc.find?_alter, if_neg hne]

/-- What a pair makes of its own name depends on what was there under this name. -/
theorem valueAt?_writePair_congr {pair : String × String} {name : String}
    (h : name? pair.1 = some name) {body body' : Json}
    (hbody : valueAt? [name] body = valueAt? [name] body') :
    valueAt? [name] (writePair body pair) = valueAt? [name] (writePair body' pair) := by
  rcases writePair_cases pair with ⟨hnone, -⟩ | ⟨own, rest, hown, hwritten⟩
  · cases hnone.symm.trans h
  · cases hown.symm.trans h
    rw [valueAt?_singleton, valueAt?_singleton] at hbody
    rw [hwritten, hwritten, valueAt?_singleton, valueAt?_singleton, fieldsOf, fieldsOf,
      Assoc.find?_alter, Assoc.find?_alter, hbody]

/-- The value under a name comes from the pairs for this name. -/
theorem valueAt?_startingWith (name : String) (pairs : List (String × String)) :
    valueAt? [name] (toBody ⟨pairs⟩) = valueAt? [name] (toBody ⟨startingWith name pairs⟩) := by
  have hfold (pairs : List (String × String)) (body body' : Json)
      (hbody : valueAt? [name] body = valueAt? [name] body') :
      valueAt? [name] (pairs.foldl writePair body) =
        valueAt? [name] ((startingWith name pairs).foldl writePair body') := by
    induction pairs generalizing body body' with
    | nil => exact hbody
    | cons pair rest ih =>
      rw [startingWith, List.filter_cons]
      by_cases hname : name? pair.1 = some name
      · rw [if_pos (beq_iff_eq.2 hname)]
        exact ih _ _ (valueAt?_writePair_congr hname hbody)
      · rw [if_neg (mt beq_iff_eq.1 hname)]
        exact ih _ _ ((valueAt?_writePair_of_ne hname body).trans hbody)
  exact hfold pairs _ _ rfl

/-- The names of the body come in the order in which the pairs name them first. -/
theorem keys_toBody (pairs : List (String × String)) :
    Assoc.keys (fieldsOf (toBody ⟨pairs⟩)) = dedup (names pairs) := by
  induction pairs using List.reverseRecOn with
  | nil => rfl
  | append_singleton pairs pair ih =>
    rw [toBody_append, names_concat]
    rcases writePair_cases pair with ⟨hnone, hwritten⟩ | ⟨name, rest, hname, hwritten⟩
    · rw [hwritten, ih, hnone, Option.toList_none, List.append_nil]
    · rw [hwritten, fieldsOf, Assoc.keys_alter, ih, hname, Option.toList_some, dedup_concat]
      -- removing repeated names loses none
      simp only [← List.contains_iff_mem, contains_dedup]

/-! ### The whole body -/

/-- A further pair whose key is a path of names puts its text there, whatever was at the path, above
it or below it. At a path that neither begins as this one nor is its beginning the body is what it
was, and a mapping that is still there has its keys in their order. The value under one name of a
body is what the pairs for this name alone make of it, and the names stand in the order in which
pairs name them first. -/
theorem insertion_frames (pairs : List (String × String)) :
    (∀ {key value : String} {path : List String}, splitKey key = path →
      (∀ name ∈ path, name ≠ "") →
        let before := toBody ⟨pairs⟩
        let after := toBody ⟨pairs ++ [(key, value)]⟩
        valueAt? path after = some (.string value) ∧
        (∀ other, ¬ path <+: other → ¬ other <+: path →
          valueAt? other after = valueAt? other before) ∧
        ∀ steps fields fields', reach? steps before = some (.object fields) →
          reach? steps after = some (.object fields') →
          Assoc.keys fields <+: Assoc.keys fields') ∧
    (∀ name, valueAt? [name] (toBody ⟨pairs⟩) =
      valueAt? [name] (toBody ⟨startingWith name pairs⟩)) ∧
    ∃ fields, toBody ⟨pairs⟩ = .object fields ∧ Assoc.keys fields = dedup (names pairs) := by
  refine ⟨?_, fun name => valueAt?_startingWith name pairs, ?_⟩
  · intro key value path hkey hpath before after
    -- a further pair is one more step of the fold over the pairs
    have hafter : after = write value path before := by
      obtain ⟨name, rest, hname⟩ := List.exists_cons_of_ne_nil (splitKey_ne_nil key)
      subst hkey
      rw [hname, List.forall_mem_cons] at hpath
      rw [hname]
      exact (toBody_append pairs (key, value)).trans (writePair_of_name hname hpath.1 _ value)
    rw [hafter]
    refine ⟨?_, ?_, ?_⟩
    · have hwritten := valueAt?_write hpath value [] before
      rwa [List.append_nil] at hwritten
    · intro other hother hother'
      exact valueAt?_write_elsewhere hpath hother hother' value before
    · intro steps fields fields' hfields hfields'
      exact keys_prefix_of_write hpath hfields hfields'
  · obtain ⟨fields, hfields, -⟩ := toBody_isNamedThrough ⟨pairs⟩
    have hkeys := keys_toBody pairs
    rw [hfields] at hkeys
    exact ⟨fields, hfields, hkeys⟩

/-- An author in place of a list of authors, beside tags that stay. -/
theorem insertion_frames_author :
    let pairs := [("tag[only][]", "rust"), ("author[]", "1"), ("author[]", "2"), ("tag[page]", "3")]
    let after := toBody ⟨pairs ++ [("author[only]", "7")]⟩
    splitKey "author[only]" = ["author", "only"] ∧
      valueAt? ["author", "only"] after = some (.string "7") ∧
      valueAt? ["tag", "page"] after = some (.string "3") ∧
      ∃ fields, toBody ⟨pairs⟩ = .object fields ∧ Assoc.keys fields = ["tag", "author"] := by
  intro pairs after
  have hkey : splitKey "author[only]" = ["author", "only"] := by cbv
  obtain ⟨hframes, -, fields, hfields, hkeys⟩ := insertion_frames pairs
  obtain ⟨hwritten, hother, -⟩ := @hframes "author[only]" "7" _ hkey (by decide)
  refine ⟨hkey, hwritten, ?_, fields, hfields, ?_⟩
  · have hbefore : valueAt? ["tag", "page"] (toBody ⟨pairs⟩) = some (.string "3") := by cbv
    exact (hother ["tag", "page"] (by decide) (by decide)).trans hbefore
  · have hnames : dedup (names pairs) = ["tag", "author"] := by cbv
    exact hkeys.trans hnames

end Criteria.RequestParams
