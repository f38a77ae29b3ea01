import Criteria.Proofs.Written
import Mathlib.Data.List.Permutation

/-!
# Appending to lists of request parameters

A pair whose key has an empty segment behind some names appends to the list under these names. The
earlier elements stay, and a mapping at the end may gain a key; but where another empty segment
follows at once, a mapping at the end gives way to a list. Main statement:
`RequestParams.appending_keeps`.
-/

namespace Criteria.RequestParams

/-! ### Values under names -/

/-- The value under a path of names. -/
def valueAt? : List String → Json → Option Json
  | [], node => some node
  | name :: rest, node => (Assoc.find? name (fieldsOf node)).bind (valueAt? rest)

theorem valueAt?_null (names : List String) : (valueAt? names .null).getD .null = .null := by
  cases names with
  | nil => rfl
  | cons name rest => rfl

/-- Under the names at the front of its path, a text is written as it is to an empty place, or below
the value that is there. -/
theorem valueAt?_write {names : List String} (hnames : ∀ name ∈ names, name ≠ "") (value : String)
    (rest : List String) (node : Json) :
    valueAt? names (write value (names ++ rest) node) =
      some (write value rest ((valueAt? names node).getD .null)) := by
  induction names generalizing node with
  | nil => rfl
  | cons name names ih =>
    rw [List.forall_mem_cons] at hnames
    rw [List.cons_append, write_name hnames.1, valueAt?, fieldsOf, Assoc.find?_alter, if_pos rfl,
      Option.bind_some, ih hnames.2, valueAt?]
    cases Assoc.find? name (fieldsOf node) with
    | none => rw [Option.getD_none, valueAt?_null, Option.bind_none, Option.getD_none]
    | some child => rw [Option.getD_some, Option.bind_some]

/-! ### Names are not empty -/

/-- No mapping in a value has an empty key. -/
inductive IsNamedThrough : Json → Prop
  | null : IsNamedThrough .null
  | bool (b : Bool) : IsNamedThrough (.bool b)
  | number (n : Number) : IsNamedThrough (.number n)
  | string (s : String) : IsNamedThrough (.string s)
  | array {xs : List Json} (h : ∀ x ∈ xs, IsNamedThrough x) : IsNamedThrough (.array xs)
  | object {fields : List (String × Json)} (hkeys : ∀ field ∈ fields, field.1 ≠ "")
      (hvalues : ∀ field ∈ fields, IsNamedThrough field.2) : IsNamedThrough (.object fields)

namespace IsNamedThrough

theorem of_mem_elementsOf {node x : Json} (h : IsNamedThrough node) (hx : x ∈ elementsOf node) :
    IsNamedThrough x := by
  cases h with
  | array h => exact h x hx
  | _ => cases hx

theorem of_mem_fieldsOf {node : Json} {field : String × Json} (h : IsNamedThrough node)
    (hfield : field ∈ fieldsOf node) : field.1 ≠ "" ∧ IsNamedThrough field.2 := by
  cases h with
  | object hkeys hvalues => exact ⟨hkeys field hfield, hvalues field hfield⟩
  | _ => cases hfield

theorem valueAt? {names : List String} {node x : Json} (h : IsNamedThrough node)
    (hx : RequestParams.valueAt? names node = some x) : IsNamedThrough x := by
  induction names generalizing node with
  | nil =>
    cases hx
    exact h
  | cons name names ih =>
    obtain ⟨child, hchild, hx⟩ := Option.bind_eq_some_iff.1 hx
    exact ih (h.of_mem_fieldsOf (Assoc.mem_of_find? hchild)).2 hx

end IsNamedThrough

/-! ### Bodies of request parameters -/

theorem toBody_append (pairs : List (String × String)) (pair : String × String) :
    toBody ⟨pairs ++ [pair]⟩ = writePair (toBody ⟨pairs⟩) pair := by
  rw [toBody, List.foldl_append]
  rfl

theorem IsSpelt.isNamedThrough {texts : List String} {depth : Nat} {node : Json}
    (h : IsSpelt texts depth node) : IsNamedThrough node := by
  induction h with
  | text h depth => exact .string _
  | list hne h ih => exact .array ih
  | mapping hne hnodup hkeys h ih => exact .object hkeys ih

/-- The body of request parameters is a mapping in which all keys are names. -/
theorem toBody_isNamedThrough (params : RequestParams) :
    ∃ fields, params.toBody = .object fields ∧ IsNamedThrough (.object fields) := by
  obtain ⟨fields, hfields, h⟩ := toBody_holds params
  refine ⟨fields, hfields, .object h.keys ?_⟩
  intro field hfield
  exact (h.fields field hfield).isNamedThrough

/-! ### Lists that grow -/

/-- A list has one more element, or the mapping at its end has one more key. -/
inductive Grows : List Json → List Json → Prop
  | appended (xs : List Json) (x : Json) : Grows xs (xs ++ [x])
  | filled (front : List Json) (fields : List (String × Json)) {key : String}
      (hnew : key ∉ Assoc.keys fields) (value : Json) :
      Grows (front ++ [.object fields]) (front ++ [.object (fields ++ [(key, value)])])

/-- Whatever follows an empty segment, the list there grows; unless it is another one and a mapping
is at the end. -/
theorem write_grows (value : String) {rest : List String} {xs : List Json}
    (h : ∀ front fields more, xs = front ++ [.object fields] → rest ≠ "" :: more) :
    ∃ ys, write value ("" :: rest) (.array xs) = .array ys ∧ Grows xs ys := by
  cases rest with
  | nil => exact ⟨_, write_end value _, .appended xs _⟩
  | cons next rest =>
    refine ⟨_, write_element value next rest _, ?_⟩
    rcases lastOrNew_cases xs next with hnew | ⟨front, fields, rfl, hkey, hlast⟩
    · rw [elementsOf, hnew]
      exact .appended xs _
    · have hnext : next ≠ "" := by
        rintro rfl
        exact h front fields rest rfl rfl
      rw [elementsOf, hlast, write_name hnext, fieldsOf, Assoc.alter_of_notMem hkey]
      exact .filled front fields hkey _

/-- A mapping at the end gives way to a list where another empty segment follows. -/
theorem write_replaces (value : String) {rest : List String} {front : List Json}
    {fields : List (String × Json)} (hempty : "" ∉ Assoc.keys fields) :
    ∃ x, write value ("" :: "" :: rest) (.array (front ++ [.object fields])) =
      .array (front ++ [.array [x]]) := by
  have hlast : lastOrNew (front ++ [.object fields]) "" = (front, .object fields) := by
    simp [lastOrNew, Assoc.hasKey, (Assoc.find?_eq_none_iff "" fields).2 hempty]
  rw [write_element, elementsOf, hlast]
  cases rest with
  | nil => exact ⟨.string value, by rw [write_end]; rfl⟩
  | cons next rest =>
    rw [write_element]
    exact ⟨_, rfl⟩

/-- A further pair whose key has its first empty segment behind names makes the list under these
names grow. Only where another empty segment follows at once and a mapping is at the end of the
list, that mapping is lost: a list takes its place. -/
theorem appending_keeps {pairs : List (String × String)} {key value : String}
    {names rest : List String} (hkey : splitKey key = names ++ "" :: rest)
    (hnames : ∀ name ∈ names, name ≠ "") {xs : List Json}
    (hlist : valueAt? names (toBody ⟨pairs⟩) = some (.array xs)) :
    ∃ ys, valueAt? names (toBody ⟨pairs ++ [(key, value)]⟩) = some (.array ys) ∧
      ((∀ front fields more, xs = front ++ [.object fields] → rest ≠ "" :: more) → Grows xs ys) ∧
      ∀ front fields more, xs = front ++ [.object fields] → rest = "" :: more →
        ∃ x, ys = front ++ [.array [x]] := by
  obtain ⟨fields, hfields, hnamed⟩ := toBody_isNamedThrough ⟨pairs⟩
  rw [← hfields] at hnamed
  have hwritten : valueAt? names (toBody ⟨pairs ++ [(key, value)]⟩) =
      some (write value ("" :: rest) (.array xs)) := by
    cases names with
    | nil =>
      -- the body itself is no list
      rw [valueAt?, hfields] at hlist
      cases hlist
    | cons name names =>
      rw [toBody_append, writePair_of_name hkey (hnames name List.mem_cons_self)]
      have hwritten := valueAt?_write hnames value ("" :: rest) (toBody ⟨pairs⟩)
      rwa [hlist, Option.getD_some] at hwritten
  have hxs : ∀ x ∈ xs, IsNamedThrough x := fun x hx => (hnamed.valueAt? hlist).of_mem_elementsOf hx
  -- only a mapping at the end of the list, with another empty segment behind, is replaced
  by_cases hlost : ∃ front fields more, xs = front ++ [.object fields] ∧ rest = "" :: more
  · obtain ⟨front, fields, more, rfl, rfl⟩ := hlost
    have hobject := hxs (.object fields) (List.mem_append_right _ (List.mem_singleton.2 rfl))
    have hempty : "" ∉ Assoc.keys fields := by
      intro hmem
      obtain ⟨field, hfield, hname⟩ := List.mem_map.1 hmem
      exact (hobject.of_mem_fieldsOf hfield).1 hname
    obtain ⟨x, hx⟩ := @write_replaces value more front fields hempty
    refine ⟨_, hwritten.trans (congrArg some hx), ?_, ?_⟩
    · intro h
      exact absurd rfl (h front fields more rfl)
    · rintro front' fields' - heq -
      obtain ⟨rfl, -⟩ := List.append_inj' heq rfl
      exact ⟨x, rfl⟩
  · have hkeeps : ∀ front fields more, xs = front ++ [.object fields] → rest ≠ "" :: more :=
      fun front fields more hxs hrest => hlost ⟨front, fields, more, hxs, hrest⟩
    obtain ⟨ys, hys, hgrows⟩ := write_grows value hkeeps
    refine ⟨ys, hwritten.trans (congrArg some hys), fun _ => hgrows, ?_⟩
    intro front fields more hfront hrest
    exact absurd hrest (hkeeps front fields more hfront)

/-- One more key for the last rule of a list. -/
theorem appending_keeps_rules :
    valueAt? ["rules"] (toBody ⟨[("rules[][a]", "1")]⟩) =
        some (.array [.object [("a", .string "1")]]) ∧
      ∃ ys, valueAt? ["rules"] (toBody ⟨[("rules[][a]", "1"), ("rules[][b]", "2")]⟩) =
          some (.array ys) ∧
        Grows [.object [("a", .string "1")]] ys := by
  have hkey : splitKey "rules[][b]" = ["rules"] ++ "" :: ["b"] := by cbv
  have hlist : valueAt? ["rules"] (toBody ⟨[("rules[][a]", "1")]⟩) =
      some (.array [.object [("a", .string "1")]]) := by
    cbv
  have hnames : ∀ name ∈ ["rules"], name ≠ "" := by decide
  obtain ⟨ys, hys, hgrows, -⟩ := @appending_keeps _ _ "2" _ _ hkey hnames _ hlist
  refine ⟨hlist, ys, hys, hgrows ?_⟩
  intro front fields more _ hrest
  exact absurd (List.cons.inj hrest).1 (by decide)

/-- A rule is lost where a list is put behind it. -/
theorem appending_loses_rule :
    splitKey "rules[][]" = ["rules"] ++ "" :: [""] ∧
      valueAt? ["rules"] (toBody ⟨[("rules[][a]", "1")]⟩) =
        some (.array [.object [("a", .string "1")]]) ∧
      valueAt? ["rules"] (toBody ⟨[("rules[][a]", "1"), ("rules[][]", "2")]⟩) =
        some (.array [.array [.string "2"]]) ∧
      ∀ fields more, [Json.array [.string "2"]] ≠ .object fields :: more := by
  refine ⟨?_, ?_, ?_, ?_⟩
  · cbv
  · cbv
  · cbv
  · intro fields more heq
    cases heq

end Criteria.RequestParams
