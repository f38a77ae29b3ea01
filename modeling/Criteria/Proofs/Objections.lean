import Criteria.Proofs.Adjusted
import Criteria.Proofs.Leafwise

/-!
# Where an adjustment stops

An adjustment hands the leaves of a body to its transform in the order of the document. It comes to
its end where the transform objects to no leaf and no combinator is malformed or too deep; otherwise
the first such entry decides, and nothing behind it is handed over or has any influence. Main
statement: `adjust_stops_first`.
-/

namespace Criteria.Adjust

/-! ### Leaves -/

mutual
/-- The leaves below a combinator key. -/
def leavesBelow : Json → List (String × Json)
  | .object fields => leaves fields
  | _ => []

/-- The leaves of a mapping in the order of the document, whether or not a filter has their name. -/
def leaves : List (String × Json) → List (String × Json)
  | [] => []
  | (key, value) :: rest =>
    match Combinator.ofKey? key with
    | some _ => leavesBelow value ++ leaves rest
    | none => (key, value) :: leaves rest
end

/-- What is handed over at an entry itself: a leaf is, a combinator is not. -/
def handed (entry : String × Json) : List (String × Json) :=
  match Combinator.ofKey? entry.1 with
  | some _ => []
  | none => [entry]

/-! ### Passing and stopping -/

/-- An adjustment goes all the way through a mapping: the transform objects to no leaf, and every
combinator holds a mapping and stands high enough. -/
inductive Passes (transform : Transform) : Nat → List (String × Json) → Prop
  | nil (depth : Nat) : Passes transform depth []
  | nested {depth : Nat} {key : String} {combinator : Combinator}
      {fields rest : List (String × Json)} (hkey : Combinator.ofKey? key = some combinator)
      (hdepth : depth + 1 ≤ maxBodyDepth) (hinner : Passes transform (depth + 1) fields)
      (hrest : Passes transform depth rest) : Passes transform depth ((key, .object fields) :: rest)
  | leaf {depth : Nat} {key : String} {value value' : Json} {rest : List (String × Json)}
      (hkey : Combinator.ofKey? key = none) (hvalue : transform key value = .ok value')
      (hrest : Passes transform depth rest) : Passes transform depth ((key, value) :: rest)

/-- An entry of a mapping at some depth stops an adjustment. Where a combinator is both too deep and
malformed, it is the depth that is complained about. -/
inductive Stops (transform : Transform) (depth : Nat) : String × Json → FilterError → Prop
  | rejected {key : String} {value : Json} {e : FilterError} (hkey : Combinator.ofKey? key = none)
      (hvalue : transform key value = .error e) : Stops transform depth (key, value) e
  | tooDeep {key : String} {combinator : Combinator} (value : Json)
      (hkey : Combinator.ofKey? key = some combinator) (hdepth : maxBodyDepth < depth + 1) :
      Stops transform depth (key, value) (.invalidBody .tooDeep)
  | malformed {key : String} {combinator : Combinator} {value : Json}
      (hkey : Combinator.ofKey? key = some combinator) (hdepth : depth + 1 ≤ maxBodyDepth)
      (hvalue : ∀ fields, value ≠ .object fields) :
      Stops transform depth (key, value) (.invalidBody (.combinatorNotMapping key))

/-- An entry of a mapping, or of one below its combinators, with the depth it stands at and what is
left of the mapping when all that begins with the entry is cut off. -/
inductive UpTo (entry : String × Json) (place : Nat) :
    Nat → List (String × Json) → List (String × Json) → Prop
  | here (rest : List (String × Json)) : UpTo entry place place [] (entry :: rest)
  | inside {depth : Nat} {key : String} {combinator : Combinator}
      {before fields : List (String × Json)} (hkey : Combinator.ofKey? key = some combinator)
      (h : UpTo entry place (depth + 1) before fields) (rest : List (String × Json)) :
      UpTo entry place depth [(key, .object before)] ((key, .object fields) :: rest)
  | later {depth : Nat} {before rest : List (String × Json)} (first : String × Json)
      (h : UpTo entry place depth before rest) :
      UpTo entry place depth (first :: before) (first :: rest)

section
variable {key : String} {combinator : Combinator}

theorem leaves_nested (hkey : Combinator.ofKey? key = some combinator)
    (fields rest : List (String × Json)) :
    leaves ((key, .object fields) :: rest) = leaves fields ++ leaves rest := by
  simp only [leaves, hkey, leavesBelow]

theorem leaves_leaf (hkey : Combinator.ofKey? key = none) (value : Json)
    (rest : List (String × Json)) :
    leaves ((key, value) :: rest) = (key, value) :: leaves rest := by
  simp only [leaves, hkey]

end

variable {transform : Transform} {depth : Nat} {fields : List (String × Json)}

/-! ### Through a mapping -/

theorem entries_of_passes (h : Passes transform depth fields) :
    ∃ fields', Adjusts transform fields fields' ∧
      entries transform depth fields = ⟨.ok fields', leaves fields⟩ := by
  induction h with
  | nil depth =>
    refine ⟨[], .nil, ?_⟩
    rw [entries, leaves, Traced.pure_eq]
  | nested hkey hdepth hinner hrest ihinner ihrest =>
    obtain ⟨inner', hadjusts, hinner'⟩ := ihinner
    obtain ⟨rest', hadjusts', hrest'⟩ := ihrest
    refine ⟨_, .nested hkey hadjusts hadjusts', ?_⟩
    simp only [entries, hkey, group_of_object hdepth, hinner', hrest', leaves_nested hkey,
      Traced.bind_ok, Traced.pure_eq, List.append_nil]
  | leaf hkey hvalue hrest ih =>
    obtain ⟨rest', hadjusts, hrest'⟩ := ih
    refine ⟨_, .leaf hkey hvalue hadjusts, ?_⟩
    simp only [entries, hkey, leaf, hvalue, hrest', leaves_leaf hkey, Traced.bind_ok,
      Traced.pure_eq, List.append_nil, List.singleton_append]

/-- What a transform answers for other leaves does not matter. -/
theorem Passes.congr {transform' : Transform} (h : Passes transform depth fields)
    (hsame : ∀ leaf ∈ leaves fields, transform' leaf.1 leaf.2 = transform leaf.1 leaf.2) :
    Passes transform' depth fields := by
  induction h with
  | nil depth => exact .nil depth
  | nested hkey hdepth hinner hrest ihinner ihrest =>
    rw [leaves_nested hkey, List.forall_mem_append] at hsame
    exact .nested hkey hdepth (ihinner hsame.1) (ihrest hsame.2)
  | leaf hkey hvalue hrest ih =>
    rw [leaves_leaf hkey, List.forall_mem_cons] at hsame
    exact .leaf hkey (hsame.1.trans hvalue) (ih hsame.2)

/-! ### Up to the first stop -/

theorem entries_of_stop {entry : String × Json} {e : FilterError} (h : Stops transform depth entry e)
    (rest : List (String × Json)) :
    entries transform depth (entry :: rest) = ⟨.error e, handed entry⟩ := by
  cases h with
  | rejected hkey hvalue => simp only [entries, handed, hkey, leaf, hvalue, Traced.bind_error]
  | tooDeep value hkey hdepth =>
    simp only [entries, handed, hkey, group_tooDeep hdepth, Traced.fail, Traced.bind_error]
  | malformed hkey hdepth hvalue =>
    simp only [entries, handed, hkey, group_malformed hdepth hvalue, Traced.fail, Traced.bind_error]

theorem Stops.congr {transform' : Transform} {entry : String × Json} {e : FilterError}
    (h : Stops transform depth entry e)
    (hsame : ∀ leaf ∈ handed entry, transform' leaf.1 leaf.2 = transform leaf.1 leaf.2) :
    Stops transform' depth entry e := by
  cases h with
  | rejected hkey hvalue =>
    rw [handed, hkey, List.forall_mem_singleton] at hsame
    exact .rejected hkey (hsame.trans hvalue)
  | tooDeep value hkey hdepth => exact .tooDeep value hkey hdepth
  | malformed hkey hdepth hvalue => exact .malformed hkey hdepth hvalue

/-- The walk goes through what stands before the entry and no further. -/
theorem entries_of_upTo {entry : String × Json} {place : Nat} {e : FilterError}
    {before : List (String × Json)} (h : UpTo entry place depth before fields)
    (hbefore : Passes transform depth before) (hstop : Stops transform place entry e) :
    entries transform depth fields = ⟨.error e, leaves before ++ handed entry⟩ := by
  -- an entry inside a combinator stops the walk there, so nothing behind the combinator is seen
  induction h with
  | here rest =>
    rw [entries_of_stop hstop rest, leaves, List.nil_append]
  | inside hkey h rest ih =>
    cases hbefore with
    | nested hkey' hdepth hinner hnil =>
      rw [leaves_nested hkey, leaves, List.append_nil]
      simp only [entries, hkey, group_of_object hdepth, ih hinner, Traced.bind_error]
    | leaf hkey' hvalue hnil => cases hkey.symm.trans hkey'
  | later first h ih =>
    cases hbefore with
    | nested hkey hdepth hinner hrest =>
      obtain ⟨inner', -, hinner'⟩ := entries_of_passes hinner
      simp only [entries, hkey, group_of_object hdepth, hinner', ih hrest, leaves_nested hkey,
        Traced.bind_ok, Traced.bind_error, Traced.pure_eq, List.append_nil, List.append_assoc]
    | leaf hkey hvalue hrest =>
      simp only [entries, hkey, leaf, hvalue, ih hrest, leaves_leaf hkey, Traced.bind_ok,
        Traced.bind_error, List.nil_append, List.cons_append]

/-- What is handed over up to an entry comes first among all leaves. -/
theorem UpTo.leaves_prefix {entry : String × Json} {place : Nat} {before : List (String × Json)}
    (h : UpTo entry place depth before fields) :
    leaves before ++ handed entry <+: leaves fields := by
  induction h with
  | here rest =>
    obtain ⟨key, value⟩ := entry
    cases hkey : Combinator.ofKey? key with
    | some combinator =>
      rw [leaves, handed, hkey]
      exact List.nil_prefix
    | none =>
      rw [leaves_leaf hkey, leaves, handed, hkey]
      exact List.prefix_append [(key, value)] (leaves rest)
  | inside hkey h rest ih =>
    rw [leaves_nested hkey, leaves_nested hkey, leaves, List.append_nil]
    exact ih.trans (List.prefix_append _ _)
  | later first h ih =>
    obtain ⟨key, value⟩ := first
    cases hkey : Combinator.ofKey? key with
    | some combinator =>
      simp only [leaves, hkey, List.append_assoc]
      exact (List.prefix_append_right_inj _).2 ih
    | none =>
      rw [leaves_leaf hkey, leaves_leaf hkey, List.cons_append]
      exact (List.cons_prefix_cons).2 ⟨rfl, ih⟩

/-! ### One or the other -/

/-- The first entry that stops an adjustment: it goes through all that stands before. -/
structure StopsFirst (transform : Transform) (depth : Nat) (fields before : List (String × Json))
    (entry : String × Json) (e : FilterError) (place : Nat) : Prop where
  upTo : UpTo entry place depth before fields
  passes : Passes transform depth before
  stops : Stops transform place entry e

/-- An adjustment goes all the way, or there is a first entry to stop it. -/
def IsDecided (transform : Transform) (depth : Nat) (fields : List (String × Json)) : Prop :=
  Passes transform depth fields ∨
    ∃ before entry e place, StopsFirst transform depth fields before entry e place

theorem IsDecided.here {entry : String × Json} {e : FilterError}
    (h : Stops transform depth entry e) (rest : List (String × Json)) :
    IsDecided transform depth (entry :: rest) :=
  .inr ⟨[], entry, e, depth, .here rest, .nil depth, h⟩

theorem IsDecided.cons_leaf {key : String} {value value' : Json} {rest : List (String × Json)}
    (hkey : Combinator.ofKey? key = none) (hvalue : transform key value = .ok value')
    (h : IsDecided transform depth rest) : IsDecided transform depth ((key, value) :: rest) := by
  rcases h with hpasses | ⟨before, entry, e, place, hfirst⟩
  · exact .inl (.leaf hkey hvalue hpasses)
  · right
    refine ⟨(key, value) :: before, entry, e, place, ?_, ?_, hfirst.stops⟩
    · exact .later _ hfirst.upTo
    · exact .leaf hkey hvalue hfirst.passes

theorem IsDecided.cons_nested {key : String} {combinator : Combinator}
    {rest : List (String × Json)} (hkey : Combinator.ofKey? key = some combinator)
    (hdepth : depth + 1 ≤ maxBodyDepth) (hinner : IsDecided transform (depth + 1) fields)
    (hrest : IsDecided transform depth rest) :
    IsDecided transform depth ((key, .object fields) :: rest) := by
  rcases hinner with hpasses | ⟨before, entry, e, place, hfirst⟩
  · rcases hrest with hpasses' | ⟨before, entry, e, place, hfirst⟩
    · exact .inl (.nested hkey hdepth hpasses hpasses')
    · right
      refine ⟨(key, .object fields) :: before, entry, e, place, ?_, ?_, hfirst.stops⟩
      · exact .later _ hfirst.upTo
      · exact .nested hkey hdepth hpasses hfirst.passes
  · right
    refine ⟨[(key, .object before)], entry, e, place, ?_, ?_, hfirst.stops⟩
    · exact .inside hkey hfirst.upTo rest
    · exact .nested hkey hdepth hfirst.passes (.nil depth)

mutual
theorem below_isDecided (transform : Transform) (depth : Nat) {key : String}
    {combinator : Combinator} (hkey : Combinator.ofKey? key = some combinator) (value : Json)
    {rest : List (String × Json)} (hrest : IsDecided transform depth rest) :
    IsDecided transform depth ((key, value) :: rest) := by
  rcases Nat.lt_or_ge maxBodyDepth (depth + 1) with hdeep | hdepth
  · exact .here (.tooDeep value hkey hdeep) rest
  · match value with
    | .object fields => exact .cons_nested hkey hdepth (isDecided transform (depth + 1) fields) hrest
    | .null | .bool _ | .number _ | .string _ | .array _ =>
      exact .here (.malformed hkey hdepth (by nofun)) rest

theorem isDecided (transform : Transform) (depth : Nat) (fields : List (String × Json)) :
    IsDecided transform depth fields := by
  match fields with
  | [] => exact .inl (.nil depth)
  | (key, value) :: rest =>
    -- what is behind is decided as well, which counts if nothing stops the walk here
    have hrest := isDecided transform depth rest
    cases hkey : Combinator.ofKey? key with
    | some combinator => exact below_isDecided transform depth hkey value hrest
    | none =>
      cases hvalue : transform key value with
      | error e => exact .here (.rejected hkey hvalue) rest
      | ok value' => exact .cons_leaf hkey hvalue hrest
end

/-! ### The body -/

theorem body_of_entries {b : Body} (hfields : b.fields? = some fields)
    {result : Except FilterError (List (String × Json))} {trace : List (String × Json)}
    (h : entries transform 1 fields = ⟨result, trace⟩) :
    body transform b = ⟨result.map .object, trace⟩ := by
  simp only [body, Body.mapping, hfields, Traced.pure, Traced.bind_ok, h, List.nil_append]
  cases result with
  | error e => simp only [Traced.bind_error, Except.map]
  | ok fields' => simp only [Traced.bind_ok, Traced.pure_eq, Except.map, List.append_nil]

theorem body_of_stopsFirst {b : Body} {before : List (String × Json)} {entry : String × Json}
    {e : FilterError} {place : Nat} (hfields : b.fields? = some fields)
    (h : StopsFirst transform 1 fields before entry e place) :
    body transform b = ⟨.error e, leaves before ++ handed entry⟩ :=
  body_of_entries hfields (entries_of_upTo h.upTo h.passes h.stops)

/-- A body that is no mapping is refused before any leaf is handed over. A mapping without anything
to stop at is adjusted throughout, and all its leaves are handed over in the order of the document.
Otherwise there is a first entry to stop at: its error is the outcome, and handed over are the
leaves before it and, where it is a leaf itself, that leaf. What stands behind the entry, and what
the transform answers for leaves that were not handed over, may be anything. -/
theorem adjust_stops_first (transform : Transform) (b : Body) :
    (b.fields? = none → body transform b = ⟨.error (.invalidBody .notMapping), []⟩) ∧
    ∀ fields, b.fields? = some fields →
      (Passes transform 1 fields →
        ∃ fields', Adjusts transform fields fields' ∧
          body transform b = ⟨.ok (.object fields'), leaves fields⟩) ∧
      (∀ before entry e place, StopsFirst transform 1 fields before entry e place →
        leaves before ++ handed entry <+: leaves fields ∧
        ∀ (transform' : Transform) (b' : Body) (fields' : List (String × Json)),
          (∀ leaf ∈ leaves before ++ handed entry,
            transform' leaf.1 leaf.2 = transform leaf.1 leaf.2) →
          b'.fields? = some fields' → UpTo entry place 1 before fields' →
          body transform' b' = ⟨.error e, leaves before ++ handed entry⟩) ∧
      (Passes transform 1 fields ∨
        ∃ before entry e place, StopsFirst transform 1 fields before entry e place) := by
  refine ⟨?_, ?_⟩
  · intro hfields
    rw [body, Body.mapping, hfields]
    rfl
  · intro fields hfields
    refine ⟨?_, ?_, isDecided transform 1 fields⟩
    · intro hpasses
      obtain ⟨fields', hadjusts, hentries⟩ := entries_of_passes hpasses
      exact ⟨fields', hadjusts, body_of_entries hfields hentries⟩
    · intro before entry e place hfirst
      refine ⟨hfirst.upTo.leaves_prefix, ?_⟩
      intro transform' b' fields' hsame hfields' hupTo
      rw [List.forall_mem_append] at hsame
      apply body_of_stopsFirst hfields'
      exact ⟨hupTo, hfirst.passes.congr hsame.1, hfirst.stops.congr hsame.2⟩

/-- A transform that objects to pages. -/
def refusePages : Transform := fun name value =>
  if name = "page" then .error (.custom "no pages") else .ok value

/-- Posts on a subject, with a page inside, and with a conjunction that holds no mapping. -/
def pagedPosts : List (String × Json) :=
  [("author", .int 7), ("any", .object [("tag", .string "rust"), ("page", .int 2)]), ("all", .null),
    ("limit", .int 5)]

theorem adjust_stops_first_pagedPosts :
    (body refusePages (.json .null) = ⟨.error (.invalidBody .notMapping), []⟩) ∧
      body refusePages (.object [("author", .int 7), ("any", .object [("tag", .string "rust")])]) =
        ⟨.ok (.object [("author", .int 7), ("any", .object [("tag", .string "rust")])]),
          [("author", .int 7), ("tag", .string "rust")]⟩ ∧
      body refusePages (.object pagedPosts) =
        ⟨.error (.custom "no pages"),
          [("author", .int 7), ("tag", .string "rust"), ("page", .int 2)]⟩ ∧
      body keep (.object pagedPosts) =
        ⟨.error (.invalidBody (.combinatorNotMapping "all")),
          [("author", .int 7), ("tag", .string "rust"), ("page", .int 2)]⟩ := by
  have hpages : StopsFirst refusePages 1 pagedPosts
      [("author", .int 7), ("any", .object [("tag", .string "rust")])] ("page", .int 2)
      (.custom "no pages") 2 := by
    refine ⟨.later _ (.inside rfl (.later _ (.here _)) _), ?_, .rejected rfl rfl⟩
    exact .leaf rfl rfl (.nested rfl (by decide) (.leaf rfl rfl (.nil 2)) (.nil 1))
  have hall : StopsFirst keep 1 pagedPosts
      [("author", .int 7), ("any", .object [("tag", .string "rust"), ("page", .int 2)])]
      ("all", .null) (.invalidBody (.combinatorNotMapping "all")) 1 := by
    refine ⟨.later _ (.later _ (.here _)), ?_, .malformed rfl (by decide) (by nofun)⟩
    refine .leaf rfl rfl (.nested rfl (by decide) ?_ (.nil 1))
    exact .leaf rfl rfl (.leaf rfl rfl (.nil 2))
  refine ⟨?_, ?_, ?_, ?_⟩
  · exact (adjust_stops_first refusePages (.json .null)).1 rfl
  · obtain ⟨hpasses, -⟩ := (adjust_stops_first refusePages (.object
      [("author", .int 7), ("any", .object [("tag", .string "rust")])])).2 _ rfl
    obtain ⟨fields', -, hbody⟩ := hpasses
      (.leaf rfl rfl (.nested rfl (by decide) (.leaf rfl rfl (.nil 2)) (.nil 1)))
    have hresult := congrArg Traced.result hbody
    cases hresult
    exact hbody
  · obtain ⟨-, hstops, -⟩ := (adjust_stops_first refusePages (.object pagedPosts)).2 _ rfl
    exact (hstops _ _ _ _ hpages).2 refusePages _ _ (fun leaf hleaf => rfl) rfl hpages.upTo
  · obtain ⟨-, hstops, -⟩ := (adjust_stops_first keep (.object pagedPosts)).2 _ rfl
    exact (hstops _ _ _ _ hall).2 keep _ _ (fun leaf hleaf => rfl) rfl hall.upTo

end Criteria.Adjust
