import Criteria.Proofs.Simulation
import Criteria.Proofs.Steps

/-!
# Visits

What a walk over a body meets, as one list in the order of the document: combinators that cannot be
entered and values of filters. `sweep` makes the visits one after another until one of them stops it.
Main statement: `Compile.mapping_follows`, compiling a mapping follows the sweep over its visits,
whatever the generators of its filters do.
-/

namespace Criteria

open Outline (stopResult)

/-- What a walk over a body meets; the names that it skips are left out. -/
inductive Visit where
  /-- A combinator that cannot be entered. -/
  | fault (fault : BodyFault)
  /-- The value of a filter. -/
  | leaf (filter : String) (d : Descriptor) (value : Json)

namespace Visit

/-- What is done on a visit. -/
def pass : Visit → Pass Predicate
  | fault f => .fail (.invalidBody f)
  | leaf filter d value => Clause.compile filter d value

mutual
/-- The visits below a combinator. -/
def group (filters : FilterSet) (key : String) (depth : Nat) : Json → List Visit
  | .object fields =>
    if maxBodyDepth < depth then [.fault .tooDeep] else entries filters depth fields
  | _ => [.fault (if maxBodyDepth < depth then .tooDeep else .combinatorNotMapping key)]

/-- The visits in a mapping; its own combinators are one deeper. -/
def entries (filters : FilterSet) (depth : Nat) : List (String × Json) → List Visit
  | [] => []
  | (key, value) :: rest =>
    (match Combinator.ofKey? key with
      | some _ => group filters key (depth + 1) value
      | none =>
        match filters.find? key with
        | some d => [.leaf key d value]
        | none => []) ++ entries filters depth rest
end

/-- The depth of a top-level mapping: its combinators have depth two, but one that is its only key
has depth one. -/
def topDepth : List (String × Json) → Nat
  | [(key, _)] => if (Combinator.ofKey? key).isSome then 0 else 1
  | _ => 1

/-- The visits in a top-level mapping. -/
def ofMapping (filters : FilterSet) (fields : List (String × Json)) : List Visit :=
  entries filters (topDepth fields) fields

theorem topDepth_of_lone {fields : List (String × Json)} (h : IsLone fields) :
    topDepth fields = 0 := by
  obtain ⟨key, value, combinator, rfl, hkey⟩ := h
  simp only [topDepth, hkey, Option.isSome_some, if_true]

theorem topDepth_of_not_lone {fields : List (String × Json)} (h : ¬ IsLone fields) :
    topDepth fields = 1 := by
  rcases cases_of_not_lone h with rfl | ⟨key, value, rfl, hkey⟩ | ⟨first, second, rest, rfl⟩
  · rfl
  · simp only [topDepth, hkey, Option.isSome_none, Bool.false_eq_true, if_false]
  · rfl

theorem topDepth_congr {fields fields' : List (String × Json)}
    (h : IsLone fields ↔ IsLone fields') : topDepth fields = topDepth fields' := by
  by_cases hlone : IsLone fields
  · rw [topDepth_of_lone hlone, topDepth_of_lone (h.1 hlone)]
  · rw [topDepth_of_not_lone hlone, topDepth_of_not_lone (mt h.2 hlone)]

section
variable {filters : FilterSet} {P : Visit → Prop}

mutual
theorem forall_mem_group (hfault : ∀ f, f ≠ .notMapping → P (.fault f))
    (hleaf : ∀ name d value, filters.find? name = some d → P (.leaf name d value)) (key : String)
    (depth : Nat) (value : Json) : ∀ v ∈ group filters key depth value, P v := by
  match value with
  | .object fields =>
    rw [group]
    split
    · exact List.forall_mem_singleton.2 (hfault .tooDeep nofun)
    · exact forall_mem_entries hfault hleaf depth fields
  | .null | .bool _ | .number _ | .string _ | .array _ =>
    rw [group]
    · intro v hv
      rw [List.mem_singleton.1 hv]
      split
      · exact hfault .tooDeep nofun
      · exact hfault (.combinatorNotMapping key) nofun
    all_goals intros; contradiction

/-- What holds of faults below the top and of values of the filters holds of all visits. -/
theorem forall_mem_entries (hfault : ∀ f, f ≠ .notMapping → P (.fault f))
    (hleaf : ∀ name d value, filters.find? name = some d → P (.leaf name d value)) (depth : Nat)
    (fields : List (String × Json)) : ∀ v ∈ entries filters depth fields, P v := by
  match fields with
  | [] => exact nofun
  | (key, value) :: rest =>
    rw [entries, List.forall_mem_append]
    refine ⟨?_, forall_mem_entries hfault hleaf depth rest⟩
    cases hkey : Combinator.ofKey? key with
    | some combinator => exact forall_mem_group hfault hleaf key (depth + 1) value
    | none =>
      cases hd : filters.find? key with
      | some d => exact List.forall_mem_singleton.2 (hleaf key d value hd)
      | none => exact nofun
end

/-- Every visited leaf is the value of a filter of the set. -/
theorem find?_of_mem_entries {name : String} {d : Descriptor} {value : Json} {depth : Nat}
    {fields : List (String × Json)} (h : leaf name d value ∈ entries filters depth fields) :
    filters.find? name = some d := by
  have hfound : ∀ v ∈ entries filters depth fields,
      ∀ name d value, v = leaf name d value → filters.find? name = some d := by
    apply forall_mem_entries
    · intro f _ name d value heq
      cases heq
    · rintro name d value hd _ _ _ ⟨⟩
      exact hd
  exact hfound _ h name d value rfl

end

/-! ### Sweeps -/

/-- What a sweep comes to: the stop of the first visit that ends it, or the predicates of all. -/
abbrev Swept := Except Stop (List Predicate) × BindTable

/-- What a sweep over one visit comes to. -/
def swept : Except FilterError Predicate × BindTable → Swept
  | (.error e, table) => (.error (.failed e), table)
  | (.ok .noMatch, table) => (.error .unmatchable, table)
  | (.ok predicate, table) => (.ok [predicate], table)

/-- Go on with a sweep, where nothing stopped it. -/
def resumed (rest : BindTable → Swept) : Swept → Swept
  | (.error s, table) => (.error s, table)
  | (.ok ps, table) => ((rest table).1.map (ps ++ ·), (rest table).2)

/-- Make visits one after another, until one of them stops the walk. -/
def sweep : List Visit → BindTable → Swept
  | [], table => (.ok [], table)
  | v :: rest, table => resumed (sweep rest) (swept (v.pass.outcome table))

theorem resumed_ok_nil (rest : BindTable → Swept) (table : BindTable) :
    resumed rest (.ok [], table) = rest table := by
  rw [resumed]
  match rest table with
  | (.error s, table') => rfl
  | (.ok ps, table') => rfl

theorem resumed_resumed (f g : BindTable → Swept) (x : Swept) :
    resumed f (resumed g x) = resumed (fun table => resumed f (g table)) x := by
  match x with
  | (.error s, table) => rfl
  | (.ok ps, table) =>
    simp only [resumed]
    match g table with
    | (.error s, table') => rfl
    | (.ok qs, table') =>
      simp only [Except.map]
      match f table' with
      | (.error s, table'') => rfl
      | (.ok rs, table'') => simp only [List.append_assoc]

/-- A sweep goes on with further visits, where none of the first ones stops it. -/
theorem sweep_append (xs ys : List Visit) (table : BindTable) :
    sweep (xs ++ ys) table = resumed (sweep ys) (sweep xs table) := by
  induction xs generalizing table with
  | nil => rw [List.nil_append, sweep, resumed_ok_nil]
  | cons v xs ih =>
    have hrest : sweep (xs ++ ys) = fun table => resumed (sweep ys) (sweep xs table) := funext ih
    rw [List.cons_append, sweep, sweep, hrest, resumed_resumed]

theorem sweep_singleton (v : Visit) (table : BindTable) :
    sweep [v] table = swept (v.pass.outcome table) := by
  rw [sweep]
  match v.pass.outcome table with
  | (.error e, table') => rfl
  | (.ok .noMatch, table') => rfl
  | (.ok .empty, table') => rfl
  | (.ok (.sql text), table') => rfl

end Visit

/-! ### Walks follow sweeps -/

/-- A predicate that rows have to satisfy. -/
def Predicate.Restricts (predicate : Predicate) : Prop :=
  ∃ text, predicate = .sql text

/-- What a walk comes to follows a sweep: it stops where the sweep does, and where nothing stops it,
it restricts rows if one of the visits did. -/
inductive Follows {α : Type} (unmatched : α) (restricts : α → Prop) :
    Except FilterError α × BindTable → Visit.Swept → Prop
  | stopped (s : Stop) (table : BindTable) :
    Follows unmatched restricts (stopResult unmatched s, table) (.error s, table)
  | walked {a : α} {ps : List Predicate} (table : BindTable) (ha : a ≠ unmatched)
      (hps : restricts a ↔ ∃ predicate ∈ ps, predicate.Restricts) :
    Follows unmatched restricts (.ok a, table) (.ok ps, table)

/-- The predicate of a group follows a sweep. -/
abbrev FollowsGroup := Follows Predicate.noMatch Predicate.Restricts

/-- The fragments of entries follow a sweep. -/
abbrev FollowsEntries :=
  Follows (none : Option (List String)) fun fragments => ∃ text texts, fragments = some (text :: texts)

namespace Compile

open Visit (swept resumed sweep)

theorem follows_swept (x : Except FilterError Predicate × BindTable) :
    FollowsGroup x (swept x) := by
  match x with
  | (.error e, table) => exact .stopped (.failed e) table
  | (.ok .noMatch, table) => exact .stopped .unmatchable table
  | (.ok .empty, table) => exact .walked table nofun (by simp)
  | (.ok (.sql text), table) => exact .walked table nofun (by simp)

theorem follows_skipped (table : BindTable) : FollowsGroup (.ok .empty, table) (sweep [] table) :=
  .walked table nofun (by simp [Predicate.Restricts])

theorem follows_continued {first : Except FilterError Predicate × BindTable} {x : Visit.Swept}
    {rest : BindTable → Except FilterError (Option (List String)) × BindTable}
    {y : BindTable → Visit.Swept} (hfirst : FollowsGroup first x)
    (hrest : ∀ table, FollowsEntries (rest table) (y table)) :
    FollowsEntries (continued rest first) (resumed y x) := by
  cases hfirst with
  | stopped s table =>
    cases s with
    | failed e => exact .stopped (.failed e) table
    | unmatchable => exact .stopped .unmatchable table
  | @walked predicate ps table hpredicate hps =>
    have hfollows := hrest table
    cases predicate with
    | noMatch => exact absurd rfl hpredicate
    | empty =>
      -- the visits up to here restrict nothing, so those behind decide
      have hnone : ¬ ∃ p ∈ ps, p.Restricts := fun h => by cases (hps.2 h).choose_spec
      rw [continued, resumed]
      generalize rest table = others, y table = ys at hfollows ⊢
      cases hfollows with
      | stopped s table' => exact .stopped s table'
      | walked table' hothers hqs =>
        refine .walked table' hothers (hqs.trans ?_)
        simp only [List.mem_append, or_and_right, exists_or, hnone, false_or]
    | sql text =>
      -- a fragment restricts already, whatever those behind do
      have hsome : ∃ p ∈ ps, p.Restricts := hps.1 ⟨text, rfl⟩
      rw [continued, resumed]
      generalize rest table = others, y table = ys at hfollows ⊢
      cases hfollows with
      | stopped s table' =>
        cases s with
        | failed e => exact .stopped (.failed e) table'
        | unmatchable => exact .stopped .unmatchable table'
      | @walked fragments qs table' hothers hqs =>
        cases fragments with
        | none => exact absurd rfl hothers
        | some texts =>
          refine .walked table' (Option.some_ne_none _) ⟨fun _ => ?_, fun _ => ⟨text, texts, rfl⟩⟩
          obtain ⟨p, hp, hrestricts⟩ := hsome
          exact ⟨p, List.mem_append_left qs hp, hrestricts⟩

theorem follows_joined {x : Except FilterError (Option (List String)) × BindTable}
    {y : Visit.Swept} (h : FollowsEntries x y) (combinator : Combinator) :
    FollowsGroup (x.1.map (joined combinator), x.2) y := by
  cases h with
  | stopped s table =>
    cases s with
    | failed e => exact .stopped (.failed e) table
    | unmatchable => exact .stopped .unmatchable table
  | @walked fragments ps table hfragments hps =>
    cases fragments with
    | none => exact absurd rfl hfragments
    | some texts =>
      refine .walked table ?_ (Iff.trans ?_ hps)
      · cases texts <;> simp [joined, Predicate.join]
      · cases texts <;> simp [Predicate.Restricts, joined, Predicate.join]

mutual
theorem group_follows (filters : FilterSet) (key : String) (combinator : Combinator) (depth : Nat)
    (value : Json) (table : BindTable) :
    FollowsGroup ((group filters key combinator depth value).outcome table)
      (sweep (Visit.group filters key depth value) table) := by
  rcases Nat.lt_or_ge maxBodyDepth depth with hdeep | hdepth
  · have hvisits : Visit.group filters key depth value = [.fault .tooDeep] := by
      cases value with
      | object fields => rw [Visit.group, if_pos hdeep]
      | _ =>
        rw [Visit.group, if_pos hdeep]
        intros
        contradiction
    rw [group_tooDeep hdeep, hvisits, Visit.sweep_singleton]
    exact .stopped (.failed (.invalidBody .tooDeep)) table
  · match value with
    | .object fields =>
      rw [group_object_outcome hdepth, Visit.group, if_neg (Nat.not_lt.2 hdepth)]
      exact follows_joined (entries_follows filters depth fields table) combinator
    | .null | .bool _ | .number _ | .string _ | .array _ =>
      rw [group_malformed hdepth (by nofun), Visit.group, if_neg (Nat.not_lt.2 hdepth),
        Visit.sweep_singleton]
      · exact .stopped (.failed (.invalidBody (.combinatorNotMapping key))) table
      · intros
        contradiction

theorem entries_follows (filters : FilterSet) (depth : Nat) (fields : List (String × Json))
    (table : BindTable) :
    FollowsEntries ((entries filters depth fields).outcome table)
      (sweep (Visit.entries filters depth fields) table) := by
  match fields with
  | [] =>
    rw [entries_nil_outcome]
    exact .walked table nofun (by simp)
  | (key, value) :: rest =>
    rw [entries_cons_outcome, Visit.entries, Visit.sweep_append]
    refine follows_continued ?_ (entries_follows filters depth rest)
    cases hkey : Combinator.ofKey? key with
    | some combinator =>
      rw [entry_of_combinator hkey]
      exact group_follows filters key combinator (depth + 1) value table
    | none =>
      cases hd : filters.find? key with
      | some d =>
        rw [entry_of_filter hkey hd, Visit.sweep_singleton]
        exact follows_swept _
      | none =>
        rw [entry_of_skipped hkey hd]
        exact follows_skipped table
end

/-- Compiling a mapping follows the sweep over its visits. -/
theorem mapping_follows (filters : FilterSet) (default : Combinator)
    (fields : List (String × Json)) (table : BindTable) :
    FollowsGroup ((mapping filters default fields).outcome table)
      (sweep (Visit.ofMapping filters fields) table) := by
  by_cases hlone : IsLone fields
  · rw [Visit.ofMapping, Visit.topDepth_of_lone hlone]
    obtain ⟨key, value, combinator, rfl, hkey⟩ := hlone
    have hvisits : Visit.entries filters 0 [(key, value)] = Visit.group filters key 1 value := by
      simp only [Visit.entries, hkey, List.append_nil]
    rw [mapping_of_lone hkey, hvisits]
    exact group_follows filters key combinator 1 value table
  · rw [mapping_of_not_lone hlone, Visit.ofMapping, Visit.topDepth_of_not_lone hlone]
    exact follows_joined (entries_follows filters 1 fields table) default

end Compile

end Criteria
