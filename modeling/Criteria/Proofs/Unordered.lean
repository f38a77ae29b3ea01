import Criteria.Proofs.Reordered
import Criteria.Proofs.Walk
import Mathlib.Data.Multiset.Bind

/-!
# Outlines of reordered bodies

The outlines of two bodies that differ in the order of the fields of their mappings agree: unless one
of them is an error, both stop at what no row passes, or both bind the same values. Which entry a
walk stops at depends on the order, so the outlines are compared entry by entry, each with its
partner, and put together without regard to the order. Main statement: `Outline.body_agree`.
-/

namespace Criteria

open Json (AtKey Reordered ReorderedList perm_map_of_rel)

/-- The functions of the conversions that the filters of the set make read elements alike, in
whatever order the fields of an element stand. -/
def FilterSet.ConversionsIgnoreOrder (filters : FilterSet) : Prop :=
  ∀ name d, filters.find? name = some d → d.kind = .mappedList → d.convert.IgnoresOrder

/-! ### Tests of the same elements -/

namespace SameElements

variable {xs ys : List BindValue}

theorem contains_eq (h : SameElements xs ys) (v : BindValue) : xs.contains v = ys.contains v := by
  induction h with
  | nil => rfl
  | cons h _ ih => rw [List.contains_cons, List.contains_cons, ih, BEq.congr_right h]

theorem isEmpty_eq (h : SameElements xs ys) : xs.isEmpty = ys.isEmpty := by
  cases h <;> rfl

theorem filter {p q : BindValue → Bool} (h : SameElements xs ys)
    (hpq : ∀ x y, (x == y) = true → p x = q y) : SameElements (xs.filter p) (ys.filter q) :=
  List.rel_filter (fun x y hxy => by simp only [hpq x y hxy]) h

theorem dedup (h : SameElements xs ys) : SameElements (Criteria.dedup xs) (Criteria.dedup ys) := by
  induction h with
  | nil => exact .nil
  | cons h _ ih =>
    refine .cons h (ih.filter ?_)
    intro x y hxy
    rw [BEq.congr_left h, BEq.congr_right hxy]

theorem difference {zs ws : List BindValue} (h : SameElements xs ys) (h' : SameElements zs ws) :
    SameElements (Criteria.difference xs zs) (Criteria.difference ys ws) := by
  refine h.filter ?_
  intro x y hxy
  rw [h'.contains_eq, List.contains_congr hxy]

end SameElements

/-! ### The same values in another order -/

/-- Two lists hold equal values, each as often as the other. -/
abbrev SameValues (xs ys : List BindValue) : Prop :=
  Multiset.Rel (fun x y => (x == y) = true) (xs : Multiset BindValue) ys

theorem SameValues.of_perm {xs ys : List BindValue} (h : xs.Perm ys) : SameValues xs ys := by
  rw [SameValues, Multiset.coe_eq_coe.2 h]
  exact Multiset.rel_refl_of_refl_on fun x _ => BindValue.beq_refl x

/-- The values of a condition, if there is one. -/
def valuesOf (o : Option (Condition BindValue)) : List BindValue :=
  Condition.valuesAll o.toList

theorem valuesOf_join? (combinator : Combinator) (cs : List (Condition BindValue)) :
    valuesOf (Condition.join? combinator cs) = Condition.valuesAll cs := by
  cases cs with
  | nil => rfl
  | cons c cs => exact List.append_nil _

namespace Outline

/-! ### Outlines that agree -/

/-- Two outlines agree where neither failed: both cannot be matched, or both bind the same values. -/
inductive Agree {α : Type} (values : α → List BindValue) :
    Except Stopped α → Except Stopped α → Prop
  | failed (e : FilterError) (bound : List BindValue) (o : Except Stopped α) :
      Agree values (.error ⟨.failed e, bound⟩) o
  | fails (o : Except Stopped α) (e : FilterError) (bound : List BindValue) :
      Agree values o (.error ⟨.failed e, bound⟩)
  | unmatchable (bound bound' : List BindValue) :
      Agree values (.error ⟨.unmatchable, bound⟩) (.error ⟨.unmatchable, bound'⟩)
  | ok {a a' : α} (h : SameValues (values a) (values a')) : Agree values (.ok a) (.ok a')

theorem Agree.refl {α : Type} {values : α → List BindValue} (o : Except Stopped α) :
    Agree values o o := by
  match o with
  | .ok a => exact .ok (.of_perm (List.Perm.refl _))
  | .error ⟨.failed e, bound⟩ => exact .failed e bound _
  | .error ⟨.unmatchable, bound⟩ => exact .unmatchable bound bound

/-! ### Leaves in another order -/

theorem ofMembership_agree (field : String) {only only' except except' : Option (List BindValue)}
    (honly : Option.Rel SameElements only only')
    (hexcept : Option.Rel SameElements except except') :
    Agree valuesOf (ofMembership field (.ofLists only except))
      (ofMembership field (.ofLists only' except')) := by
  have hlist (negated : Bool) {xs ys : List BindValue} (h : SameElements xs ys) :
      Agree valuesOf
        (.ok (some (.group .all (.test (.membership field negated (.list xs))) [])))
        (.ok (some (.group .all (.test (.membership field negated (.list ys))) []))) := by
    have hvalue : (BindValue.list xs == .list ys) = true := (BindValue.beqList_iff_forall₂ xs ys).2 h
    exact .ok (Multiset.Rel.cons (r := fun x y => (x == y) = true) hvalue .zero)
  -- the outcomes have one shape, since equal lists are empty together
  cases honly with
  | none =>
    cases hexcept with
    | none => exact .refl _
    | some hexcept =>
      rw [Membership.ofLists_except, Membership.ofLists_except, hexcept.isEmpty_eq]
      split
      · exact .refl _
      · exact hlist true hexcept.dedup
  | some honly =>
    cases hexcept with
    | none =>
      rw [Membership.ofLists_only, Membership.ofLists_only, honly.isEmpty_eq]
      split
      · exact .refl _
      · exact hlist false honly.dedup
    | some hexcept =>
      have hleft := honly.dedup.difference hexcept.dedup
      rw [Membership.ofLists_only_except, Membership.ofLists_only_except, hleft.isEmpty_eq]
      split
      · exact .refl _
      · exact hlist false hleft

theorem sets_agree {filter : String} {spec : FilterSpec}
    (hspec : spec.kind = .mappedList → spec.convert.IgnoresOrder) (hset : spec.IsSet) {x y : Json}
    (h : Reordered x y) : Agree valuesOf (sets filter spec x) (sets filter spec y) := by
  have hside := FilterSpec.map_elements_reordered hspec hset
  cases h with
  | array h => exact ofMembership_agree spec.field (hside .only (.some h)) .none
  | object hkeys hperm h =>
    have hobject := Reordered.object hkeys hperm h
    exact ofMembership_agree spec.field (hside .only (SetBody.side?_reordered hobject .only))
      (hside .except (SetBody.side?_reordered hobject .except))
  | _ => exact .refl _

theorem bounds_reordered (filter : String) {x y : Json} (h : Reordered x y) :
    (Clause.bounds filter x).mapError (fun _ => ()) =
      (Clause.bounds filter y).mapError fun _ => () := by
  cases h with
  | array h =>
    match h with
    | .cons hfirst (.cons hsecond .nil) =>
      exact Clause.bounds_congr (fun _ _ _ => rfl) filter (Timestamp.ofJson?_reordered hfirst)
        (Timestamp.ofJson?_reordered hsecond)
    | .nil | .cons _ .nil | .cons _ (.cons _ (.cons _ _)) => rfl
  | _ => rfl

/-- The test of one entry of a timestamp filter, if the entry is a comparison with what it asks for. -/
def test? (filter field key : String) (operand : Json) : Option (Except Unit (Test BindValue)) :=
  (Comparison.ofKey? key).map fun op => (comparison filter field op operand).mapError fun _ => ()

theorem test?_reordered (filter field key : String) {x y : Json} (h : Reordered x y) :
    test? filter field key x = test? filter field key y := by
  have hcomparison (op : Comparison) :
      (comparison filter field op x).mapError (fun _ => ()) =
        (comparison filter field op y).mapError fun _ => () :=
    comparison_congr (fun _ _ _ => rfl) filter field op (Timestamp.ofJson?_reordered h)
      (bounds_reordered filter h)
  simp only [test?, hcomparison]

theorem comparisons_eq_ok {filter field : String} {fields : List (String × Json)}
    {ts : List (Test BindValue)} (h : comparisons filter field fields = .ok ts) :
    (fields.map fun f => test? filter field f.1 f.2) = ts.map fun t => some (.ok t) := by
  induction fields generalizing ts with
  | nil =>
    cases h
    rfl
  | cons f rest ih =>
    obtain ⟨op, t, us, hop, ht, hus, rfl⟩ := comparisons_cons_eq_ok h
    rw [List.map_cons, List.map_cons, ih hus, test?, hop, Option.map_some, ht]
    rfl

theorem timestampRange_agree (filter field : String) {x y : Json} (h : Reordered x y) :
    Agree valuesOf (timestampRange filter field x) (timestampRange filter field y) := by
  cases h with
  | @object fs _ gs hkeys hperm h =>
    have hrel := (Reordered.object hkeys hperm h).rel_fields.2
    rw [timestampRange, timestampRange]
    match hts : comparisons filter field fs, hus : comparisons filter field gs with
    | .error (e, bound), _ => exact .failed e bound _
    | .ok ts, .error (e, bound) => exact .fails _ e bound
    | .ok ts, .ok us =>
      have hperm := perm_map_of_rel (F := test? filter field)
        (fun key _ _ hvalue => test?_reordered filter field key hvalue) hrel
      have hinjective : Function.Injective
          fun t => (some (.ok t) : Option (Except Unit (Test BindValue))) := by
        intro t u h
        exact Except.ok.inj (Option.some.inj h)
      rw [comparisons_eq_ok hts, comparisons_eq_ok hus,
        List.map_perm_map_iff hinjective] at hperm
      refine .ok ?_
      rw [valuesOf_join?, valuesOf_join?, valuesAll_tests, valuesAll_tests]
      exact .of_perm (hperm.flatMap_right _)
  | _ => exact .refl _

theorem leaf_agree {filter : String} {spec : FilterSpec}
    (hspec : spec.kind = .mappedList → spec.convert.IgnoresOrder) {x y : Json}
    (h : Reordered x y) : Agree valuesOf (leaf filter spec x) (leaf filter spec y) := by
  rcases spec.kind_cases with hset | hrange | hother
  · rw [leaf_of_isSet hset, leaf_of_isSet hset]
    exact sets_agree hspec hset h
  · rw [leaf_of_timestampRange hrange, leaf_of_timestampRange hrange]
    exact timestampRange_agree filter spec.field h
  · rw [leaf_of_other hother, leaf_of_other hother]
    exact .refl _

/-! ### Entries in another order -/

/-- The outline of one entry of a mapping. -/
def entry (filters : FilterSet) (depth : Nat) (key : String) (value : Json) :
    Except Stopped (Option (Condition BindValue)) :=
  match Combinator.ofKey? key with
  | some combinator => group filters key combinator (depth + 1) value
  | none =>
    match filters.find? key with
    | some descriptor => leaf key descriptor.toFilterSpec value
    | none => .ok none

/-- Outlines one after the other. -/
def gathered (os : List (Except Stopped (Option (Condition BindValue)))) :
    Except Stopped (List (Condition BindValue)) :=
  os.foldr followedBy (.ok [])

theorem entries_eq_gathered (filters : FilterSet) (depth : Nat) (fields : List (String × Json)) :
    entries filters depth fields =
      gathered (fields.map fun f => entry filters depth f.1 f.2) := by
  induction fields with
  | nil =>
    rw [entries]
    rfl
  | cons f rest ih =>
    obtain ⟨key, value⟩ := f
    rw [entries, ih]
    rfl

theorem gathered_eq_ok {os : List (Except Stopped (Option (Condition BindValue)))}
    {cs : List (Condition BindValue)} (h : gathered os = .ok cs) :
    ∃ found : List (Option (Condition BindValue)),
      os = found.map .ok ∧ Condition.valuesAll cs = found.flatMap valuesOf := by
  induction os generalizing cs with
  | nil =>
    cases h
    exact ⟨[], rfl, rfl⟩
  | cons o os ih =>
    obtain ⟨c?, ds, rfl, hds, rfl⟩ := followedBy_eq_ok h
    obtain ⟨found, rfl, hvalues⟩ := ih hds
    refine ⟨c? :: found, rfl, ?_⟩
    rw [List.flatMap_cons, ← hvalues]
    cases c? with
    | none => rfl
    | some c => simp [valuesOf, Condition.valuesAll]

/-- Where outlines stop, one of them stops for the same cause. -/
theorem gathered_eq_error {os : List (Except Stopped (Option (Condition BindValue)))}
    {s : Stopped} (h : gathered os = .error s) :
    ∃ bound, .error ⟨s.cause, bound⟩ ∈ os := by
  induction os generalizing s with
  | nil => cases h
  | cons o os ih =>
    have hrest {s' : Stopped} (hs : gathered os = .error s') (hcause : s'.cause = s.cause) :
        ∃ bound, .error ⟨s.cause, bound⟩ ∈ o :: os := by
      obtain ⟨bound, hmem⟩ := ih hs
      exact ⟨bound, List.mem_cons_of_mem _ (hcause ▸ hmem)⟩
    change followedBy o (gathered os) = .error s at h
    rcases o with s' | _ | c
    · cases h
      exact ⟨_, List.mem_cons_self⟩
    · exact hrest h rfl
    · cases hs : gathered os with
      | ok cs =>
        rw [hs] at h
        cases h
      | error s' =>
        rw [hs] at h
        cases h
        exact hrest hs rfl

/-- Where a walk is stopped by what no row passes, the partner of that entry comes to no condition
either. -/
theorem gathered_ne_ok {agree : Except Stopped (Option (Condition BindValue)) →
      Except Stopped (Option (Condition BindValue)) → Prop}
    (hagree : ∀ bound c?, ¬ agree (.error ⟨.unmatchable, bound⟩) (.ok c?))
    {os os' : List (Except Stopped (Option (Condition BindValue)))}
    (h : Multiset.Rel agree (os : Multiset _) (os' : Multiset _)) {bound : List BindValue}
    (hos : gathered os = .error ⟨.unmatchable, bound⟩) (cs : List (Condition BindValue)) :
    gathered os' ≠ .ok cs := by
  intro hos'
  obtain ⟨found, rfl, -⟩ := gathered_eq_ok hos'
  obtain ⟨bound', hmem⟩ := gathered_eq_error hos
  obtain ⟨o, ho, hpartner⟩ := Multiset.exists_mem_of_rel_of_mem h (Multiset.mem_coe.2 hmem)
  obtain ⟨c?, -, rfl⟩ := List.mem_map.1 (Multiset.mem_coe.1 ho)
  exact hagree bound' c? hpartner

/-- Outlines that agree each with its partner agree when they are put together, in whatever
order. -/
theorem gathered_agree {os os' : List (Except Stopped (Option (Condition BindValue)))}
    (h : Multiset.Rel (Agree valuesOf) (os : Multiset _) (os' : Multiset _)) :
    Agree Condition.valuesAll (gathered os) (gathered os') := by
  match hos : gathered os, hos' : gathered os' with
  | .error ⟨.failed e, bound⟩, _ => exact .failed e bound _
  | _, .error ⟨.failed e, bound⟩ => exact .fails _ e bound
  | .error ⟨.unmatchable, bound⟩, .error ⟨.unmatchable, bound'⟩ => exact .unmatchable bound bound'
  | .ok cs, .ok cs' =>
    obtain ⟨found, rfl, hvalues⟩ := gathered_eq_ok hos
    obtain ⟨found', rfl, hvalues'⟩ := gathered_eq_ok hos'
    rw [← Multiset.map_coe, ← Multiset.map_coe, Multiset.rel_map] at h
    refine .ok ?_
    rw [hvalues, hvalues', SameValues, ← Multiset.coe_bind, ← Multiset.coe_bind]
    refine Multiset.rel_bind ?_ h
    intro c? c?' hagree
    cases hagree with
    | ok hagree => exact hagree
  | .error ⟨.unmatchable, bound⟩, .ok cs =>
    exact absurd hos' (gathered_ne_ok (fun _ _ hagree => by cases hagree) h hos cs)
  | .ok cs, .error ⟨.unmatchable, bound⟩ =>
    exact absurd hos
      (gathered_ne_ok (fun _ _ hagree => by cases hagree) (Multiset.rel_flip.2 h) hos' cs)

/-! ### Bodies in another order -/

theorem Agree.joined {combinator : Combinator}
    {o o' : Except Stopped (List (Condition BindValue))} (h : Agree Condition.valuesAll o o') :
    Agree valuesOf (o.map (Condition.join? combinator)) (o'.map (Condition.join? combinator)) := by
  cases h with
  | failed e bound o => exact .failed e bound _
  | fails o e bound => exact .fails _ e bound
  | unmatchable bound bound' => exact .unmatchable bound bound'
  | ok h =>
    refine .ok ?_
    rwa [valuesOf_join?, valuesOf_join?]

section
variable {filters : FilterSet}

/-- The entries of two mappings agree where their outlines do, each with its partner. -/
theorem entries_agree {depth : Nat} {fs gs : List (String × Json)}
    (h : Multiset.Rel (Json.AtKey fun x y => ∀ key,
      Agree valuesOf (entry filters depth key x) (entry filters depth key y))
      (fs : Multiset (String × Json)) gs) :
    Agree Condition.valuesAll (entries filters depth fs) (entries filters depth gs) := by
  rw [entries_eq_gathered, entries_eq_gathered]
  apply gathered_agree
  rw [← Multiset.map_coe, ← Multiset.map_coe, Multiset.rel_map]
  refine h.mono ?_
  rintro ⟨key, x⟩ - ⟨_, y⟩ - ⟨rfl, hagree⟩
  exact hagree key

variable (hfilters : filters.ConversionsIgnoreOrder)
include hfilters

theorem entry_agree {depth : Nat} {x y : Json} (h : Reordered x y)
    (hgroup : ∀ key combinator,
      Agree valuesOf (group filters key combinator (depth + 1) x)
        (group filters key combinator (depth + 1) y)) (key : String) :
    Agree valuesOf (entry filters depth key x) (entry filters depth key y) := by
  unfold entry
  split
  · exact hgroup _ _
  · split
    · next d hd => exact leaf_agree (hfilters key d hd) h
    · exact .refl _

theorem group_agree {x y : Json} (h : Reordered x y) (key : String) (combinator : Combinator)
    (depth : Nat) :
    Agree valuesOf (group filters key combinator depth x)
      (group filters key combinator depth y) := by
  refine h.induct (P := fun x y => ∀ key combinator depth,
    Agree valuesOf (group filters key combinator depth x) (group filters key combinator depth y))
    (fun _ _ _ => .refl _) (fun _ _ _ _ => .refl _) (fun _ _ _ _ => .refl _)
    (fun _ _ _ _ => .refl _) ?array ?object key combinator depth
  case array =>
    intro xs ys _ key combinator depth
    simp only [group]
    exact .refl _
  case object =>
    intro fs gs _ hrel key combinator depth
    rw [group, group]
    split
    · exact .refl _
    · refine (entries_agree (hrel.mono ?_)).joined
      rintro f - g - ⟨hkey, hvalue, hgroup⟩
      exact ⟨hkey, entry_agree hfilters hvalue fun key combinator => hgroup key combinator _⟩

theorem mapping_agree {fs gs : List (String × Json)} (h : Reordered (.object fs) (.object gs))
    (default : Combinator) :
    Agree valuesOf (mapping filters default fs) (mapping filters default gs) := by
  have hrel := h.rel_fields.2
  by_cases hlone : IsLone fs
  · obtain ⟨key, value, combinator, rfl, hkey⟩ := hlone
    obtain ⟨value', rfl, hvalue⟩ := Json.eq_singleton_of_rel hrel
    rw [mapping_eq_group hkey, mapping_eq_group hkey]
    exact group_agree hfilters hvalue key combinator 1
  · have hlone' : ¬ IsLone gs := by
      rw [isLone_iff_keys] at hlone ⊢
      rintro ⟨key, combinator, hkeys, hkey⟩
      have hperm := Json.keys_perm_of_rel hrel
      rw [hkeys] at hperm
      exact hlone ⟨key, combinator, List.perm_singleton.1 hperm, hkey⟩
    rw [mapping_eq_entries hlone, mapping_eq_entries hlone']
    refine (entries_agree (hrel.mono ?_)).joined
    rintro f - g - ⟨hkey, hvalue⟩
    exact ⟨hkey, entry_agree hfilters hvalue fun key combinator =>
      group_agree hfilters hvalue key combinator _⟩

theorem body_agree {b b' : Body} (h : Reordered b.toJson b'.toJson) (default : Combinator) :
    Agree valuesOf (body filters b default) (body filters b' default) := by
  unfold body Body.fields?
  generalize b.toJson = x at h ⊢
  generalize b'.toJson = y at h ⊢
  cases h with
  | object hkeys hperm h => exact mapping_agree hfilters (.object hkeys hperm h) default
  | _ => exact .refl _

end

end Outline

end Criteria
