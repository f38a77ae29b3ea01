import Mathlib.Data.List.Infix
import Criteria.Proofs.Simulation
import Criteria.Proofs.Walk

/-!
# Parentheses of predicates

Every predicate is one expression in parentheses: the parenthesis that it begins with is closed by
its last character and not before. So is the text of each group and of each filter that has no
generator; a generator may give any text that closes what it opens, as long as it puts no
parentheses into the names of the table. Main statements: `Compiler.predicates_enclosed`, and
`Compiler.parentheses_left_open` for a generator that does.
-/

namespace Criteria

namespace Text

/-! ### Balance -/

/-- How many more parentheses a text opens than it closes. -/
def depth (cs : List Char) : Int :=
  (cs.count '(' : Int) - cs.count ')'

/-- No part in front closes more than it opened, and nothing is left open. -/
structure IsBalanced (cs : List Char) : Prop where
  nonneg : ∀ front, front <+: cs → 0 ≤ depth front
  closed : depth cs = 0

theorem isBalanced_iff {cs : List Char} :
    IsBalanced cs ↔ (∀ front ∈ cs.inits, 0 ≤ depth front) ∧ depth cs = 0 := by
  constructor
  · intro h
    exact ⟨fun front hfront => h.nonneg front ((List.mem_inits front cs).1 hfront), h.closed⟩
  · rintro ⟨hnonneg, hclosed⟩
    exact ⟨fun front hfront => hnonneg front ((List.mem_inits front cs).2 hfront), hclosed⟩

instance (cs : List Char) : Decidable (IsBalanced cs) :=
  decidable_of_iff _ isBalanced_iff.symm

/-- The parenthesis that a text begins with is closed by its last character only. -/
structure IsEnclosed (cs : List Char) : Prop where
  opens : cs.head? = some '('
  pos : ∀ front, front <+: cs → front ≠ [] → front ≠ cs → 0 < depth front
  closed : depth cs = 0

/-- No parenthesis stands in a text. -/
def IsFlat (cs : List Char) : Prop :=
  '(' ∉ cs ∧ ')' ∉ cs

instance (cs : List Char) : Decidable (IsFlat cs) :=
  inferInstanceAs (Decidable (_ ∧ _))

/-- Cut a text behind the character that closes the last open parenthesis, where some may have been
opened before. -/
def cutGroup (opened : Int) : List Char → Option (List Char × List Char)
  | [] => none
  | c :: cs =>
    if opened + depth [c] = 0 then some ([c], cs)
    else (cutGroup (opened + depth [c]) cs).map fun (group, rest) => (c :: group, rest)

theorem depth_append (xs ys : List Char) : depth (xs ++ ys) = depth xs + depth ys := by
  simp only [depth, List.count_append]
  omega

theorem depth_cons (c : Char) (cs : List Char) : depth (c :: cs) = depth [c] + depth cs :=
  depth_append [c] cs

theorem IsFlat.depth {cs : List Char} (h : IsFlat cs) : depth cs = 0 := by
  rw [Text.depth, List.count_eq_zero_of_not_mem h.1, List.count_eq_zero_of_not_mem h.2]
  rfl

theorem IsFlat.append {xs ys : List Char} (hxs : IsFlat xs) (hys : IsFlat ys) : IsFlat (xs ++ ys) :=
  ⟨List.not_mem_append hxs.1 hys.1, List.not_mem_append hxs.2 hys.2⟩

theorem IsFlat.isBalanced {cs : List Char} (h : IsFlat cs) : IsBalanced cs where
  nonneg front hfront := by
    have hflat : IsFlat front := ⟨mt (hfront.subset ·) h.1, mt (hfront.subset ·) h.2⟩
    exact Int.le_of_eq hflat.depth.symm
  closed := h.depth

/-- A part in front of a concatenation ends in the first text or in the second. -/
theorem prefix_append_cases {front xs ys : List Char} (h : front <+: xs ++ ys) :
    front <+: xs ∨ ∃ more, more <+: ys ∧ front = xs ++ more := by
  rcases List.prefix_or_prefix_of_prefix h (List.prefix_append xs ys) with hshort | ⟨more, rfl⟩
  · exact Or.inl hshort
  · exact Or.inr ⟨more, (List.prefix_append_right_inj xs).1 h, rfl⟩

theorem IsBalanced.append {xs ys : List Char} (hxs : IsBalanced xs) (hys : IsBalanced ys) :
    IsBalanced (xs ++ ys) where
  nonneg front hfront := by
    rcases prefix_append_cases hfront with hfront | ⟨more, hmore, rfl⟩
    · exact hxs.nonneg front hfront
    · rw [depth_append, hxs.closed, Int.zero_add]
      exact hys.nonneg more hmore
  closed := by rw [depth_append, hxs.closed, hys.closed, Int.zero_add]

theorem isBalanced_intercalate {separator : String} (hseparator : IsBalanced separator.toList)
    {texts : List String} (h : ∀ text ∈ texts, IsBalanced text.toList) :
    IsBalanced (separator.intercalate texts).toList := by
  rw [String.toList_intercalate]
  induction texts with
  | nil =>
    have hnil : IsFlat [] := by decide
    exact hnil.isBalanced
  | cons text rest ih =>
    rw [List.forall_mem_cons] at h
    cases rest with
    | nil => simpa using h.1
    | cons next rest =>
      rw [List.map_cons, List.map_cons, List.intercalate_cons_cons]
      exact (h.1.append hseparator).append (ih h.2)

/-- A balanced text in parentheses: these match each other. -/
theorem isEnclosed_parenthesized {text : String} (h : IsBalanced text.toList) :
    IsEnclosed (Predicate.parenthesized text).toList := by
  have htext : (Predicate.parenthesized text).toList = '(' :: (text.toList ++ [')']) := by
    simp [Predicate.parenthesized]
  have hopening : depth ['('] = 1 := by decide
  have hclosing : depth [')'] = -1 := by decide
  rw [htext]
  refine ⟨rfl, ?_, ?_⟩
  · intro front hfront hne hproper
    rcases List.prefix_cons_iff.1 hfront with rfl | ⟨inner, rfl, hinner⟩
    · exact absurd rfl hne
    · rcases List.prefix_concat_iff.1 hinner with rfl | hinner
      · exact absurd rfl hproper
      · have hnonneg := h.nonneg inner hinner
        rw [depth_cons, hopening]
        omega
  · rw [depth_cons, depth_append, h.closed, hopening, hclosing]
    rfl

theorem IsEnclosed.isBalanced {cs : List Char} (h : IsEnclosed cs) : IsBalanced cs where
  nonneg front hfront := by
    by_cases hne : front = []
    · rw [hne]
      decide
    · by_cases hproper : front = cs
      · exact Int.le_of_eq (hproper ▸ h.closed.symm)
      · exact Int.le_of_lt (h.pos front hfront hne hproper)
  closed := h.closed

theorem cutGroup_append {opened : Int} {cs : List Char} (hne : cs ≠ [])
    (hopen : ∀ front, front <+: cs → front ≠ [] → front ≠ cs → opened + depth front ≠ 0)
    (hclosed : opened + depth cs = 0) (rest : List Char) :
    cutGroup opened (cs ++ rest) = some (cs, rest) := by
  -- before its end the text never closes what it opened, so nothing is cut there
  induction cs generalizing opened with
  | nil => exact absurd rfl hne
  | cons c cs ih =>
    rw [List.cons_append, cutGroup]
    cases cs with
    | nil => rw [if_pos hclosed, List.nil_append]
    | cons d cs =>
      have hopened : opened + depth [c] ≠ 0 :=
        hopen [c] (List.prefix_append [c] (d :: cs)) (by simp) (by simp)
      have hcut := @ih (opened + depth [c]) (by simp) (by
        intro front hfront hfront_ne hproper
        rw [Int.add_assoc, ← depth_cons]
        exact hopen (c :: front) (List.cons_prefix_cons.2 ⟨rfl, hfront⟩) (by simp) (by simpa))
        (by rw [Int.add_assoc, ← depth_cons, hclosed])
      rw [if_neg hopened, hcut, Option.map_some]

/-- Whatever stands behind an enclosed text, the group that it begins is the text itself. -/
theorem IsEnclosed.cutGroup_append {cs : List Char} (h : IsEnclosed cs) (rest : List Char) :
    cutGroup 0 (cs ++ rest) = some (cs, rest) := by
  refine Text.cutGroup_append ?_ ?_ ?_ rest
  · rintro rfl
    cases h.opens
  · intro front hfront hne hproper
    have hpos := h.pos front hfront hne hproper
    omega
  · rw [Int.zero_add, h.closed]

end Text

open Text (IsBalanced IsEnclosed IsFlat isEnclosed_parenthesized isBalanced_intercalate)

/-! ### Texts of conditions -/

theorem BindTable.isFlat_nth {stem : String} (h : IsFlat stem.toList) (i : Nat) :
    IsFlat (nth stem i).toList := by
  have hdigits : IsFlat (Decimal.digits (i + 1)) := by
    constructor
    · intro hmem
      cases Decimal.isDigit_of_mem_digits (i + 1) _ hmem
    · intro hmem
      cases Decimal.isDigit_of_mem_digits (i + 1) _ hmem
  rw [nth, nameAt, String.toList_append, Decimal.ofNat, String.toList_ofList]
  exact h.append hdigits

theorem Combinator.isBalanced_sql (combinator : Combinator) :
    IsBalanced (" " ++ combinator.sql ++ " ").toList := by
  apply IsFlat.isBalanced
  cases combinator <;> decide

theorem Test.isBalanced_text {t : Test String} (hfield : IsBalanced t.field.toList)
    (hvalues : ∀ v ∈ t.values, IsFlat v.toList) : IsBalanced t.text.toList := by
  have hcolon {name : String} (h : IsFlat name.toList) : IsFlat (":" ++ name).toList := by
    rw [String.toList_append]
    exact IsFlat.append (by decide) h
  -- only the list of a membership is put in parentheses; all else is flat beside the field
  cases t with
  | membership field negated set =>
    have hset := hcolon (hvalues set (List.mem_singleton.2 rfl))
    have htext : (membership field negated set).text.toList =
        field.toList ++ (if negated then " NOT IN " else " IN ").toList ++
          (Predicate.parenthesized (":" ++ set)).toList := by
      cases negated <;> simp [text, Predicate.parenthesized]
    rw [htext]
    have hin : IsFlat (if negated then " NOT IN " else " IN ").toList := by
      cases negated <;> decide
    have hlist := isEnclosed_parenthesized hset.isBalanced
    exact (hfield.append hin.isBalanced).append hlist.isBalanced
  | relation field r bound =>
    have hbound := hcolon (hvalues bound (List.mem_singleton.2 rfl))
    have hsymbol : IsFlat (" " ++ r.symbol ++ " ").toList := by
      cases r <;> decide
    have htext : (relation field r bound).text.toList =
        field.toList ++ ((" " ++ r.symbol ++ " ").toList ++ (":" ++ bound).toList) := by
      simp [text]
    rw [htext]
    exact hfield.append (hsymbol.append hbound).isBalanced
  | range field negated low high =>
    have hlow := hcolon (hvalues low List.mem_cons_self)
    have hhigh := hcolon (hvalues high (List.mem_cons_of_mem _ List.mem_cons_self))
    have hbetween :
        IsFlat (" " ++ (if negated then "NOT BETWEEN" else "BETWEEN") ++ " ").toList := by
      cases negated <;> decide
    have hand : IsFlat " AND ".toList := by decide
    have htext : (range field negated low high).text.toList =
        field.toList ++ ((" " ++ (if negated then "NOT BETWEEN" else "BETWEEN") ++ " ").toList ++
          (":" ++ low).toList ++ (" AND ".toList ++ (":" ++ high).toList)) := by
      simp [text]
    rw [htext]
    exact hfield.append ((hbetween.append hlow).append (hand.append hhigh)).isBalanced

namespace Condition

/-- A group is one expression in parentheses. -/
theorem isEnclosed_group {combinator : Combinator} {first : Condition String}
    {rest : List (Condition String)} (hfirst : IsBalanced first.text.toList)
    (hrest : ∀ text ∈ texts rest, IsBalanced text.toList) :
    IsEnclosed (group combinator first rest).text.toList := by
  rw [text]
  apply isEnclosed_parenthesized
  exact isBalanced_intercalate combinator.isBalanced_sql (List.forall_mem_cons.2 ⟨hfirst, hrest⟩)

mutual
/-- A condition is written with balanced parentheses, if its fields are and its names have none. -/
theorem isBalanced_text {c : Condition String} (hfields : ∀ f ∈ c.fields, IsBalanced f.toList)
    (hvalues : ∀ v ∈ c.values, IsFlat v.toList) : IsBalanced c.text.toList := by
  match c with
  | .test t => exact t.isBalanced_text (hfields t.field (List.mem_singleton.2 rfl)) hvalues
  | .group combinator first rest =>
    simp only [fields, List.forall_mem_append] at hfields
    simp only [values, List.forall_mem_append] at hvalues
    have hfirst := isBalanced_text hfields.1 hvalues.1
    have hrest := isBalanced_texts hfields.2 hvalues.2
    exact (isEnclosed_group hfirst hrest).isBalanced

theorem isBalanced_texts {cs : List (Condition String)}
    (hfields : ∀ f ∈ fieldsAll cs, IsBalanced f.toList)
    (hvalues : ∀ v ∈ valuesAll cs, IsFlat v.toList) :
    ∀ text ∈ texts cs, IsBalanced text.toList := by
  match cs with
  | [] => exact nofun
  | c :: cs =>
    simp only [fieldsAll, List.forall_mem_append] at hfields
    simp only [valuesAll, List.forall_mem_append] at hvalues
    rw [texts, List.forall_mem_cons]
    exact ⟨isBalanced_text hfields.1 hvalues.1, isBalanced_texts hfields.2 hvalues.2⟩
end

/-- A group stays one expression where its operands get the names of a table. -/
theorem isEnclosed_textAt_group {α : Type} {table : BindTable} (hstem : IsFlat table.stem.toList)
    {combinator : Combinator} {first : Condition α} {rest : List (Condition α)}
    (hfields : ∀ f ∈ (group combinator first rest).fields, IsBalanced f.toList) :
    IsEnclosed ((group combinator first rest).textAt table).toList := by
  have hlabel : ∀ f ∈ ((group combinator first rest).label
      (BindTable.nth table.stem) table.size).fields, IsBalanced f.toList := by
    rw [fields_label]
    exact hfields
  have hnames : ∀ v ∈ ((group combinator first rest).label
      (BindTable.nth table.stem) table.size).values, IsFlat v.toList := by
    rw [values_label]
    intro v hv
    obtain ⟨i, -, rfl⟩ := List.mem_map.1 hv
    exact BindTable.isFlat_nth hstem i
  rw [label, fields, List.forall_mem_append] at hlabel
  rw [label, values, List.forall_mem_append] at hnames
  rw [textAt, label]
  exact isEnclosed_group (isBalanced_text hlabel.1 hnames.1) (isBalanced_texts hlabel.2 hnames.2)

end Condition

/-- A filter that is no custom one asks for a group. -/
theorem Outline.leaf_eq_group {filter : String} {spec : FilterSpec} {value : Json}
    {c : Condition BindValue} (h : leaf filter spec value = .ok (some c)) :
    ∃ combinator first rest, c = .group combinator first rest := by
  -- a set filter asks for one test, a timestamp filter for all of its comparisons
  rcases spec.kind_cases with hset | hrange | hother
  · rw [leaf_of_isSet hset] at h
    obtain ⟨body, -, hm⟩ := sets_eq_ok h
    generalize spec.membership body = membership at hm
    cases membership with
    | within xs =>
      cases hm
      exact ⟨_, _, _, rfl⟩
    | without xs =>
      cases hm
      exact ⟨_, _, _, rfl⟩
    | unrestricted => cases hm
    | impossible => cases hm
  · rw [leaf_of_timestampRange hrange] at h
    rcases timestampRange_eq_ok h with ⟨-, hnone⟩ | ⟨fields, ts, -, -, hjoin⟩
    · cases hnone
    · cases ts with
      | nil => cases hjoin
      | cons t ts =>
        cases hjoin
        exact ⟨_, _, _, rfl⟩
  · rw [leaf_of_other hother] at h
    cases h

/-! ### What passes write -/

namespace Pass

variable {α β : Type}

/-- Where the names of the table have no parentheses, what a pass gives has a property and the table
that it leaves has no parentheses in its names. -/
def Ensures (x : Pass α) (P : α → Prop) : Prop :=
  ∀ table a table', IsFlat table.stem.toList → x.outcome table = (.ok a, table') →
    P a ∧ IsFlat table'.stem.toList

namespace Ensures

variable {x : Pass α} {P : α → Prop} {Q : β → Prop}

theorem pure {a : α} (h : P a) : (Pure.pure a : Pass α).Ensures P := by
  intro table _ _ hstem hout
  cases hout
  exact ⟨h, hstem⟩

theorem fail (e : FilterError) : (Pass.fail e : Pass α).Ensures P := by
  intro table _ _ _ hout
  cases hout

theorem tell (event : Event) : (Pass.tell event).Ensures fun _ => True := by
  intro table _ _ hstem hout
  cases hout
  exact ⟨trivial, hstem⟩

/-- A placeholder has no parenthesis. -/
theorem placeholder (value : BindValue) :
    (Pass.placeholder value).Ensures fun name => IsFlat name.toList := by
  intro table _ _ hstem hout
  cases hout
  refine ⟨?_, hstem⟩
  show IsFlat (":" ++ table.nextName).toList
  rw [String.toList_append]
  exact Text.IsFlat.append (by decide) (BindTable.isFlat_nth hstem table.size)

theorem bind {f : α → Pass β} (hx : x.Ensures P) (hf : ∀ a, P a → (f a).Ensures Q) :
    (x >>= f).Ensures Q := by
  intro table b table' hstem hout
  rw [outcome_bind] at hout
  match hfirst : x.outcome table with
  | (.ok a, between) =>
    rw [hfirst] at hout
    obtain ⟨ha, hbetween⟩ := hx table a between hstem hfirst
    exact hf a ha between b table' hbetween hout
  | (.error e, between) =>
    rw [hfirst] at hout
    cases hout

theorem mono {P' : α → Prop} (hx : x.Ensures P) (h : ∀ a, P a → P' a) : x.Ensures P' := by
  intro table a table' hstem hout
  exact (hx table a table' hstem hout).imp_left (h a)

theorem map {g : α → β} (hx : x.Ensures P) (hg : ∀ a, P a → Q (g a)) : (g <$> x).Ensures Q := by
  rw [← bind_pure_comp]
  exact hx.bind fun a ha => .pure (hg a ha)

end Ensures

end Pass

/-- The text of a predicate, if there is one, has a property. -/
def Predicate.Writes (P : List Char → Prop) (predicate : Predicate) : Prop :=
  ∀ text, predicate = .sql text → P text.toList

theorem Predicate.Writes.isBalanced {predicate : Predicate} (h : predicate.Writes IsEnclosed) :
    predicate.Writes IsBalanced :=
  fun text htext => (h text htext).isBalanced

/-- The fields of the filters are balanced, and so is every text that a generator gives. A generator
also leaves a table whose names have no parentheses, where the names that it found had none: the
filters behind it write these names. -/
structure FilterSet.IsBalanced (filters : FilterSet) : Prop where
  field : ∀ name d, filters.find? name = some d → Text.IsBalanced d.field.toList
  generator : ∀ name d generate, filters.find? name = some d → d.kind = .custom →
    d.generator = some generate → ∀ value,
      (generate name d.toFilterSpec value).Ensures fun text => Text.IsBalanced text.toList

section
variable {filters : FilterSet} (hfilters : filters.IsBalanced)
include hfilters

/-- A filter without a generator gives one expression in parentheses. -/
theorem Clause.compile_enclosed {name : String} {d : Descriptor} (hd : filters.find? name = some d)
    (hkind : d.kind ≠ .custom) (value : Json) :
    (compile name d value).Ensures (Predicate.Writes IsEnclosed) := by
  intro table predicate table' hstem hout
  rw [compile_outcome hkind] at hout
  match hleaf : Outline.leaf name d.toFilterSpec value with
  | .ok none =>
    rw [hleaf] at hout
    cases hout
    exact ⟨nofun, hstem⟩
  | .ok (some c) =>
    rw [hleaf] at hout
    cases hout
    refine ⟨?_, hstem⟩
    rintro _ ⟨⟩
    obtain ⟨combinator, first, rest, rfl⟩ := Outline.leaf_eq_group hleaf
    exact Condition.isEnclosed_textAt_group hstem
      (Outline.forall_fields_leaf (fun _ => hfilters.field name d hd) hleaf _ rfl)
  | .error ⟨.failed e, bound⟩ =>
    rw [hleaf] at hout
    cases hout
  | .error ⟨.unmatchable, bound⟩ =>
    rw [hleaf] at hout
    cases hout
    exact ⟨nofun, hstem⟩

/-- Every filter gives balanced text. -/
theorem Clause.compile_balanced {name : String} {d : Descriptor} (hd : filters.find? name = some d)
    (value : Json) : (compile name d value).Ensures (Predicate.Writes IsBalanced) := by
  by_cases hkind : d.kind = .custom
  · have hcustom : (custom name d value).Ensures (Predicate.Writes IsBalanced) := by
      rw [custom]
      cases hgenerate : d.generator with
      | none => exact .fail _
      | some generate =>
        simp only
        split
        · exact .pure nofun
        · refine (hfilters.generator name d generate hd hkind hgenerate value).bind ?_
          intro text htext
          apply Pass.Ensures.pure
          split
          · exact nofun
          · rintro _ ⟨⟩
            exact htext
    have hofKind : ofKind name d value = custom name d value := by
      rw [ofKind, hkind]
    rw [compile, hofKind]
    exact hcustom.bind fun predicate hpredicate =>
      (Pass.Ensures.tell _).bind fun _ _ => .pure hpredicate
  · exact (compile_enclosed hfilters hd hkind value).mono fun _ => Predicate.Writes.isBalanced

end

namespace Compile

/-- All fragments are balanced, where no entry ended the walk. -/
def Balances (fragments : Option (List String)) : Prop :=
  ∀ texts, fragments = some texts → ∀ text ∈ texts, IsBalanced text.toList

theorem joined_enclosed (combinator : Combinator) {fragments : Option (List String)}
    (h : Balances fragments) : (joined combinator fragments).Writes IsEnclosed := by
  intro text htext
  cases fragments with
  | none => cases htext
  | some texts =>
    rw [joined, Predicate.join] at htext
    split at htext
    · cases htext
    · cases htext
      exact isEnclosed_parenthesized
        (isBalanced_intercalate combinator.isBalanced_sql (h texts rfl))

theorem behind_balanced (key : String) {rest : Pass (Option (List String))}
    (hrest : rest.Ensures Balances) {predicate : Predicate}
    (hpredicate : predicate.Writes IsBalanced) : (behind key rest predicate).Ensures Balances := by
  cases predicate with
  | sql text =>
    rw [behind]
    refine hrest.bind ?_
    intro fragments hfragments
    apply Pass.Ensures.pure
    intro texts htexts
    obtain ⟨others, rfl, rfl⟩ := Option.map_eq_some_iff.1 htexts
    exact List.forall_mem_cons.2 ⟨hpredicate text rfl, hfragments others rfl⟩
  | empty => exact hrest
  | noMatch =>
    refine (Pass.Ensures.tell _).bind fun _ _ => .pure ?_
    intro texts htexts
    cases htexts

mutual
/-- However deep a group stands and whatever is in it, it is one expression in parentheses. -/
theorem group_enclosed {filters : FilterSet} (hfilters : filters.IsBalanced) (key : String)
    (combinator : Combinator) (depth : Nat) (value : Json) :
    (group filters key combinator depth value).Ensures (Predicate.Writes IsEnclosed) := by
  match value with
  | .object fields =>
    rw [group]
    split
    · exact .fail _
    · rw [bind_pure_comp]
      exact (entries_balanced hfilters depth fields).map fun _ => joined_enclosed combinator
  | .null | .bool _ | .number _ | .string _ | .array _ =>
    rw [group]
    · split
      · exact .fail _
      · exact .fail _
    all_goals intros; contradiction

theorem entries_balanced {filters : FilterSet} (hfilters : filters.IsBalanced) (depth : Nat)
    (fields : List (String × Json)) : (entries filters depth fields).Ensures Balances := by
  match fields with
  | [] =>
    rw [entries]
    apply Pass.Ensures.pure
    rintro _ ⟨⟩
    exact nofun
  | (key, value) :: rest =>
    have hentry : (entry filters depth key value).Ensures (Predicate.Writes IsBalanced) := by
      rw [entry]
      split
      · next combinator hkey =>
        exact (group_enclosed hfilters key combinator (depth + 1) value).mono fun _ =>
          Predicate.Writes.isBalanced
      · split
        · next d hd => exact Clause.compile_balanced hfilters hd value
        · exact (Pass.Ensures.tell _).bind fun _ _ => .pure nofun
    rw [entries_cons]
    exact hentry.bind fun predicate hpredicate =>
      behind_balanced key (entries_balanced hfilters depth rest) hpredicate
end

theorem mapping_enclosed {filters : FilterSet} (hfilters : filters.IsBalanced)
    (default : Combinator) (fields : List (String × Json)) :
    (mapping filters default fields).Ensures (Predicate.Writes IsEnclosed) := by
  by_cases hlone : IsLone fields
  · obtain ⟨key, value, combinator, rfl, hkey⟩ := hlone
    rw [mapping_of_lone hkey]
    exact group_enclosed hfilters key combinator 1 value
  · intro table predicate table' hstem hout
    rw [mapping_of_not_lone hlone, ← Pass.outcome_map] at hout
    have hjoined : (joined default <$> entries filters 1 fields).Ensures
        (Predicate.Writes IsEnclosed) :=
      (entries_balanced hfilters 1 fields).map fun _ => joined_enclosed default
    exact hjoined table predicate table' hstem hout

theorem body_enclosed {filters : FilterSet} (hfilters : filters.IsBalanced) (b : Body)
    (default : Combinator) :
    (body filters b default).Ensures (Predicate.Writes IsEnclosed) := by
  intro table predicate table' hstem hout
  cases hfields : b.fields? with
  | none =>
    rw [body_of_no_fields hfields] at hout
    cases hout
  | some fields =>
    rw [body_of_fields hfields] at hout
    exact mapping_enclosed hfilters default fields table predicate table' hstem hout

end Compile

/-- Every predicate that a compiler writes is one expression in parentheses, so it can be cut off
again from whatever is written behind it. So is the text of every group inside it, and of every
filter that has no generator. The fields and the texts of the generators have to be balanced, and
neither the compiler nor a generator may put parentheses into the names of the table. Parentheses
count wherever they stand in a text, in quotes and behind comment marks as well. -/
theorem Compiler.predicates_enclosed {compiler : Compiler} (hfilters : compiler.filters.IsBalanced)
    (hstem : IsFlat compiler.table.stem.toList) :
    (∀ b default text,
      (∃ table, (compiler.compile b default).result = .ok (.sql text, table)) ∨
        (compiler.generate b default).1.result = .ok (.sql text) →
      IsBalanced text.toList ∧ IsEnclosed text.toList ∧
        ∀ rest, Text.cutGroup 0 (text.toList ++ rest) = some (text.toList, rest)) ∧
    (∀ key combinator depth value,
      (Compile.group compiler.filters key combinator depth value).Ensures
        (Predicate.Writes IsEnclosed)) ∧
    ∀ name d, compiler.filters.find? name = some d → d.kind ≠ .custom → ∀ value,
      (Clause.compile name d value).Ensures (Predicate.Writes IsEnclosed) := by
  refine ⟨?_, Compile.group_enclosed hfilters,
    fun name d hd hkind => Clause.compile_enclosed hfilters hd hkind⟩
  intro b default text h
  -- compiling and generating write the text of one walk
  obtain ⟨table, hout⟩ : ∃ table,
      (Compile.body compiler.filters b default).outcome (.empty compiler.table.stem) =
        (.ok (.sql text), table) := by
    match hout : (Compile.body compiler.filters b default).outcome (.empty compiler.table.stem) with
    | (result, table) =>
      rw [compile_of_outcome hout, (generate_of_outcome hout).1] at h
      rcases h with ⟨_, hcompile⟩ | hgenerate
      · obtain ⟨predicate, rfl, heq⟩ := Except.map_eq_ok hcompile
        cases heq
        exact ⟨table, rfl⟩
      · rw [hgenerate]
        exact ⟨table, rfl⟩
  have henclosed := (Compile.body_enclosed hfilters b default (.empty compiler.table.stem) _ _
    hstem hout).1 text rfl
  exact ⟨henclosed.isBalanced, henclosed, henclosed.cutGroup_append⟩

/-! ### A generator that writes no parentheses around its text -/

/-- A least rank, whatever the value is. -/
def leastRank : Generator := fun _ spec value => do
  let name ← Pass.placeholder (.ofJson value)
  return spec.field ++ " >= " ++ name

theorem leastRank_balanced (filter : String) {spec : FilterSpec} (h : IsBalanced spec.field.toList)
    (value : Json) : (leastRank filter spec value).Ensures fun text => IsBalanced text.toList := by
  refine (Pass.Ensures.placeholder _).bind ?_
  intro name hname
  apply Pass.Ensures.pure
  have hrelation : IsFlat " >= ".toList := by decide
  rw [String.toList_append, String.toList_append]
  exact (h.append hrelation.isBalanced).append hname.isBalanced

/-- Filters on posts, with one on their rank. -/
def FilterSet.rankedPosts : FilterSet :=
  posts.insert "rank" (.custom "lower(posts.rank)" leastRank)

theorem FilterSet.rankedPosts_isBalanced : rankedPosts.IsBalanced where
  field := forall_find? (P := fun d => Text.IsBalanced d.field.toList) (by decide)
  generator name d generate hd hkind hgenerate value := by
    rw [rankedPosts, find?_insert] at hd
    split at hd
    · cases hd
      cases hgenerate
      exact leastRank_balanced name (by decide) value
    · exact absurd hkind (posts_noCustom name d hd)

/-- Posts of a least rank or on some subject. -/
def Body.rankedPosts : Body :=
  .object [("any", .object [("rank", .string "gold"), ("tag", .string "rust")])]

/-- The predicate of these posts. -/
def Predicate.rankedPosts : String :=
  "(lower(posts.rank) >= :p1 OR (posts.tag IN (:p2)))"

theorem Compiler.generate_rankedPosts :
    ((ofFilters .rankedPosts).generate .rankedPosts .all).1.result =
      .ok (.sql Predicate.rankedPosts) := by
  decide +kernel

theorem Compiler.predicates_enclosed_rankedPosts :
    ((ofFilters .rankedPosts).generate .rankedPosts .all).1.result =
        .ok (.sql Predicate.rankedPosts) ∧
      Text.cutGroup 0 (Predicate.rankedPosts.toList ++ " AND (1 = 1)".toList) =
        some (Predicate.rankedPosts.toList, " AND (1 = 1)".toList) := by
  have hstem : IsFlat (ofFilters .rankedPosts).table.stem.toList := by decide
  have henclosed := (@predicates_enclosed (ofFilters .rankedPosts)
    FilterSet.rankedPosts_isBalanced hstem).1 .rankedPosts .all _ (Or.inr generate_rankedPosts)
  exact ⟨generate_rankedPosts, henclosed.2.2 " AND (1 = 1)".toList⟩

/-! ### Parentheses that stay open -/

/-- A mark that every row has. It leaves an empty table in place of the one that it gets, with a
parenthesis in front of each number. -/
def renamingMark : Generator := fun _ _ _ _ =>
  (.pure "TRUE", .empty "(")

/-- Filters on posts, with a mark. -/
def FilterSet.markedPosts : FilterSet :=
  posts.insert "mark" (.custom "" renamingMark)

theorem FilterSet.markedPosts_fields :
    ∀ name d, markedPosts.find? name = some d → Text.IsBalanced d.field.toList :=
  forall_find? (P := fun d => Text.IsBalanced d.field.toList) (by decide)

theorem FilterSet.markedPosts_texts (name : String) (d : Descriptor) (generate : Generator)
    (hd : markedPosts.find? name = some d) (hkind : d.kind = .custom)
    (hgenerate : d.generator = some generate) (value : Json) (table : BindTable) (text : String)
    (table' : BindTable)
    (hout : (generate name d.toFilterSpec value).outcome table = (.ok text, table')) :
    Text.IsBalanced text.toList := by
  rw [markedPosts, find?_insert] at hd
  split at hd
  · cases hd
    cases hgenerate
    cases hout
    decide
  · exact absurd hkind (posts_noCustom name d hd)

/-- Filters on posts, one of them on a field with a comment behind it. -/
def FilterSet.commentedPosts : FilterSet :=
  posts.insert "tag" (.ofKind .mappedList "posts.tag -- subject")

theorem FilterSet.commentedPosts_isBalanced : commentedPosts.IsBalanced where
  field := forall_find? (P := fun d => Text.IsBalanced d.field.toList) (by decide)
  generator name d _ hd hkind := by
    have hcustom : commentedPosts.NoCustom :=
      forall_find? (P := fun d => d.kind ≠ .custom) (by decide)
    exact absurd hkind (hcustom name d hd)

/-- What a reader of SQL sees of a line, which ends at the mark of a comment. -/
def Text.beforeComment : List Char → List Char
  | '-' :: '-' :: _ => []
  | c :: cs => c :: beforeComment cs
  | [] => []

/-- Balanced fields and generators that give balanced texts are not enough: a generator that gets
hold of the table may open a parenthesis in the names behind it. And what is closed for one who
counts characters may be open for one who reads SQL, where a field hides what is behind it. -/
theorem Compiler.parentheses_left_open :
    (¬ ∀ compiler : Compiler,
      (∀ name d, compiler.filters.find? name = some d → IsBalanced d.field.toList) →
      (∀ name d generate, compiler.filters.find? name = some d → d.kind = .custom →
        d.generator = some generate → ∀ value table text table',
          (generate name d.toFilterSpec value).outcome table = (.ok text, table') →
          IsBalanced text.toList) →
      IsFlat compiler.table.stem.toList → ∀ b default text table,
        (compiler.compile b default).result = .ok (.sql text, table) →
        IsBalanced text.toList ∧ IsEnclosed text.toList) ∧
    ¬ ∀ compiler : Compiler, compiler.filters.IsBalanced → IsFlat compiler.table.stem.toList →
      ∀ b default text table, (compiler.compile b default).result = .ok (.sql text, table) →
        ∀ rest, ∃ inner outer,
          Text.cutGroup 0 (Text.beforeComment (text.toList ++ rest)) = some (inner, outer) := by
  constructor
  · intro h
    -- the subject behind the mark is bound under a name that opens a parenthesis
    have hopen : ((ofFilters .markedPosts).compile
        (.object [("mark", .bool true), ("tag", .string "rust")]) .all).result =
          .ok (.sql "(TRUE AND (posts.tag IN (:(1)))", ⟨"(", #[.list [.text "rust"]]⟩) := by
      decide +kernel
    have hbalanced := (h (ofFilters .markedPosts) FilterSet.markedPosts_fields
      FilterSet.markedPosts_texts (by decide) _ _ _ _ hopen).1
    exact absurd hbalanced (by decide)
  · intro h
    -- only the parentheses in front of the comment are left, and they stay open
    have hhidden : ((ofFilters .commentedPosts).compile
        (.object [("tag", .string "rust")]) .all).result =
          .ok (.sql "((posts.tag -- subject IN (:p1)))", ⟨"p", #[.list [.text "rust"]]⟩) := by
      decide +kernel
    obtain ⟨inner, outer, hcut⟩ := h (ofFilters .commentedPosts)
      FilterSet.commentedPosts_isBalanced (by decide) _ _ _ _ hhidden " AND (1 = 1)".toList
    have hnone : Text.cutGroup 0 (Text.beforeComment
        ("((posts.tag -- subject IN (:p1)))".toList ++ " AND (1 = 1)".toList)) = none := by
      decide +kernel
    cases hnone.symm.trans hcut

end Criteria
