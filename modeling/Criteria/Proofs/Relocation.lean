import Criteria.Proofs.Nesting
import Criteria.Proofs.Placeholders

/-!
# Relocation

What a part of a body comes to does not depend on what was bound before it: behind a table of `n`
values it comes to the same as behind an empty one, with the names of its own values counted on by
`n`. Renaming the placeholders of a text commutes with writing it. Main statement:
`Compile.relocates`.
-/

namespace Criteria

open Sql
open Outline (settled)

/-! ### Renaming placeholders -/

/-- A text with other names behind its colons; a name reaches as far as it can. -/
def renamed (f : String → String) : List Char → List Char
  | [] => []
  | c :: cs =>
    if c = ':' then
      ':' :: ((f (String.ofList (cs.takeWhile isNameChar))).toList ++
        renamed f (cs.dropWhile isNameChar))
    else c :: renamed f cs
termination_by cs => cs.length
decreasing_by
  · exact Nat.lt_succ_of_le (List.dropWhile_sublist isNameChar).length_le
  · exact Nat.lt_succ_self _

/-- A predicate with other names behind the colons of its text. -/
def Predicate.rename (f : String → String) : Predicate → Predicate
  | .sql text => .sql (String.ofList (renamed f text.toList))
  | .empty => .empty
  | .noMatch => .noMatch

section
variable (f : String → String)

@[simp] theorem renamed_nil : renamed f [] = [] := by
  rw [renamed]

theorem renamed_append {cs : List Char} (h : ':' ∉ cs) (rest : List Char) :
    renamed f (cs ++ rest) = cs ++ renamed f rest := by
  induction cs with
  | nil => rfl
  | cons c cs ih =>
    rw [List.mem_cons, not_or] at h
    rw [List.cons_append, renamed, if_neg (Ne.symm h.1), ih h.2, List.cons_append]

theorem renamed_name {name : String} (h : IsName name) {rest : List Char}
    (hrest : Stops isNameChar rest) :
    renamed f (':' :: (name.toList ++ rest)) = ':' :: ((f name).toList ++ renamed f rest) := by
  rw [renamed, if_pos rfl, takeWhile_append_stops h.2 hrest, dropWhile_append_stops h.2 hrest,
    String.ofList_toList]

/-! ### Renaming and writing -/

namespace Condition

variable {α : Type} {name : Nat → String}

theorem renamed_test (hname : ∀ i, IsName (name i)) {t : Test α} (hfield : ':' ∉ t.field.toList)
    (i : Nat) {rest : List Char} (hrest : Stops isNameChar rest) :
    renamed f ((t.label name i).text.toList ++ rest) =
      (t.label (fun j => f (name j)) i).text.toList ++ renamed f rest := by
  have hfront : ':' ∉ (t.label name i).front :=
    Test.colon_notMem_front (by rwa [Test.field_label])
  rw [Test.toList_text, Test.toList_text, List.append_assoc, List.append_assoc,
    renamed_append f hfront, List.cons_append, List.cons_append]
  cases t with
  | membership field negated set =>
    have hclosing : Stops isNameChar ([')'] ++ rest) := stops_cons (by decide) rest
    simp only [Test.label, Test.back, List.append_assoc]
    rw [renamed_name f (hname i) hclosing, renamed_append f (by decide)]
    rfl
  | relation field r bound =>
    simp only [Test.label, Test.back]
    rw [renamed_name f (hname i) hrest]
    rfl
  | range field negated low high =>
    have hand : Stops isNameChar (" AND ".toList ++ ':' :: ((name (i + 1)).toList ++ rest)) :=
      stops_cons (by decide) _
    simp only [Test.label, Test.back, List.append_assoc, List.cons_append]
    rw [renamed_name f (hname i) hand, renamed_append f (by decide),
      renamed_name f (hname (i + 1)) hrest]
    rfl

mutual
/-- Renaming the placeholders of a numbered condition renames its operands. -/
theorem renamed_text (hname : ∀ i, IsName (name i)) {c : Condition α}
    (hfields : ∀ g ∈ c.fields, ':' ∉ g.toList) (i : Nat) {rest : List Char}
    (hrest : Stops isNameChar rest) :
    renamed f ((c.label name i).text.toList ++ rest) =
      (c.label (fun j => f (name j)) i).text.toList ++ renamed f rest := by
  match c with
  | .test t => exact renamed_test f hname (hfields t.field (List.mem_singleton.2 rfl)) i hrest
  | .group combinator first others =>
    simp only [fields, List.forall_mem_append] at hfields
    have hclosing : Stops isNameChar ([')'] ++ rest) := stops_cons (by decide) rest
    have hothers :=
      renamed_textAfter hname combinator hfields.2 (i + first.values.length) hclosing
    have hfirst := renamed_text hname hfields.1 i (stops_textAfter combinator
      (texts (labelAll name (i + first.values.length) others)) hclosing)
    rw [label, label, text_group, text_group, List.append_assoc, List.append_assoc,
      List.cons_append, List.append_assoc, ← List.singleton_append, renamed_append f (by decide),
      hfirst, hothers, renamed_append f (by decide)]
    simp only [List.cons_append, List.append_assoc, List.nil_append]

theorem renamed_textAfter (hname : ∀ i, IsName (name i)) (combinator : Combinator)
    {cs : List (Condition α)} (hfields : ∀ g ∈ fieldsAll cs, ':' ∉ g.toList) (i : Nat)
    {rest : List Char} (hrest : Stops isNameChar rest) :
    renamed f (textAfter combinator (texts (labelAll name i cs)) ++ rest) =
      textAfter combinator (texts (labelAll (fun j => f (name j)) i cs)) ++ renamed f rest := by
  match cs with
  | [] => rfl
  | c :: cs =>
    simp only [fieldsAll, List.forall_mem_append] at hfields
    have hothers := renamed_textAfter hname combinator hfields.2 (i + c.values.length) hrest
    have hfirst := renamed_text hname hfields.1 i (stops_textAfter combinator
      (texts (labelAll name (i + c.values.length) cs)) hrest)
    -- between two operands there are no names, so nothing is renamed there
    have hfront : ':' ∉ ' ' :: combinator.sql.toList ++ [' '] := by
      cases combinator <;> decide
    have htext (x : String) (xs : List String) (rest : List Char) :
        textAfter combinator (x :: xs) ++ rest =
          (' ' :: combinator.sql.toList ++ [' ']) ++ (x.toList ++ (textAfter combinator xs ++ rest)) := by
      simp [textAfter]
    rw [labelAll, labelAll, texts, texts, htext, htext, renamed_append f hfront, hfirst, hothers]
end

end Condition
end

/-! ### Counting on -/

namespace Condition

variable {α β : Type}

mutual
/-- A numbering that starts later is a later part of the same numbering. -/
theorem label_shift (name : Nat → β) (n i : Nat) (c : Condition α) :
    c.label (fun j => name (n + j)) i = c.label name (n + i) := by
  match c with
  | .test t => cases t <;> rfl
  | .group combinator first rest =>
    simp only [label, label_shift name n i first, labelAll_shift name n _ rest, Nat.add_assoc]

theorem labelAll_shift (name : Nat → β) (n i : Nat) (cs : List (Condition α)) :
    labelAll (fun j => name (n + j)) i cs = labelAll name (n + i) cs := by
  match cs with
  | [] => rfl
  | c :: cs =>
    simp only [labelAll, label_shift name n i c, labelAll_shift name n _ cs, Nat.add_assoc]
end

end Condition

namespace BindTable

/-- The name that stands `n` positions behind a name of a stem; other names stay. -/
def countedOn (stem : String) (n : Nat) (name : String) : String :=
  match Decimal.natOfDigits? (name.toList.drop stem.toList.length) with
  | some position => if name = nameAt stem position then nameAt stem (n + position) else name
  | none => name

theorem countedOn_nameAt (stem : String) (n position : Nat) :
    countedOn stem n (nameAt stem position) = nameAt stem (n + position) := by
  have hdigits : (nameAt stem position).toList.drop stem.toList.length =
      Decimal.digits position := by
    rw [nameAt, String.toList_append, List.drop_left, Decimal.ofNat, String.toList_ofList]
  rw [countedOn, hdigits, Decimal.natOfDigits?_digits]
  exact if_pos rfl

theorem named_add (stem : String) (n position : Nat) (values : List BindValue) :
    named stem (n + position) values =
      (named stem position values).map (Prod.map (countedOn stem n) id) := by
  induction values generalizing position with
  | nil => rfl
  | cons v values ih =>
    rw [named, named, List.map_cons, Prod.map_apply, countedOn_nameAt, Nat.add_assoc, ih, id]

/-- Values that are bound behind a table have the names that they have by themselves, counted on. -/
theorem entries_pushAll (table : BindTable) (values : List BindValue) :
    (table.pushAll values).entries =
      table.entries ++ ((empty table.stem).pushAll values).entries.map
        (Prod.map (countedOn table.stem table.size) id) := by
  have hvalues : (table.pushAll values).values.toList = table.values.toList ++ values := by
    simp [pushAll]
  have hown : ((empty table.stem).pushAll values).values.toList = values := by
    simp [pushAll, empty]
  rw [entries, entries, entries, hvalues, hown, named_append, stem_pushAll, stem_pushAll,
    Array.length_toList, Nat.add_comm 1, ← size, named_add]
  rfl

end BindTable

namespace Condition

/-- A condition behind a table reads as it does by itself, with its names counted on. -/
theorem textAt_eq_renamed {α : Type} {table : BindTable} (hstem : AppConfig.isStem table.stem = true)
    {c : Condition α} (hfields : ∀ f ∈ c.fields, ':' ∉ f.toList) :
    c.textAt table = String.ofList
      (renamed (BindTable.countedOn table.stem table.size)
        (c.textAt (.empty table.stem)).toList) := by
  have htext := renamed_text (BindTable.countedOn table.stem table.size) (isName_nth hstem) hfields 0
    (stops_nil isNameChar)
  -- counting on from a table is to number from its size
  have hcounted : (fun i => BindTable.countedOn table.stem table.size (BindTable.nth table.stem i)) =
      fun i => BindTable.nth table.stem (table.size + i) := by
    funext i
    exact BindTable.countedOn_nameAt table.stem table.size (i + 1)
  rw [List.append_nil, renamed_nil, List.append_nil, hcounted, label_shift, Nat.add_zero] at htext
  have halone : c.textAt (.empty table.stem) = (c.label (BindTable.nth table.stem) 0).text := rfl
  rw [halone, htext, String.ofList_toList, textAt]

end Condition

/-! ### Passes behind a table -/

/-- Behind a table, a pass comes to what another one comes to by itself, with the names counted on;
its bind values follow those of the table in any case. -/
structure Relocates (table : BindTable) (x alone : Pass Predicate) : Prop where
  result : (x.outcome table).1 =
    (alone.outcome (.empty table.stem)).1.map
      (Predicate.rename (BindTable.countedOn table.stem table.size))
  stem : (x.outcome table).2.stem = table.stem
  entries : (x.outcome table).2.entries =
    table.entries ++ (alone.outcome (.empty table.stem)).2.entries.map
      (Prod.map (BindTable.countedOn table.stem table.size) id)

/-- An outline behind a table is what it is by itself, with the names counted on. -/
theorem Relocates.of_settled {table : BindTable} (hstem : AppConfig.isStem table.stem = true)
    {x alone : Pass Predicate} {o : Except Stopped (Option (Condition BindValue))}
    (hx : ∀ table, x.outcome table = settled table o)
    (halone : ∀ table, alone.outcome table = settled table o)
    (hfields : ∀ c, o = .ok (some c) → ∀ f ∈ c.fields, ':' ∉ f.toList) :
    Relocates table x alone := by
  have hentries := BindTable.entries_pushAll table
  -- names occur in texts only; the values bound are the same in either place
  match o with
  | .ok (some c) =>
    have htext := Condition.textAt_eq_renamed hstem (hfields c rfl)
    refine ⟨?_, ?_, ?_⟩
    · rw [hx, halone, settled, settled, htext]
      rfl
    · rw [hx, settled, BindTable.stem_pushAll]
    · rw [hx, halone, settled, settled, hentries]
  | .ok none =>
    refine ⟨?_, ?_, ?_⟩
    · rw [hx, halone]
      rfl
    · rw [hx, settled]
    · rw [hx, halone, settled, settled, BindTable.entries_empty, List.map_nil, List.append_nil]
  | .error ⟨cause, bound⟩ =>
    refine ⟨?_, ?_, ?_⟩
    · -- a stop says nothing of names
      rw [hx, halone]
      cases cause <;> rfl
    · rw [hx, settled, BindTable.stem_pushAll]
    · rw [hx, halone, settled, settled, hentries]

namespace Compile

variable {filters : FilterSet} (hcustom : filters.NoCustom)
  (hcolon : ∀ name d, filters.find? name = some d → d.kind ≠ .passthrough →
    ':' ∉ d.field.toList)
include hcustom hcolon

/-- A filter or a group may follow any table: it keeps what the table holds, also where it stops with
an error or the certainty that no row passes, and comes to the same as by itself, with the names of
its values counted on. A group may stand at any depth that leaves room for what stands in it. -/
theorem relocates {table : BindTable} (hstem : AppConfig.isStem table.stem = true) :
    (∀ filter d value, filters.find? filter = some d →
      Relocates table (Clause.compile filter d value) (Clause.compile filter d value)) ∧
    ∀ key combinator depth depth' value,
      depth = depth' ∨ depth + nestingBelow value ≤ maxBodyDepth + 1 ∧
        depth' + nestingBelow value ≤ maxBodyDepth + 1 →
      Relocates table (group filters key combinator depth value)
        (group filters key combinator depth' value) := by
  constructor
  · intro filter d value hd
    have hleaf := Clause.compile_outcome (hcustom filter d hd) filter value
    refine .of_settled hstem hleaf hleaf fun c hc => ?_
    exact Outline.forall_fields_leaf (P := fun f => ':' ∉ f.toList) (hcolon filter d hd) hc c rfl
  · intro key combinator depth depth' value hdepth
    have hgroup := group_outcome hcustom key combinator depth value
    have halone (table : BindTable) : (group filters key combinator depth' value).outcome table =
        settled table (Outline.group filters key combinator depth value) := by
      rw [← hgroup]
      rcases hdepth with rfl | ⟨hroom, hroom'⟩
      · rfl
      · rw [group_outcome_of_nestingBelow_le hroom, group_outcome_of_nestingBelow_le hroom']
    refine .of_settled hstem hgroup halone fun c hc => ?_
    obtain ⟨fields, cs, -, hwalk, hjoin⟩ := Outline.group_walk hc
    exact Outline.forall_fields_join? (P := fun f => ':' ∉ f.toList) (hwalk.forall_fields hcolon) c
      hjoin.symm

end Compile

/-- Posts that are not on one subject or were made in a range of time. -/
def Json.widePosts : Json :=
  .object [
    ("tag", .object [("except", .array [.string "go"])]),
    ("created", .object [("between", .array [.int 5, .int 3])])]

/-- The predicate of these posts behind an empty table, and behind a table of one value. -/
theorem Compile.relocates_widePosts :
    let alone : Predicate :=
      .sql "((posts.tag NOT IN (:p1)) OR (posts.created_at BETWEEN :p2 AND :p3))"
    let behind : Predicate :=
      .sql "((posts.tag NOT IN (:p2)) OR (posts.created_at BETWEEN :p3 AND :p4))"
    let table : BindTable := ⟨"p", #[.integer 7]⟩
    ((group .posts "any" .any 1 .widePosts).outcome (.empty "p")).1 = .ok alone ∧
      ((group .posts "any" .any 2 .widePosts).outcome table).1 = .ok behind ∧
      alone.rename (BindTable.countedOn "p" 1) = behind := by
  intro alone behind table
  have hcolon : ∀ name d, FilterSet.posts.find? name = some d → d.kind ≠ .passthrough →
      ':' ∉ d.field.toList :=
    FilterSet.forall_find? (P := fun d => d.kind ≠ .passthrough → ':' ∉ d.field.toList) (by decide)
  have hstem : AppConfig.isStem table.stem = true := by
    decide
  have hgroup := (relocates FilterSet.posts_noCustom hcolon hstem).2 "any" .any 2 1 .widePosts
    (Or.inr (by decide))
  have halone : ((group .posts "any" .any 1 .widePosts).outcome (.empty "p")).1 = .ok alone := by
    decide +kernel
  have hbehind : ((group .posts "any" .any 2 .widePosts).outcome table).1 = .ok behind := by
    decide +kernel
  have hresult := hgroup.result
  rw [hbehind, halone] at hresult
  exact ⟨halone, hbehind, (Except.ok.inj hresult).symm⟩

end Criteria
