import Criteria.Predicate
import Criteria.Proofs.Names

/-!
# Conditions

What a predicate says, apart from its text: tests of fields, in groups that are joined by a
combinator. A test is over some type of operands: bound values, or the names that stand for them.
`label` puts names in the place of values, counting through the condition from left to right, and
`text` writes a condition with names as SQL.

A group is never empty, so a condition always has a text that can be read back.
-/

namespace Criteria

/-- A comparison of two instants. -/
inductive Relation where
  | equal
  | unequal
  | later
  | notEarlier
  | earlier
  | notLater
deriving DecidableEq

/-- The SQL operator of a relation. -/
def Relation.symbol : Relation → String
  | .equal => "="
  | .unequal => "!="
  | .later => ">"
  | .notEarlier => ">="
  | .earlier => "<"
  | .notLater => "<="

/-- One test of a field. -/
inductive Test (α : Type) where
  /-- The field is in a set, or is not. -/
  | membership (field : String) (negated : Bool) (set : α)
  /-- The field is in a relation to an instant. -/
  | relation (field : String) (relation : Relation) (bound : α)
  /-- The field is between two instants, or is not. -/
  | range (field : String) (negated : Bool) (low high : α)

/-- Tests in groups. -/
inductive Condition (α : Type) where
  | test (t : Test α)
  | group (combinator : Combinator) (first : Condition α) (rest : List (Condition α))

variable {α β γ : Type}

/-! ### Tests -/

namespace Test

/-- The field that is tested. -/
def field : Test α → String
  | .membership field .. | .relation field .. | .range field .. => field

/-- The operands, in the order in which they are written. -/
def values : Test α → List α
  | .membership _ _ set => [set]
  | .relation _ _ bound => [bound]
  | .range _ _ low high => [low, high]

/-- The same test with the operands of a numbering. -/
def label (name : Nat → β) (i : Nat) : Test α → Test β
  | .membership field negated _ => .membership field negated (name i)
  | .relation field r _ => .relation field r (name i)
  | .range field negated _ _ => .range field negated (name i) (name (i + 1))

/-- A test in SQL, its operands being names of bound values. -/
def text : Test String → String
  | .membership field negated set =>
    field ++ (if negated then " NOT IN (" else " IN (") ++ (":" ++ set) ++ ")"
  | .relation field r bound => field ++ " " ++ r.symbol ++ " " ++ (":" ++ bound)
  | .range field negated low high =>
    field ++ " " ++ (if negated then "NOT BETWEEN" else "BETWEEN") ++ " " ++ (":" ++ low) ++
      " AND " ++ (":" ++ high)

@[simp] theorem field_label (name : Nat → β) (i : Nat) (t : Test α) :
    (t.label name i).field = t.field := by
  cases t <;> rfl

theorem values_label (name : Nat → β) (i : Nat) (t : Test α) :
    (t.label name i).values = (List.range' i t.values.length).map name := by
  cases t <;> rfl

theorem label_label (f : Nat → β) (i : Nat) (g : Nat → γ) (j : Nat) (t : Test α) :
    (t.label f i).label g j = t.label g j := by
  cases t <;> rfl

end Test

/-! ### Conditions -/

namespace Condition

mutual
/-- The operands, in the order in which they are written. -/
def values : Condition α → List α
  | .test t => t.values
  | .group _ first rest => first.values ++ valuesAll rest

/-- The operands of several conditions. -/
def valuesAll : List (Condition α) → List α
  | [] => []
  | c :: cs => c.values ++ valuesAll cs
end

mutual
/-- The fields that are tested. -/
def fields : Condition α → List String
  | .test t => [t.field]
  | .group _ first rest => first.fields ++ fieldsAll rest

/-- The fields that several conditions test. -/
def fieldsAll : List (Condition α) → List String
  | [] => []
  | c :: cs => c.fields ++ fieldsAll cs
end

mutual
/-- The same condition with the operands of a numbering. -/
def label (name : Nat → β) (i : Nat) : Condition α → Condition β
  | .test t => .test (t.label name i)
  | .group combinator first rest =>
    .group combinator (first.label name i) (labelAll name (i + first.values.length) rest)

/-- The numbering of several conditions, which goes on from each to the next. -/
def labelAll (name : Nat → β) (i : Nat) : List (Condition α) → List (Condition β)
  | [] => []
  | c :: cs => c.label name i :: labelAll name (i + c.values.length) cs
end

mutual
/-- A condition in SQL, its operands being names of bound values. -/
def text : Condition String → String
  | .test t => t.text
  | .group combinator first rest =>
    Predicate.parenthesized
      ((" " ++ combinator.sql ++ " ").intercalate (first.text :: texts rest))

/-- The texts of several conditions. -/
def texts : List (Condition String) → List String
  | [] => []
  | c :: cs => c.text :: texts cs
end

/-- What is left of a condition without its operands. -/
def shape (c : Condition α) : Condition Unit :=
  c.label (fun _ => ()) 0

/-- Several conditions as one group; without conditions there is none. -/
def join? (combinator : Combinator) : List (Condition α) → Option (Condition α)
  | [] => none
  | c :: cs => some (.group combinator c cs)

/-- A condition in SQL as it stands behind the values of a table. -/
def textAt (table : BindTable) (c : Condition α) : String :=
  (c.label (BindTable.nth table.stem) table.size).text

/-- Several conditions in SQL, as they stand behind the values of a table. -/
def textsAt (table : BindTable) (cs : List (Condition α)) : List String :=
  texts (labelAll (BindTable.nth table.stem) table.size cs)

/-! ### What a numbering changes -/

mutual
theorem fields_label (name : Nat → β) (i : Nat) (c : Condition α) :
    (c.label name i).fields = c.fields := by
  match c with
  | .test t => simp only [label, fields, Test.field_label]
  | .group combinator first rest =>
    simp only [label, fields, fields_label name i first, fieldsAll_labelAll name _ rest]

theorem fieldsAll_labelAll (name : Nat → β) (i : Nat) (cs : List (Condition α)) :
    fieldsAll (labelAll name i cs) = fieldsAll cs := by
  match cs with
  | [] => rfl
  | c :: cs =>
    simp only [labelAll, fieldsAll, fields_label name i c, fieldsAll_labelAll name _ cs]
end

mutual
/-- The operands of a numbered condition are those of the numbering, each once and in order. -/
theorem values_label (name : Nat → β) (i : Nat) (c : Condition α) :
    (c.label name i).values = (List.range' i c.values.length).map name := by
  match c with
  | .test t => exact t.values_label name i
  | .group combinator first rest =>
    simp only [label, values, values_label name i first, valuesAll_labelAll name _ rest,
      List.length_append, ← List.map_append, List.range'_append_1]

theorem valuesAll_labelAll (name : Nat → β) (i : Nat) (cs : List (Condition α)) :
    valuesAll (labelAll name i cs) = (List.range' i (valuesAll cs).length).map name := by
  match cs with
  | [] => rfl
  | c :: cs =>
    simp only [labelAll, valuesAll, values_label name i c, valuesAll_labelAll name _ cs,
      List.length_append, ← List.map_append, List.range'_append_1]
end

theorem length_values_label (name : Nat → β) (i : Nat) (c : Condition α) :
    (c.label name i).values.length = c.values.length := by
  rw [values_label, List.length_map, List.length_range']

mutual
/-- A numbering does not depend on what operands there were before. -/
theorem label_label (f : Nat → β) (i : Nat) (g : Nat → γ) (j : Nat) (c : Condition α) :
    (c.label f i).label g j = c.label g j := by
  match c with
  | .test t => simp only [label, Test.label_label]
  | .group combinator first rest =>
    simp only [label, label_label f i g j first, length_values_label,
      labelAll_labelAll f _ g _ rest]

theorem labelAll_labelAll (f : Nat → β) (i : Nat) (g : Nat → γ) (j : Nat)
    (cs : List (Condition α)) : labelAll g j (labelAll f i cs) = labelAll g j cs := by
  match cs with
  | [] => rfl
  | c :: cs =>
    simp only [labelAll, label_label f i g j c, length_values_label, labelAll_labelAll f _ g _ cs]
end

/-- The text of a numbered condition and the number of its operands depend on its shape only. -/
theorem label_shape (name : Nat → β) (i : Nat) (c : Condition α) :
    c.shape.label name i = c.label name i :=
  label_label _ 0 name i c

theorem length_values_shape (c : Condition α) : c.shape.values.length = c.values.length :=
  length_values_label _ 0 c

mutual
theorem label_const (b : β) (i j : Nat) (c : Condition α) :
    c.label (fun _ => b) i = c.label (fun _ => b) j := by
  match c with
  | .test t => cases t <;> rfl
  | .group combinator first rest =>
    simp only [label, label_const b i j first, labelAll_const b _ (j + first.values.length) rest]

theorem labelAll_const (b : β) (i j : Nat) (cs : List (Condition α)) :
    labelAll (fun _ => b) i cs = labelAll (fun _ => b) j cs := by
  match cs with
  | [] => rfl
  | c :: cs =>
    simp only [labelAll, label_const b i j c, labelAll_const b _ (j + c.values.length) cs]
end

theorem shape_group (combinator : Combinator) (first : Condition α) (rest : List (Condition α)) :
    (group combinator first rest).shape = .group combinator first.shape (rest.map shape) := by
  have hrest : ∀ i (cs : List (Condition α)), labelAll (fun _ => ()) i cs = cs.map shape := by
    intro i cs
    induction cs generalizing i with
    | nil => rfl
    | cons c cs ih =>
      rw [labelAll, ih, List.map_cons, label_const () i 0]
      rfl
  rw [shape, label, hrest]
  rfl

end Condition

end Criteria
