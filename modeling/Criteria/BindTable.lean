import Criteria.BindValue

/-!
# The bind table

The values bound in one pass, in the order in which they were bound. The name of a value is the
stem of the table and its position, counted from one, so names never need to be stored and never
repeat.
-/

namespace Criteria

/-- The values bound so far, and what their names begin with. -/
structure BindTable where
  stem : String
  values : Array BindValue

namespace BindTable

/-- The stem of names where no other is asked for. -/
def defaultStem : String := "p"

/-- A table without values. -/
def empty (stem : String) : BindTable :=
  ⟨stem, #[]⟩

instance : Inhabited BindTable := ⟨empty defaultStem⟩

/-- The number of values. -/
def size (table : BindTable) : Nat :=
  table.values.size

/-- Whether there are no values. -/
def isEmpty (table : BindTable) : Bool :=
  table.size == 0

/-- The name at a position, counted from one. -/
def nameAt (stem : String) (position : Nat) : String :=
  stem ++ Decimal.ofNat position

/-- The name that the next value gets. -/
def nextName (table : BindTable) : String :=
  nameAt table.stem (table.size + 1)

/-- Bind one more value. -/
def push (table : BindTable) (value : BindValue) : BindTable :=
  { table with values := table.values.push value }

/-- Drop all values, so that names start over. -/
def reset (table : BindTable) : BindTable :=
  empty table.stem

/-- Values with their names, the first of them at a position. -/
def named (stem : String) (position : Nat) : List BindValue → Assoc BindValue
  | [] => []
  | value :: rest => (nameAt stem position, value) :: named stem (position + 1) rest

/-- Names and values, in order. -/
def entries (table : BindTable) : Assoc BindValue :=
  named table.stem 1 table.values.toList

/-- The value under a name. -/
def find? (table : BindTable) (name : String) : Option BindValue :=
  Assoc.find? name table.entries

/-- The table as an ordered object. -/
def toJson (table : BindTable) : Json :=
  .object (table.entries.map fun (name, value) => (name, value.toJson))

/-! ### What binding does -/

@[simp] theorem size_empty (stem : String) : (empty stem).size = 0 := rfl

@[simp] theorem entries_empty (stem : String) : (empty stem).entries = [] := rfl

@[simp] theorem stem_push (table : BindTable) (value : BindValue) :
    (table.push value).stem = table.stem := rfl

@[simp] theorem size_push (table : BindTable) (value : BindValue) :
    (table.push value).size = table.size + 1 := by
  simp [push, size]

theorem named_append (stem : String) (position : Nat) (xs ys : List BindValue) :
    named stem position (xs ++ ys) =
      named stem position xs ++ named stem (position + xs.length) ys := by
  induction xs generalizing position with
  | nil => simp [named]
  | cons x xs ih => simp [named, ih, Nat.add_assoc, Nat.add_comm 1]

/-- Binding leaves earlier entries alone and adds one under the next name. -/
@[simp] theorem entries_push (table : BindTable) (value : BindValue) :
    (table.push value).entries = table.entries ++ [(table.nextName, value)] := by
  simp [entries, push, named_append, named, nextName, size, Nat.add_comm]

/-- Bind several values, in order. -/
def pushAll (table : BindTable) (values : List BindValue) : BindTable :=
  { table with values := table.values ++ values.toArray }

@[simp] theorem pushAll_nil (table : BindTable) : table.pushAll [] = table := by
  simp [pushAll]

theorem push_eq_pushAll (table : BindTable) (value : BindValue) :
    table.push value = table.pushAll [value] := by
  simp [pushAll, push]

@[simp] theorem pushAll_pushAll (table : BindTable) (xs ys : List BindValue) :
    (table.pushAll xs).pushAll ys = table.pushAll (xs ++ ys) := by
  simp [pushAll]

@[simp] theorem stem_pushAll (table : BindTable) (values : List BindValue) :
    (table.pushAll values).stem = table.stem := rfl

@[simp] theorem size_pushAll (table : BindTable) (values : List BindValue) :
    (table.pushAll values).size = table.size + values.length := by
  simp [pushAll, size]

end BindTable

end Criteria
