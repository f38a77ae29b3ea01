import Criteria.Filter.Descriptor

/-!
# Filter sets

The filters that a body may name, in the order in which they were first configured. A later
descriptor for the same name takes the place of the earlier one.
-/

namespace Criteria

/-- An ordered map of names to descriptors. -/
structure FilterSet where
  entries : Assoc Descriptor
  nodup : entries.keys.Nodup := by simp [Assoc.keys]

namespace FilterSet

/-- The set without filters. -/
def empty : FilterSet :=
  { entries := [] }

instance : Inhabited FilterSet := ⟨empty⟩

/-- Add a filter, or replace the one of that name in place. -/
def insert (filters : FilterSet) (name : String) (descriptor : Descriptor) : FilterSet :=
  { entries := Assoc.insert name descriptor filters.entries
    nodup := Assoc.nodup_keys_alter name _ _ filters.nodup }

/-- Add filters one after the other. -/
def ofList (pairs : List (String × Descriptor)) : FilterSet :=
  pairs.foldl (fun filters p => filters.insert p.1 p.2) empty

/-- The descriptor of a name. -/
def find? (filters : FilterSet) (name : String) : Option Descriptor :=
  Assoc.find? name filters.entries

/-- The names, in order. -/
def names (filters : FilterSet) : List String :=
  filters.entries.keys

/-- The number of filters. -/
def size (filters : FilterSet) : Nat :=
  filters.entries.length

/-- Whether there is no filter. -/
def isEmpty (filters : FilterSet) : Bool :=
  filters.entries.isEmpty

@[simp] theorem find?_empty (name : String) : empty.find? name = none := rfl

theorem find?_insert (filters : FilterSet) (name name' : String) (descriptor : Descriptor) :
    (filters.insert name descriptor).find? name' =
      if name = name' then some descriptor else filters.find? name' :=
  Assoc.find?_insert name name' descriptor filters.entries

/-- What holds of every configured filter holds of every filter that is found. -/
theorem forall_find? {filters : FilterSet} {P : Descriptor → Prop}
    (h : ∀ entry ∈ filters.entries, P entry.2) (name : String) (d : Descriptor)
    (hd : filters.find? name = some d) : P d :=
  h _ (Assoc.mem_of_find? hd)

end FilterSet

end Criteria
