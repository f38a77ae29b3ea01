import Criteria.Proofs.Histories
import Mathlib.Data.List.Forall2

/-!
# Bindings along a history

A bind table does not store names: it makes them up from its stem and the positions of its values.
All the same, whatever was done to a table, its entries are the values bound since it was last
emptied, each under the name that was given out for it, and no two names are the same. The table of
a compiler is such a table after any calls, since a call does nothing to it but bind values, empty
it and set its stem. Main statement: `BindTable.holds_along_histories`.
-/

namespace Criteria

namespace BindTable

/-! ### What is done to a table -/

/-- One thing that is done to a table. -/
inductive Operation where
  /-- Bind a value, for its name or for its placeholder. -/
  | allocate (value : BindValue)
  | reset
  | withStem (stem : String)

namespace Operation

/-- The table after an operation. -/
def run (table : BindTable) : Operation → BindTable
  | .allocate value => ((Pass.allocate value).outcome table).2
  | .reset => table.reset
  | .withStem stem => .empty stem

/-- The stem after an operation. -/
def stem (before : String) : Operation → String
  | .withStem stem => stem
  | .allocate _ | .reset => before

/-- The values bound since a table was last emptied, after an operation. -/
def values (before : List BindValue) : Operation → List BindValue
  | .allocate value => before ++ [value]
  | .reset | .withStem _ => []

end Operation

/-- The table after some operations. -/
def after (table : BindTable) (operations : List Operation) : BindTable :=
  operations.foldl Operation.run table

/-- The stem that some operations leave. -/
def lastStem (stem : String) (operations : List Operation) : String :=
  operations.foldl Operation.stem stem

/-- The values that some operations bound behind the last one that emptied the table. -/
def boundLast (operations : List Operation) : List BindValue :=
  operations.foldl Operation.values []

theorem after_append (table : BindTable) (first rest : List Operation) :
    table.after (first ++ rest) = (table.after first).after rest :=
  List.foldl_append

theorem after_allocate (table : BindTable) (values : List BindValue) :
    table.after (values.map .allocate) = table.pushAll values := by
  induction values generalizing table with
  | nil => exact table.pushAll_nil.symm
  | cons value rest ih =>
    show (table.push value).after (rest.map .allocate) = _
    rw [ih, push_eq_pushAll, pushAll_pushAll, List.singleton_append]

/-! ### What a table holds -/

/-- A table holds values under the first names of a stem: `stem1`, `stem2` and so on. -/
structure Holds (table : BindTable) (stem : String) (values : List BindValue) : Prop where
  stem_eq : table.stem = stem
  size_eq : table.size = values.length
  keys_eq : table.entries.keys = names stem values.length
  nodup : table.entries.keys.Nodup
  values_eq : table.entries.map Prod.snd = values
  allocate : ∀ value, (Pass.allocate value).outcome table =
    (.ok (nameAt stem (values.length + 1)), table.push value)
  placeholder : ∀ value, (Pass.placeholder value).outcome table =
    (.ok (":" ++ nameAt stem (values.length + 1)), table.push value)
  entries_push : ∀ value, (table.push value).entries =
    table.entries ++ [(nameAt stem (values.length + 1), value)]
  find?_nameAt : ∀ i, table.find? (nameAt stem (i + 1)) = values[i]?
  find?_other : ∀ name, name ∉ names stem values.length → table.find? name = none
  /-- The object of a table may be written pair by pair, later pairs replacing earlier ones of the
  same name: nothing is replaced. -/
  toJson_eq : table.toJson =
    .object (Assoc.ofPairs (table.entries.map fun (name, value) => (name, value.toJson)))
  ofPairs_eq : Assoc.ofPairs (table.entries.map fun (name, value) => (name, value.toJson)) =
    (names stem values.length).zip (values.map BindValue.toJson)

theorem values_named (stem : String) (position : Nat) (values : List BindValue) :
    (named stem position values).map Prod.snd = values := by
  induction values generalizing position with
  | nil => rfl
  | cons value rest ih => rw [named, List.map_cons, ih]

theorem values_entries (table : BindTable) : table.entries.map Prod.snd = table.values.toList :=
  values_named _ _ _

theorem keys_written (table : BindTable) :
    Assoc.keys (table.entries.map fun (name, value) => (name, value.toJson)) =
      names table.stem table.size := by
  rw [Assoc.keys, List.map_map]
  exact table.keys_entries

/-- Every table holds its values. -/
theorem holds (table : BindTable) : table.Holds table.stem table.values.toList where
  stem_eq := rfl
  size_eq := rfl
  keys_eq := table.keys_entries
  nodup := table.keys_entries ▸ nodup_names _ _
  values_eq := table.values_entries
  allocate _ := rfl
  placeholder _ := rfl
  entries_push value := table.entries_push value
  find?_nameAt := table.find?_nth
  find?_other name h := by
    rw [find?, Assoc.find?_eq_none_iff, keys_entries]
    exact h
  toJson_eq := by
    rw [Assoc.ofPairs_of_nodup (table.keys_written ▸ nodup_names _ _)]
    rfl
  ofPairs_eq := by
    rw [Assoc.ofPairs_of_nodup (table.keys_written ▸ nodup_names _ _)]
    refine List.zip_of_prod table.keys_written ?_
    rw [List.map_map, ← table.values_entries, List.map_map]
    rfl

/-! ### Histories of a table -/

theorem Operation.run_holds {table : BindTable} {stem : String} {values : List BindValue}
    (h : table.Holds stem values) (operation : Operation) :
    (operation.run table).Holds (operation.stem stem) (operation.values values) := by
  -- a table holds one list of values only, so the facts about the new table are those of `holds`
  have hvalues : table.values.toList = values := table.values_entries ▸ h.values_eq
  cases operation with
  | allocate value =>
    have hpush : (table.push value).values.toList = values ++ [value] := by
      rw [← hvalues, push, Array.toList_push]
    have hholds := (table.push value).holds
    rwa [hpush, stem_push, h.stem_eq] at hholds
  | reset => exact h.stem_eq ▸ (empty table.stem).holds
  | withStem stem => exact (empty stem).holds

theorem after_holds {table : BindTable} {stem : String} {values : List BindValue}
    (h : table.Holds stem values) (operations : List Operation) :
    (table.after operations).Holds (lastStem stem operations)
      (operations.foldl Operation.values values) := by
  induction operations generalizing table stem values with
  | nil => exact h
  | cons operation operations ih => exact ih (operation.run_holds h)

theorem after_empty_holds (stem : String) (operations : List Operation) :
    ((empty stem).after operations).Holds (lastStem stem operations) (boundLast operations) :=
  after_holds (empty stem).holds operations

/-! ### Names that are written down -/

/-- A table that writes down the name of each value, and counts apart from them. -/
structure Ledger where
  stem : String
  counter : Nat
  entries : Assoc BindValue

namespace Ledger

def empty (stem : String) : Ledger :=
  ⟨stem, 0, []⟩

/-- Count, and write the value down under the number. -/
def allocate (ledger : Ledger) (value : BindValue) : Ledger :=
  let counter := ledger.counter + 1
  { ledger with counter, entries := ledger.entries ++ [(nameAt ledger.stem counter, value)] }

def run (ledger : Ledger) : Operation → Ledger
  | .allocate value => ledger.allocate value
  | .reset => { ledger with counter := 0, entries := [] }
  | .withStem stem => empty stem

def after (ledger : Ledger) (operations : List Operation) : Ledger :=
  operations.foldl run ledger

/-- A table with its size and its names written down. -/
def ofTable (table : BindTable) : Ledger :=
  ⟨table.stem, table.size, table.entries⟩

theorem run_ofTable (table : BindTable) (operation : Operation) :
    (ofTable table).run operation = ofTable (operation.run table) := by
  cases operation with
  | allocate value =>
    show (ofTable table).allocate value = ofTable (table.push value)
    rw [ofTable, allocate, ofTable, entries_push, size_push, stem_push, nextName]
  | reset => rfl
  | withStem stem => rfl

/-- Counting apart stays in step with what is written down. -/
theorem after_ofTable (table : BindTable) (operations : List Operation) :
    (ofTable table).after operations = ofTable (table.after operations) := by
  induction operations generalizing table with
  | nil => rfl
  | cons operation operations ih =>
    rw [after, List.foldl_cons, run_ofTable]
    exact ih (operation.run table)

end Ledger

end BindTable

/-! ### Histories of a compiler -/

namespace Compiler

/-- What a call does to the table of the compiler. -/
inductive Call.Performs : Call → List BindTable.Operation → Prop
  | generate (b : Body) (default : Combinator) (values : List BindValue) :
    Performs (.generate b default) (.reset :: values.map .allocate)
  | compile (b : Body) (default : Combinator) : Performs (.compile b default) []
  | adjust (transform : Adjust.Transform) (b : Body) : Performs (.adjust transform b) []
  | allocate (value : BindValue) : Performs (.allocate value) [.allocate value]
  | reset : Performs .reset [.reset]
  | withStem (stem : String) : Performs (.withStem stem) [.withStem stem]

theorem Call.exists_performs {compiler : Compiler} (hfilters : compiler.filters.OnlyAllocate)
    (call : Call) :
    ∃ operations, call.Performs operations ∧
      (call.run compiler).table = compiler.table.after operations := by
  cases call with
  | generate b default =>
    obtain ⟨values, hgenerate⟩ := generate_binds b default hfilters
    refine ⟨_, .generate b default values, ?_⟩
    rw [run, hgenerate]
    exact (BindTable.after_allocate _ _).symm
  | compile b default => exact ⟨_, .compile b default, rfl⟩
  | adjust transform b => exact ⟨_, .adjust transform b, rfl⟩
  | allocate value => exact ⟨_, .allocate value, rfl⟩
  | reset => exact ⟨_, .reset, rfl⟩
  | withStem stem => exact ⟨_, .withStem stem, rfl⟩

theorem exists_performs_after {compiler : Compiler} (hfilters : compiler.filters.OnlyAllocate)
    (calls : List Call) :
    ∃ blocks, List.Forall₂ Call.Performs calls blocks ∧
      (compiler.after calls).table = compiler.table.after blocks.flatten := by
  induction calls generalizing compiler with
  | nil => exact ⟨[], .nil, rfl⟩
  | cons call calls ih =>
    obtain ⟨operations, hperforms, hrun⟩ := call.exists_performs hfilters
    have hsame := (call.run_keeps hfilters).1
    obtain ⟨blocks, hblocks, hafter⟩ := @ih (call.run compiler) (by rwa [hsame])
    refine ⟨operations :: blocks, .cons hperforms hblocks, ?_⟩
    rw [List.flatten_cons, BindTable.after_append, ← hrun]
    exact hafter

end Compiler

/-- Whatever is done to a table, it holds the values bound since it was last emptied, under the
names of the stem that was set last, and writing these names down as they are given out comes to the
same. All this is true of the table of a compiler after any calls, also where passes failed or were
cut short: each of them does to the table what it is there for. -/
theorem BindTable.holds_along_histories :
    (∀ stem operations,
      ((empty stem).after operations).Holds (lastStem stem operations) (boundLast operations) ∧
        (Ledger.empty stem).after operations = .ofTable ((empty stem).after operations)) ∧
    ∀ filters : FilterSet, filters.OnlyAllocate → ∀ calls : List Compiler.Call,
      let compiler := (Compiler.ofFilters filters).after calls
      ∃ blocks, List.Forall₂ Compiler.Call.Performs calls blocks ∧
        compiler.table = (empty defaultStem).after blocks.flatten ∧
        (Ledger.empty defaultStem).after blocks.flatten = .ofTable compiler.table ∧
        compiler.table.Holds (Compiler.lastStem calls) (boundLast blocks.flatten) ∧
        ∀ value, compiler.allocate value =
          (nameAt (Compiler.lastStem calls) ((boundLast blocks.flatten).length + 1),
            { compiler with table := compiler.table.push value }) := by
  have hledger (stem : String) (operations : List Operation) :
      (Ledger.empty stem).after operations = .ofTable ((empty stem).after operations) :=
    Ledger.after_ofTable (empty stem) operations
  constructor
  · intro stem operations
    exact ⟨after_empty_holds stem operations, hledger stem operations⟩
  · intro filters hfilters calls compiler
    obtain ⟨blocks, hblocks, htable⟩ :=
      @Compiler.exists_performs_after (.ofFilters filters) hfilters calls
    -- the calls come down to blocks of operations on the table
    have hafter : compiler.table = (empty defaultStem).after blocks.flatten := htable
    have hholds := after_empty_holds defaultStem blocks.flatten
    have hstem : lastStem defaultStem blocks.flatten = Compiler.lastStem calls := by
      rw [← hholds.stem_eq, ← hafter]
      exact Compiler.stem_after hfilters calls
    rw [hstem, ← hafter] at hholds
    refine ⟨blocks, hblocks, hafter, ?_, hholds, ?_⟩
    · rw [hledger, hafter]
    · intro value
      rw [Compiler.allocate, nextName, hholds.stem_eq, hholds.size_eq]

/-- Calls after a pass that failed, with a stem that ends in a digit. -/
def Compiler.callsAfterFailure : List Call :=
  [.allocate (.integer 1), .withStem "p1", .generate .misspeltPosts .all, .compile .rustPosts .any,
    .allocate (.integer 7)]

theorem BindTable.holds_along_histories_callsAfterFailure :
    let table := ((Compiler.ofFilters .posts).after Compiler.callsAfterFailure).table
    table = ⟨"p1", #[.list [.text "rust"], .timestamp ⟨5, 0⟩, .integer 7]⟩ ∧
      table.entries.keys = ["p11", "p12", "p13"] ∧ table.find? "p13" = some (.integer 7) ∧
      table.find? "p1" = none ∧ table.nextName = "p14" := by
  intro table
  have htable : table = ⟨"p1", #[.list [.text "rust"], .timestamp ⟨5, 0⟩, .integer 7]⟩ := rfl
  obtain ⟨blocks, -, -, -, hholds, hallocate⟩ :=
    holds_along_histories.2 .posts FilterSet.posts_onlyAllocate Compiler.callsAfterFailure
  have hvalues : boundLast blocks.flatten =
      [.list [.text "rust"], .timestamp ⟨5, 0⟩, .integer 7] := by
    rw [← hholds.values_eq]
    rfl
  have hnames : names "p1" 3 = ["p11", "p12", "p13"] := by decide +kernel
  have hthird : nameAt "p1" 3 = "p13" := by decide +kernel
  have hnext : nameAt "p1" 4 = "p14" := by decide +kernel
  rw [hvalues] at hholds hallocate
  refine ⟨htable, hholds.keys_eq.trans hnames, ?_, ?_, ?_⟩
  · rw [← hthird]
    exact hholds.find?_nameAt 2
  · apply hholds.find?_other
    show "p1" ∉ names "p1" 3
    rw [hnames]
    decide
  · rw [← hnext]
    exact congrArg Prod.fst (hallocate (.integer 0))

end Criteria
