import Criteria.Adjust
import Criteria.Compile

/-!
# Compilers

A compiler holds a filter set and the bind table of its last pass. Generating a predicate replaces
that table; compiling works on a table of its own and leaves the compiler as it is.
-/

namespace Criteria

/-- A filter set, with the bind table of the last pass. -/
structure Compiler where
  filters : FilterSet
  table : BindTable

namespace Compiler

/-- A compiler that has bound nothing. -/
def ofFilters (filters : FilterSet) : Compiler :=
  ⟨filters, .empty BindTable.defaultStem⟩

/-- The same with names that begin with another stem; what was bound is gone. -/
def withStem (compiler : Compiler) (stem : String) : Compiler :=
  { compiler with table := .empty stem }

/-- Compile a body and keep the bind table, also where that fails. -/
def generate (compiler : Compiler) (body : Body) (default : Combinator) :
    Traced Event FilterError Predicate × Compiler :=
  let (outcome, table) := Compile.body compiler.filters body default compiler.table.reset
  (outcome, { compiler with table })

/-- Compile a body into a bind table of its own. -/
def compile (compiler : Compiler) (body : Body) (default : Combinator) :
    Traced Event FilterError (Predicate × BindTable) :=
  let (outcome, table) :=
    Compile.body compiler.filters body default (.empty compiler.table.stem)
  outcome >>= fun predicate => .pure (predicate, table)

/-- Bind a value; the answer is its name. -/
def allocate (compiler : Compiler) (value : BindValue) : String × Compiler :=
  (compiler.table.nextName, { compiler with table := compiler.table.push value })

/-- Drop what was bound. -/
def reset (compiler : Compiler) : Compiler :=
  { compiler with table := compiler.table.reset }

end Compiler

end Criteria
