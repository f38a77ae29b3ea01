import Criteria.BindTable
import Criteria.Error
import Criteria.Event
import Criteria.Traced

/-!
# Passes

A pass turns criteria into text while it binds values: it threads the bind table, may fail, and
reports events. The table outlives a failure, with all that was bound before it.
-/

namespace Criteria

/-- A computation over the bind table. -/
def Pass (α : Type) : Type :=
  BindTable → Traced Event FilterError α × BindTable

namespace Pass

variable {α β : Type}

/-- A value that binds nothing. -/
def pure (a : α) : Pass α := fun table =>
  (Traced.pure a, table)

/-- Go on with the value and the table, if there is a value. -/
def bind (x : Pass α) (f : α → Pass β) : Pass β := fun table =>
  match x table with
  | (⟨.ok a, trace⟩, table) =>
    let (y, table) := f a table
    (⟨y.result, trace ++ y.trace⟩, table)
  | (⟨.error e, trace⟩, table) => (⟨.error e, trace⟩, table)

instance : Monad Pass where
  pure := pure
  bind := bind

/-- A failure. -/
def fail (e : FilterError) : Pass α := fun table =>
  (Traced.fail e, table)

/-- A computation that leaves the table alone. -/
def lift (x : Traced Event FilterError α) : Pass α := fun table =>
  (x, table)

/-- A result that needs no table. -/
def ofExcept (result : Except FilterError α) : Pass α :=
  lift (.ofExcept result)

/-- A report. -/
def tell (event : Event) : Pass Unit :=
  lift (.tell event)

/-- The number of values bound so far. -/
def bindCount : Pass Nat := fun table =>
  (Traced.pure table.size, table)

/-- Bind a value; the answer is its name. -/
def allocate (value : BindValue) : Pass String := fun table =>
  (Traced.pure table.nextName, table.push value)

/-- Bind a value; the answer is the placeholder that stands for it in SQL. -/
def placeholder (value : BindValue) : Pass String := do
  let name ← allocate value
  return ":" ++ name

/-! ### Running a pass -/

@[simp] theorem pure_run (a : α) (table : BindTable) :
    (Pure.pure a : Pass α) table = (⟨.ok a, []⟩, table) := rfl

instance : LawfulMonad Pass :=
  .mk' Pass
    (by
      intro α x
      funext table
      simp only [Functor.map, bind]
      split <;> simp_all [pure, Traced.pure])
    (by
      intro α β a f
      funext table
      simp [Bind.bind, bind, Pure.pure, pure, Traced.pure])
    (by
      intro α β γ x f g
      funext table
      simp only [Bind.bind, bind]
      cases hx : x table with
      | mk y table' =>
        obtain ⟨result, trace⟩ := y
        cases result with
        | error e => rfl
        | ok a =>
          simp only
          cases hf : f a table' with
          | mk z table'' =>
            obtain ⟨result', trace'⟩ := z
            cases result' <;> simp)

@[simp] theorem fail_run (e : FilterError) (table : BindTable) :
    (fail e : Pass α) table = (⟨.error e, []⟩, table) := rfl

@[simp] theorem placeholder_run (value : BindValue) (table : BindTable) :
    placeholder value table = (⟨.ok (":" ++ table.nextName), []⟩, table.push value) := rfl

theorem bind_run_ok {x : Pass α} {f : α → Pass β} {table table' : BindTable} {a : α}
    {trace : List Event} (h : x table = (⟨.ok a, trace⟩, table')) :
    (x >>= f) table = (⟨(f a table').1.result, trace ++ (f a table').1.trace⟩, (f a table').2) := by
  show Pass.bind x f table = _
  simp [Pass.bind, h]

theorem bind_run_error {x : Pass α} {f : α → Pass β} {table table' : BindTable} {e : FilterError}
    {trace : List Event} (h : x table = (⟨.error e, trace⟩, table')) :
    (x >>= f) table = (⟨.error e, trace⟩, table') := by
  show Pass.bind x f table = _
  simp [Pass.bind, h]

/-! ### Results and tables, reports aside -/

/-- What a pass comes to and the table that it leaves. -/
def outcome (x : Pass α) (table : BindTable) : Except FilterError α × BindTable :=
  ((x table).1.result, (x table).2)

@[simp] theorem outcome_pure (a : α) (table : BindTable) :
    (Pure.pure a : Pass α).outcome table = (.ok a, table) := rfl

@[simp] theorem outcome_fail (e : FilterError) (table : BindTable) :
    (fail e : Pass α).outcome table = (.error e, table) := rfl

@[simp] theorem outcome_lift (x : Traced Event FilterError α) (table : BindTable) :
    (lift x).outcome table = (x.result, table) := rfl

@[simp] theorem outcome_ofExcept (result : Except FilterError α) (table : BindTable) :
    (ofExcept result).outcome table = (result, table) := rfl

@[simp] theorem outcome_tell (event : Event) (table : BindTable) :
    (tell event).outcome table = (.ok (), table) := rfl

@[simp] theorem outcome_bindCount (table : BindTable) :
    bindCount.outcome table = (.ok table.size, table) := rfl

@[simp] theorem outcome_placeholder (value : BindValue) (table : BindTable) :
    (placeholder value).outcome table = (.ok (":" ++ table.nextName), table.push value) := rfl

/-- A pass goes on with the value and the table of the one before, and stops where that stops. -/
theorem outcome_bind (x : Pass α) (f : α → Pass β) (table : BindTable) :
    (x >>= f).outcome table =
      match x.outcome table with
      | (.ok a, table') => (f a).outcome table'
      | (.error e, table') => (.error e, table') := by
  unfold outcome
  match h : x table with
  | (⟨.ok a, trace⟩, table') => rw [bind_run_ok h]
  | (⟨.error e, trace⟩, table') => rw [bind_run_error h]

theorem outcome_bind_ok {x : Pass α} {f : α → Pass β} {table table' : BindTable} {a : α}
    (h : x.outcome table = (.ok a, table')) : (x >>= f).outcome table = (f a).outcome table' := by
  rw [outcome_bind, h]

theorem outcome_bind_error {x : Pass α} {f : α → Pass β} {table table' : BindTable}
    {e : FilterError} (h : x.outcome table = (.error e, table')) :
    (x >>= f).outcome table = (.error e, table') := by
  rw [outcome_bind, h]

theorem outcome_map (g : α → β) (x : Pass α) (table : BindTable) :
    (g <$> x).outcome table = ((x.outcome table).1.map g, (x.outcome table).2) := by
  rw [← bind_pure_comp, outcome_bind]
  match x.outcome table with
  | (.ok a, table') => rfl
  | (.error e, table') => rfl

end Pass

end Criteria
