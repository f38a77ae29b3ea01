import Criteria.Proofs.Sql.Syntax

/-!
# Evaluating SQL conditions

What an expression says of a row, its placeholders being looked up. Membership compares with the
equality of bind values, and comparisons are those of instants: a field that holds no instant passes
none of them. A placeholder that stands for nothing, or for a value of the wrong form, leaves the
whole expression without a truth value. Main statement: `Condition.eval_label`, a numbered condition
says what the condition says itself, wherever its names find its operands.
-/

namespace Criteria

/-- A row, as the value of each field. -/
abbrev Row := String → BindValue

/-- Whether an instant is in a relation to another. -/
def Relation.holds (r : Relation) (t bound : Timestamp) : Bool :=
  match r with
  | .equal => t == bound
  | .unequal => !t == bound
  | .later => bound.lt t
  | .notEarlier => !t.lt bound
  | .earlier => t.lt bound
  | .notLater => !bound.lt t

namespace BindValue

/-- The elements of a list. -/
def list? : BindValue → Option (List BindValue)
  | .list xs => some xs
  | _ => none

/-- The instant that a value is. -/
def timestamp? : BindValue → Option Timestamp
  | .timestamp t => some t
  | _ => none

end BindValue

namespace Sql

variable {α β : Type}

/-- Whether a row passes a test, its operands being looked up. -/
def testEval (lookup : α → Option BindValue) (row : Row) : Test α → Option Bool
  | .membership field negated set => do
    let xs ← (lookup set).bind BindValue.list?
    return xs.contains (row field) != negated
  | .relation field r bound => do
    let bound ← (lookup bound).bind BindValue.timestamp?
    return (row field).timestamp?.any fun t => r.holds t bound
  | .range field negated low high => do
    let low ← (lookup low).bind BindValue.timestamp?
    let high ← (lookup high).bind BindValue.timestamp?
    return (row field).timestamp?.any fun t => (!t.lt low && !high.lt t) != negated

namespace Expr

/-- Whether a row passes, its operands being looked up. -/
def eval (lookup : α → Option BindValue) (row : Row) : Expr α → Option Bool
  | .test t => testEval lookup row t
  | .and e f => do
    let p ← e.eval lookup row
    let q ← f.eval lookup row
    return p && q
  | .or e f => do
    let p ← e.eval lookup row
    let q ← f.eval lookup row
    return p || q

/-- Two expressions with the operator of a combinator between them. -/
def join : Combinator → Expr α → Expr α → Expr α
  | .all, e, f => .and e f
  | .any, e, f => .or e f

/-- Several expressions with the operator of a combinator between them. -/
def chain (combinator : Combinator) (e : Expr α) : List (Expr α) → Expr α
  | [] => e
  | f :: rest => join combinator e (chain combinator f rest)

/-- Chains agree where their members do. -/
theorem eval_chain_congr {lookup : α → Option BindValue} {lookup' : β → Option BindValue}
    {row : Row} {combinator : Combinator} {e : Expr α} {e' : Expr β} {es : List (Expr α)}
    {es' : List (Expr β)} (h : e.eval lookup row = e'.eval lookup' row)
    (hs : es.map (eval lookup row) = es'.map (eval lookup' row)) :
    (chain combinator e es).eval lookup row = (chain combinator e' es').eval lookup' row := by
  induction es generalizing e e' es' with
  | nil =>
    rw [List.map_nil, eq_comm, List.map_eq_nil_iff] at hs
    rw [hs, chain, chain, h]
  | cons f es ih =>
    cases es' with
    | nil => cases hs
    | cons f' es' =>
      rw [List.map_cons, List.map_cons, List.cons.injEq] at hs
      have hrest := ih hs.1 hs.2
      cases combinator with
      | all => simp only [chain, join, eval, h, hrest]
      | any => simp only [chain, join, eval, h, hrest]

end Expr

/-- A text has one reading, and by that reading a truth value on the row. -/
def Evaluates (text : String) (table : BindTable) (row : Row) (truth : Bool) : Prop :=
  ∃ e, (∀ e', Reads text e' ↔ e' = e) ∧ e.eval table.find? row = some truth

theorem Reads.evaluates {text : String} {e : Expr String} {table : BindTable} {row : Row}
    {truth : Bool} (h : Reads text e) (heval : e.eval table.find? row = some truth) :
    Evaluates text table row truth := by
  refine ⟨e, fun e' => ⟨fun h' => reads_unique h' h, ?_⟩, heval⟩
  rintro rfl
  exact h

end Sql

/-! ### Conditions as expressions -/

namespace Condition

open Sql (Expr testEval)

variable {α : Type}

mutual
/-- The expression that a condition is written as. -/
def expr : Condition α → Expr α
  | .test t => .test t
  | .group combinator first rest => .chain combinator first.expr (exprs rest)

/-- The expressions of several conditions. -/
def exprs : List (Condition α) → List (Expr α)
  | [] => []
  | c :: cs => c.expr :: exprs cs
end

/-- A look-up finds the operands of a list under the names of a numbering. -/
def Finds (lookup : String → Option BindValue) (name : Nat → String) (i : Nat)
    (values : List BindValue) : Prop :=
  ∀ j v, values[j]? = some v → lookup (name (i + j)) = some v

section
variable {lookup : String → Option BindValue} {name : Nat → String}

theorem Finds.left {i : Nat} {xs ys : List BindValue} (h : Finds lookup name i (xs ++ ys)) :
    Finds lookup name i xs := by
  intro j v hv
  exact h j v (List.getElem?_append_left (List.getElem?_eq_some_iff.1 hv).1 ▸ hv)

theorem Finds.right {i : Nat} {xs ys : List BindValue} (h : Finds lookup name i (xs ++ ys)) :
    Finds lookup name (i + xs.length) ys := by
  intro j v hv
  rw [Nat.add_assoc]
  apply h
  rw [List.getElem?_append_right (Nat.le_add_right _ _), Nat.add_sub_cancel_left, hv]

theorem testEval_label {i : Nat} {t : Test BindValue} (h : Finds lookup name i t.values)
    (row : Row) : testEval lookup row (t.label name i) = testEval some row t := by
  cases t with
  | membership field negated set =>
    have hset := h 0 set rfl
    simp only [Test.label, testEval, Nat.add_zero] at hset ⊢
    rw [hset]
  | relation field r bound =>
    have hbound := h 0 bound rfl
    simp only [Test.label, testEval, Nat.add_zero] at hbound ⊢
    rw [hbound]
  | range field negated low high =>
    have hlow := h 0 low rfl
    have hhigh := h 1 high rfl
    simp only [Test.label, testEval, Nat.add_zero] at hlow ⊢
    rw [hlow, hhigh]

mutual
/-- A numbered condition says what the condition says. -/
theorem eval_label {i : Nat} {c : Condition BindValue} (h : Finds lookup name i c.values)
    (row : Row) : (c.label name i).expr.eval lookup row = c.expr.eval some row := by
  match c with
  | .test t => exact testEval_label h row
  | .group combinator first rest =>
    rw [values] at h
    exact Expr.eval_chain_congr (eval_label h.left row) (eval_labelAll h.right row)

theorem eval_labelAll {i : Nat} {cs : List (Condition BindValue)}
    (h : Finds lookup name i (valuesAll cs)) (row : Row) :
    (exprs (labelAll name i cs)).map (Expr.eval lookup row) =
      (exprs cs).map (Expr.eval some row) := by
  match cs with
  | [] => rfl
  | c :: cs =>
    rw [valuesAll] at h
    simp only [labelAll, exprs, List.map_cons, eval_label h.left row, eval_labelAll h.right row]
end

end

/-- The names of a table find the values that were bound on an empty one. -/
theorem finds_pushAll (stem : String) (values : List BindValue) :
    Finds ((BindTable.empty stem).pushAll values).find? (BindTable.nth stem) 0 values := by
  intro j v hv
  have hfind := BindTable.find?_nth ((BindTable.empty stem).pushAll values) j
  simpa [BindTable.pushAll, BindTable.empty, hv] using hfind

end Condition

end Criteria
