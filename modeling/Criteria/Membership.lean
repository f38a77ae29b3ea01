/-!
# Set algebra on lists

A set criterion gives a list of wanted elements, a list of unwanted ones, or both. Main statements:
`contains_dedup` and `pairwise_dedup`, removing repeated elements loses none and leaves no two equal
ones, and `contains_difference`, which elements a difference keeps.
-/

namespace Criteria

/-- Remove repeated elements, keeping the first of each. -/
def dedup {α : Type} [BEq α] : List α → List α
  | [] => []
  | x :: xs => x :: (dedup xs).filter fun y => !(x == y)

/-- The elements of the first list that are not in the second. -/
def difference {α : Type} [BEq α] (xs ys : List α) : List α :=
  xs.filter fun x => !ys.contains x

/-! ### What is kept -/

section
variable {α : Type} [BEq α]

/-- What is left stands in its old order. -/
theorem dedup_sublist (xs : List α) : (dedup xs).Sublist xs := by
  induction xs with
  | nil => exact .slnil
  | cons x xs ih => exact (List.filter_sublist.trans ih).cons_cons x

/-- No two elements that are left are equal. -/
theorem pairwise_dedup (xs : List α) : (dedup xs).Pairwise fun x y => (x == y) = false := by
  induction xs with
  | nil => exact .nil
  | cons x xs ih =>
    refine .cons (fun y hy => ?_) (ih.filter _)
    simpa using (List.mem_filter.1 hy).2

/-- Without equal elements there is nothing to remove. -/
theorem dedup_of_pairwise {xs : List α} (h : xs.Pairwise fun x y => (x == y) = false) :
    dedup xs = xs := by
  induction h with
  | nil => rfl
  | cons hx _ ih =>
    rw [dedup, ih, List.filter_eq_self.2]
    intro y hy
    rw [hx y hy, Bool.not_false]

/-- Filtering by a test that equal elements pass together. -/
theorem contains_filter {p : α → Bool} (hp : ∀ x y, x == y → p x = p y) (xs : List α) (a : α) :
    (xs.filter p).contains a = (xs.contains a && p a) := by
  induction xs with
  | nil => simp
  | cons x xs ih =>
    rw [List.filter_cons, List.contains_cons]
    cases hx : a == x with
    | false => split <;> simp [hx, ih]
    | true =>
      rw [hp a x hx]
      cases hpx : p x <;> simp [hx, ih, hp a x hx, hpx]

variable [EquivBEq α]

/-- A difference holds what is in the first list and not in the second. -/
theorem contains_difference (xs ys : List α) (a : α) :
    (difference xs ys).contains a = (xs.contains a && !ys.contains a) :=
  contains_filter (fun _ _ h => by rw [List.contains_congr h]) xs a

/-- No element is lost. -/
theorem contains_dedup (xs : List α) (a : α) : (dedup xs).contains a = xs.contains a := by
  induction xs with
  | nil => rfl
  | cons x xs ih =>
    rw [dedup, List.contains_cons, List.contains_cons,
      contains_filter (fun y z h => by rw [BEq.congr_right h]), ih]
    cases hx : a == x with
    | false => simp [BEq.comm.trans hx]
    | true => rfl

/-- One more element at the end stays where no element in front is equal to it. -/
theorem dedup_concat (xs : List α) (a : α) :
    dedup (xs ++ [a]) = if xs.contains a then dedup xs else dedup xs ++ [a] := by
  induction xs with
  | nil => rfl
  | cons x xs ih =>
    rw [List.cons_append, dedup, ih, dedup, List.contains_cons, BEq.comm]
    cases hx : x == a with
    | false =>
      rw [Bool.false_or]
      split
      · rfl
      · simp [hx]
    | true =>
      rw [Bool.true_or, if_pos rfl]
      split
      · rfl
      · simp [hx]

end

/-- The test that two lists amount to. -/
inductive Membership (α : Type) where
  /-- The value is one of these. -/
  | within (elements : List α)
  /-- The value is none of these. -/
  | without (elements : List α)
  /-- No restriction. -/
  | unrestricted
  /-- No value can pass. -/
  | impossible
deriving DecidableEq

namespace Membership

variable {α β : Type}

/-- The test of a list of wanted elements without repetitions and one of unwanted ones. An empty
list alone restricts nothing; wanted elements that are all unwanted leave no value. -/
def ofDistinct [BEq α] : Option (List α) → Option (List α) → Membership α
  | none, none => .unrestricted
  | some only, none => if only.isEmpty then .unrestricted else .within only
  | some only, some except =>
    let left := difference only except
    if left.isEmpty then .impossible else .within left
  | none, some except => if except.isEmpty then .unrestricted else .without except

/-- The test of a list of wanted elements and one of unwanted ones. -/
def ofLists [BEq α] (only except : Option (List α)) : Membership α :=
  ofDistinct (only.map dedup) (except.map dedup)

section
variable [BEq α]

theorem ofLists_only (ws : List α) : ofLists (some ws) none =
    if ws.isEmpty then .unrestricted else .within (dedup ws) := by
  cases ws <;> rfl

theorem ofLists_except (us : List α) : ofLists none (some us) =
    if us.isEmpty then .unrestricted else .without (dedup us) := by
  cases us <;> rfl

theorem ofLists_only_except (ws us : List α) : ofLists (some ws) (some us) =
    if (difference (dedup ws) (dedup us)).isEmpty then .impossible
    else .within (difference (dedup ws) (dedup us)) :=
  rfl

end

/-- Apply a function to all elements. -/
def map (f : α → β) : Membership α → Membership β
  | .within xs => .within (xs.map f)
  | .without xs => .without (xs.map f)
  | .unrestricted => .unrestricted
  | .impossible => .impossible

/-! ### Functions that keep elements apart -/

section
variable [BEq α] [BEq β] {f : α → β}

theorem contains_map (hf : ∀ x y, (f x == f y) = (x == y)) (xs : List α) (a : α) :
    (xs.map f).contains (f a) = xs.contains a := by
  induction xs with
  | nil => rfl
  | cons x xs ih => rw [List.map_cons, List.contains_cons, List.contains_cons, hf, ih]

theorem dedup_map (hf : ∀ x y, (f x == f y) = (x == y)) (xs : List α) :
    dedup (xs.map f) = (dedup xs).map f := by
  induction xs with
  | nil => rfl
  | cons x xs ih =>
    rw [List.map_cons, dedup, dedup, ih, List.map_cons, List.filter_map]
    simp only [Function.comp_def, hf]

theorem difference_map (hf : ∀ x y, (f x == f y) = (x == y)) (xs ys : List α) :
    difference (xs.map f) (ys.map f) = (difference xs ys).map f := by
  simp only [difference, List.filter_map, Function.comp_def, contains_map hf]

/-- The test of lists may be taken before or after such a function. -/
theorem map_ofLists (hf : ∀ x y, (f x == f y) = (x == y)) (only except : Option (List α)) :
    (ofLists only except).map f = ofLists (only.map (List.map f)) (except.map (List.map f)) := by
  cases only with
  | none =>
    cases except with
    | none => rfl
    | some ys =>
      rw [Option.map_none, Option.map_some, ofLists_except, ofLists_except, dedup_map hf,
        List.isEmpty_map]
      split <;> rfl
  | some xs =>
    cases except with
    | none =>
      rw [Option.map_none, Option.map_some, ofLists_only, ofLists_only, dedup_map hf,
        List.isEmpty_map]
      split <;> rfl
    | some ys =>
      rw [Option.map_some, Option.map_some, ofLists_only_except, ofLists_only_except,
        dedup_map hf, dedup_map hf, difference_map hf, List.isEmpty_map]
      split <;> rfl

end

end Membership

end Criteria
