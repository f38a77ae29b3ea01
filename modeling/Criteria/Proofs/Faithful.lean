import Criteria.Proofs.Names
import Criteria.Proofs.Reordered
import Criteria.Proofs.SetAlgebra
import Criteria.Proofs.Simulation

/-!
# JSON values are bound as they are

A JSON value has some form as a bind value: integers of 64 bits and strings take one of their own,
arrays become lists of bind values, and all else stays JSON. Neither printing nor comparing tells
the form from the value. Main statements: `toJson_ofJson` and `beq_ofJson`, and from them
`BindValue.binding_faithful`: a mapped list without conversion works on the JSON values
themselves.
-/

namespace Criteria

namespace Number

theorem eq_of_word? {n : Number} {i : Int} (h : n.word? = some i) : n = .integer i := by
  cases n with
  | integer j =>
    rw [word?, Option.ite_none_right_eq_some] at h
    rw [Option.some.inj h.2]
  | double d => cases h

/-- An integer of 64 bits is none of the other numbers. -/
theorem beq_eq_false_of_word? {n m : Number} {i : Int} (h : n.word? = some i)
    (h' : m.word? = none) : n.beq m = false ∧ m.beq n = false := by
  have hne : ¬ n.beq m = true := by
    obtain rfl := eq_of_word? h
    cases m with
    | integer j =>
      rw [beq, beq_iff_eq]
      rintro rfl
      rw [h] at h'
      cases h'
    | double d => exact Bool.false_ne_true
  exact ⟨Bool.eq_false_iff.2 hne, Bool.eq_false_iff.2 fun hsymm => hne (beq_symm hsymm)⟩

end Number

namespace BindValue

/-! ### Printing -/

mutual
theorem toJson_ofJson : ∀ v : Json, toJson (ofJson v) = v
  | .null => rfl
  | .bool _ => rfl
  | .number n => by
    rw [ofJson]
    split
    · next i h => rw [Number.eq_of_word? h]; rfl
    · rfl
  | .string _ => rfl
  | .array xs => congrArg Json.array (toJsonList_ofJsonList xs)
  | .object _ => rfl

theorem toJsonList_ofJsonList : ∀ xs : List Json, toJsonList (ofJsonList xs) = xs
  | [] => rfl
  | x :: xs => by rw [ofJsonList, toJsonList, toJson_ofJson x, toJsonList_ofJsonList xs]
end

theorem ofJsonList_eq_map (xs : List Json) : ofJsonList xs = xs.map ofJson := by
  induction xs with
  | nil => rfl
  | cons x xs ih => rw [ofJsonList, ih, List.map_cons]

/-- A list of bound JSON values is printed as the list of the values. -/
theorem toJson_list_map (xs : List Json) : (list (xs.map ofJson)).toJson = .array xs := by
  rw [toJson, ← ofJsonList_eq_map, toJsonList_ofJsonList]

/-! ### Comparing -/

theorem beq_ofJson_numbers (n m : Number) :
    beq (ofJson (.number n)) (ofJson (.number m)) = n.beq m := by
  rw [ofJson, ofJson]
  -- an integer of 64 bits is bound as an integer, any other number as it is
  cases hn : n.word? with
  | none =>
    cases hm : m.word? with
    | none => rfl
    | some j => exact (Number.beq_eq_false_of_word? hm hn).2.symm
  | some i =>
    cases hm : m.word? with
    | none => exact (Number.beq_eq_false_of_word? hn hm).1.symm
    | some j =>
      rw [Number.eq_of_word? hn, Number.eq_of_word? hm]
      rfl

/-- Whatever form a number takes, no other value takes an equal one. -/
theorem beq_ofJson_number (n : Number) {w : Json} (hw : ∀ m, w ≠ .number m) :
    beq (ofJson (.number n)) (ofJson w) = false := by
  rw [ofJson]
  split
  · cases w with
    | number m => exact absurd rfl (hw m)
    | _ => rfl
  · cases w with
    | number m => exact absurd rfl (hw m)
    | _ => rfl

theorem ofJson_beq_number (m : Number) {v : Json} (hv : ∀ n, v ≠ .number n) :
    beq (ofJson v) (ofJson (.number m)) = false := by
  rw [Bool.eq_false_iff]
  intro h
  exact Bool.eq_false_iff.1 (beq_ofJson_number m hv) (beq_symm _ _ h)

theorem beqList_ofJsonList {xs : List Json}
    (h : ∀ x ∈ xs, ∀ y, beq (ofJson x) (ofJson y) = Json.beq x y) :
    ∀ ys, beqList (ofJsonList xs) (ofJsonList ys) = Json.beqList xs ys := by
  induction xs with
  | nil =>
    intro ys
    cases ys with
    | nil => rfl
    | cons y ys => rfl
  | cons x xs ih =>
    rw [List.forall_mem_cons] at h
    intro ys
    cases ys with
    | nil => rfl
    | cons y ys => rw [ofJsonList, ofJsonList, beqList, Json.beqList, h.1, ih h.2]

/-- Bind values are equal where the JSON values are. -/
theorem beq_ofJson (v w : Json) : beq (ofJson v) (ofJson w) = Json.beq v w := by
  -- numbers take two forms and lists one of their own; every other value is bound as it is
  induction v using Json.induct generalizing w with
  | number n =>
    cases w with
    | number m => exact beq_ofJson_numbers n m
    | _ => exact beq_ofJson_number n (by simp)
  | array xs ih =>
    cases w with
    | number m => exact ofJson_beq_number m (by simp)
    | array ys => exact beqList_ofJsonList ih ys
    | _ => rfl
  | _ =>
    cases w with
    | number m => exact ofJson_beq_number m (by simp)
    | _ => rfl

end BindValue

/-! ### Mapped lists -/

theorem BindTable.find?_push (table : BindTable) (value : BindValue) :
    (table.push value).find? table.nextName = some value := by
  have hplace := find?_nth (table.push value) table.size
  rw [stem_push, ← nextName_eq_nth] at hplace
  rw [hplace, push, Array.toList_push, size, ← Array.length_toList, List.getElem?_concat_length]

theorem BindTable.field?_toJson (table : BindTable) (name : String) :
    table.toJson.field? name = (table.find? name).map BindValue.toJson := by
  rw [toJson, Json.field?, find?]
  induction table.entries with
  | nil => rfl
  | cons entry entries ih =>
    rw [List.map_cons, Assoc.find?_cons, Assoc.find?_cons, ih]
    split <;> rfl

/-- The predicate of a membership test of JSON values, and the table with the list that it tests. -/
def Membership.bound (field : String) (table : BindTable) : Membership Json → Predicate × BindTable
  | .within xs =>
    (.sql (Predicate.parenthesized (field ++ " IN (" ++ (":" ++ table.nextName) ++ ")")),
      table.push (.list (xs.map .ofJson)))
  | .without xs =>
    (.sql (Predicate.parenthesized (field ++ " NOT IN (" ++ (":" ++ table.nextName) ++ ")")),
      table.push (.list (xs.map .ofJson)))
  | .unrestricted => (.empty, table)
  | .impossible => (.noMatch, table)

namespace Clause

theorem membership_outcome_ofJson (field : String) (m : Membership Json) (table : BindTable) :
    (membership field (m.map .ofJson)).outcome table =
      (.ok (m.bound field table).1, (m.bound field table).2) := by
  cases m with
  | within xs => exact Pass.outcome_bind_ok (Pass.outcome_placeholder _ _)
  | without xs => exact Pass.outcome_bind_ok (Pass.outcome_placeholder _ _)
  | unrestricted => rfl
  | impossible => rfl

/-- A mapped list without conversion compares the JSON values of its lists. -/
theorem mappedList_identity {d : Descriptor} (hkind : d.kind = .mappedList)
    (hconvert : d.convert = .identity) {filter : String} {value : Json} {body : SetBody}
    (hbody : SetBody.read filter value = .ok body) (table : BindTable) :
    (compile filter d value).outcome table =
      (.ok ((Membership.ofLists body.only body.except).bound d.field table).1,
        ((Membership.ofLists body.only body.except).bound d.field table).2) := by
  have hmapped (side : Side) : mapped d.convert side = List.map .ofJson := by
    rw [hconvert]
    rfl
  rw [compile_outcome_ofKind, ofKind, hkind]
  show (Pass.ofExcept (SetBody.read filter value) >>= _).outcome table = _
  rw [hbody, Pass.outcome_bind_ok (Pass.outcome_ofExcept _ _), hmapped, hmapped,
    ← Membership.map_ofLists BindValue.beq_ofJson, membership_outcome_ofJson]

theorem mappedList_of_error {d : Descriptor} (hkind : d.kind = .mappedList) {filter : String}
    {value : Json} {e : FilterError} (h : SetBody.read filter value = .error e)
    (table : BindTable) : (compile filter d value).outcome table = (.error e, table) := by
  rw [compile_outcome_ofKind, ofKind, hkind]
  show (Pass.ofExcept (SetBody.read filter value) >>= _).outcome table = _
  rw [h, Pass.outcome_bind_error (Pass.outcome_ofExcept _ _)]

end Clause

/-- JSON values are bound without loss. A bound value is printed as the JSON value that it was made
of, and two of them are equal where the JSON values are: an integer is no double, the two zeros are
one, and the order of fields does not count. So repetitions and unwanted elements are the same
before and after binding, and a mapped list without conversion tests for those JSON values that the
algebra of its two lists leaves, and its placeholder is printed with just these. -/
theorem BindValue.binding_faithful :
    (∀ v, (ofJson v).toJson = v) ∧
    (∀ v w, (ofJson v == ofJson w) = (v == w)) ∧
    ((∀ i d, (Json.number (.integer i) == .number (.double d)) = false) ∧
      (∀ a b : Double, (Json.number (.double a) == .number (.double b)) = true ↔
        a = b ∨ a.isZero = true ∧ b.isZero = true) ∧
      ∀ v w, Json.Reordered v w → (v == w) = true) ∧
    (∀ xs ys : List Json, dedup (xs.map ofJson) = (dedup xs).map ofJson ∧
      difference (xs.map ofJson) (ys.map ofJson) = (difference xs ys).map ofJson) ∧
    (∀ d : Descriptor, d.kind = .mappedList → d.convert = .identity →
      ∀ (filter : String) (value : Json) (table : BindTable),
        (Clause.compile filter d value).outcome table =
          match SetBody.read filter value with
          | .error e => (.error e, table)
          | .ok body =>
            (.ok ((Membership.ofLists body.only body.except).bound d.field table).1,
              ((Membership.ofLists body.only body.except).bound d.field table).2)) ∧
    ∀ (table : BindTable) (xs : List Json),
      (table.push (.list (xs.map ofJson))).toJson.field? table.nextName = some (.array xs) := by
  refine ⟨toJson_ofJson, beq_ofJson, ⟨fun _ _ => rfl, fun a b => ?_, fun _ _ h => h.beq⟩,
    fun xs ys => ⟨Membership.dedup_map beq_ofJson xs, Membership.difference_map beq_ofJson xs ys⟩,
    ?_, fun table xs => ?_⟩
  · -- doubles are compared bit by bit, but for the zeros
    show (a.isZero && b.isZero || a == b) = true ↔ _
    rw [Bool.or_eq_true, Bool.and_eq_true, beq_iff_eq, or_comm]
  · intro d hkind hconvert filter value table
    split
    · next e h => exact Clause.mappedList_of_error hkind h table
    · next body h => exact Clause.mappedList_identity hkind hconvert h table
  · rw [BindTable.field?_toJson, BindTable.find?_push, Option.map_some, toJson_list_map]

/-- The number one as a double. -/
def Json.one : Json :=
  .number (.double ⟨false, 4503599627370496, -52, by decide⟩)

/-- Tags of several types: the integer one stays without the double, the second zero and the second
object go. -/
theorem BindValue.binding_faithful_tags :
    let point := Json.object [("x", .int 1), ("y", .int 2)]
    let turned := Json.object [("y", .int 2), ("x", .int 1)]
    let value := Json.object [
      ("only", .array [.int 1, .one, .zero false, .array [point], .zero true, .array [turned]]),
      ("except", .one)]
    (Json.Reordered point turned ∧ (ofJson point == ofJson turned) = true) ∧
    ((Clause.compile "tag" (.ofKind .mappedList "posts.tag") value).outcome (.empty "p")).1 =
      .ok (.sql "(posts.tag IN (:p1))") ∧
    ((Clause.compile "tag" (.ofKind .mappedList "posts.tag") value).outcome
        (.empty "p")).2.toJson.field? "p1" =
      some (.array [.int 1, .zero false, .array [point]]) := by
  intro point turned value
  obtain ⟨-, hequal, ⟨-, -, hreordered⟩, -, hclause, hprinted⟩ := binding_faithful
  have hpoint : Json.Reordered point turned := by
    refine .object (by decide) (.swap _ _ _) (.cons ?_ (.cons ?_ .nil))
    · exact .number _
    · exact .number _
  have hleft : Membership.ofLists
      (some [Json.int 1, .one, .zero false, .array [point], .zero true, .array [turned]])
      (some [.one]) = .within [.int 1, .zero false, .array [point]] := by decide +kernel
  have houtcome := hclause (.ofKind .mappedList "posts.tag") rfl rfl "tag" value (.empty "p")
  have hread : SetBody.read "tag" value = .ok ⟨
      some [.int 1, .one, .zero false, .array [point], .zero true, .array [turned]],
      some [.one]⟩ := rfl
  simp only [hread, hleft] at houtcome
  have hname : (BindTable.empty "p").nextName = "p1" := by decide +kernel
  rw [houtcome]
  refine ⟨⟨hpoint, (hequal _ _).trans (hreordered _ _ hpoint)⟩, by decide +kernel, ?_⟩
  rw [← hname]
  exact hprinted (.empty "p") [.int 1, .zero false, .array [point]]

end Criteria
