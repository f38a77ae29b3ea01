import Criteria.Proofs.Equality
import Criteria.Proofs.Related
import Mathlib.Data.Multiset.MapFold

/-!
# Reordered values

The order of the fields of an object says nothing: two values that differ in it only are equal, and
are read as the same reference, number, text or timestamp; the lists of a set filter have equal
elements. Main statements: `Json.Reordered.induct`, induction over two values at once whose fields
are paired up, `Json.Reordered.beq` and `FilterSpec.elements_reordered`.
-/

namespace Criteria

namespace Json

/-! ### Values in another order -/

mutual
/-- A value, and the same with the fields of objects in another order, at every depth. No object has
one key twice. -/
inductive Reordered : Json → Json → Prop
  | null : Reordered .null .null
  | bool (b : Bool) : Reordered (.bool b) (.bool b)
  | number (n : Number) : Reordered (.number n) (.number n)
  | string (s : String) : Reordered (.string s) (.string s)
  | array {xs ys : List Json} (h : ReorderedList xs ys) : Reordered (.array xs) (.array ys)
  | object {fs fs' gs : List (String × Json)} (hkeys : (Assoc.keys fs).Nodup) (hperm : fs.Perm fs')
      (h : ReorderedFields fs' gs) : Reordered (.object fs) (.object gs)

/-- The same for the elements of a list, which keep their places. -/
inductive ReorderedList : List Json → List Json → Prop
  | nil : ReorderedList [] []
  | cons {x y : Json} {xs ys : List Json} (h : Reordered x y) (hrest : ReorderedList xs ys) :
      ReorderedList (x :: xs) (y :: ys)

/-- The same for the values of fields, in their places. -/
inductive ReorderedFields : List (String × Json) → List (String × Json) → Prop
  | nil : ReorderedFields [] []
  | cons {key : String} {x y : Json} {fs gs : List (String × Json)} (h : Reordered x y)
      (hrest : ReorderedFields fs gs) : ReorderedFields ((key, x) :: fs) ((key, y) :: gs)
end

/-- Two fields have the same key and related values. -/
def AtKey (P : Json → Json → Prop) (f g : String × Json) : Prop :=
  f.1 = g.1 ∧ P f.2 g.2

theorem ReorderedList.forall₂ {xs ys : List Json} (h : ReorderedList xs ys) :
    List.Forall₂ Reordered xs ys := by
  match h with
  | .nil => exact .nil
  | .cons h hrest => exact .cons h hrest.forall₂

theorem ReorderedList.filterMap_eq {α : Type} {f : Json → Option α}
    (hf : ∀ {x y}, Reordered x y → f x = f y) {xs ys : List Json} (h : ReorderedList xs ys) :
    xs.filterMap f = ys.filterMap f :=
  filterMap_eq_of_forall₂ (fun _ _ hxy => hf hxy) h.forall₂

theorem ReorderedFields.rel {fs gs : List (String × Json)} (h : ReorderedFields fs gs) :
    Multiset.Rel (AtKey Reordered) fs gs := by
  match h with
  | .nil => exact .zero
  | .cons h hrest => exact .cons ⟨rfl, h⟩ hrest.rel

/-- The fields of two objects are paired up. -/
theorem Reordered.rel_fields {fs gs : List (String × Json)} (h : Reordered (.object fs) (.object gs)) :
    (Assoc.keys fs).Nodup ∧ Multiset.Rel (AtKey Reordered) (fs : Multiset (String × Json)) gs := by
  cases h with
  | object hkeys hperm h => exact ⟨hkeys, (Multiset.coe_eq_coe.2 hperm) ▸ h.rel⟩

/-- Induction over two values at once: elements stand in their places, and fields are paired up. -/
theorem Reordered.induct {P : Json → Json → Prop} (null : P .null .null)
    (bool : ∀ b, P (.bool b) (.bool b)) (number : ∀ n, P (.number n) (.number n))
    (string : ∀ s, P (.string s) (.string s))
    (array : ∀ xs ys, List.Forall₂ P xs ys → P (.array xs) (.array ys))
    (object : ∀ fs gs, Reordered (.object fs) (.object gs) →
      Multiset.Rel (AtKey fun x y => Reordered x y ∧ P x y) (fs : Multiset (String × Json)) gs →
      P (.object fs) (.object gs)) {x y : Json} (h : Reordered x y) : P x y := by
  induction x using Json.induct generalizing y with
  | null =>
    cases h
    exact null
  | bool b =>
    cases h
    exact bool b
  | number n =>
    cases h
    exact number n
  | string s =>
    cases h
    exact string s
  | array xs ih =>
    cases h with
    | array h =>
      apply array
      have hall := h.forall₂
      clear h
      induction hall with
      | nil => exact .nil
      | cons h _ ihrest =>
        rw [List.forall_mem_cons] at ih
        exact .cons (ih.1 h) (ihrest ih.2)
  | object fs ih =>
    cases h with
    | @object _ _ gs hkeys hperm h =>
      have hobject : Reordered (.object fs) (.object gs) := .object hkeys hperm h
      refine object fs gs hobject (hobject.rel_fields.2.mono ?_)
      rintro f hf g - ⟨hkey, hvalue⟩
      exact ⟨hkey, hvalue, ih f hf hvalue⟩

/-! ### Fields that are paired up -/

section
variable {P : Json → Json → Prop} {fs gs : List (String × Json)}

/-- What is made of each field alike is made of all of them, in another order. -/
theorem perm_map_of_rel {β : Type} {F : String → Json → β}
    (hF : ∀ key x y, P x y → F key x = F key y)
    (h : Multiset.Rel (AtKey P) (fs : Multiset (String × Json)) gs) :
    (fs.map fun f => F f.1 f.2).Perm (gs.map fun g => F g.1 g.2) := by
  have hmap : Multiset.Rel (· = ·) ((fs : Multiset (String × Json)).map fun f => F f.1 f.2)
      ((gs : Multiset (String × Json)).map fun g => F g.1 g.2) := by
    refine Multiset.rel_map.2 (h.mono ?_)
    rintro ⟨key, x⟩ - ⟨_, y⟩ - ⟨rfl, hvalue⟩
    exact hF key x y hvalue
  rwa [Multiset.rel_eq, Multiset.map_coe, Multiset.map_coe, Multiset.coe_eq_coe] at hmap

theorem keys_perm_of_rel (h : Multiset.Rel (AtKey P) (fs : Multiset (String × Json)) gs) :
    (Assoc.keys fs).Perm (Assoc.keys gs) :=
  perm_map_of_rel (F := fun key _ => key) (fun _ _ _ _ => rfl) h

theorem eq_singleton_of_rel {key : String} {x : Json}
    (h : Multiset.Rel (AtKey P) (([(key, x)] : List (String × Json)) : Multiset (String × Json))
      gs) : ∃ y, gs = [(key, y)] ∧ P x y := by
  obtain ⟨⟨_, y⟩, hmem, rfl, hvalue⟩ :=
    Multiset.exists_mem_of_rel_of_mem h (Multiset.mem_coe.2 List.mem_cons_self)
  obtain ⟨g, rfl⟩ := List.length_eq_one_iff.1 (Multiset.card_eq_card_of_rel h).symm
  rw [Multiset.mem_coe, List.mem_singleton] at hmem
  exact ⟨y, by rw [hmem], hvalue⟩

/-- Under each key stand related values, where no key repeats. -/
theorem find?_of_rel (hkeys : (Assoc.keys fs).Nodup)
    (h : Multiset.Rel (AtKey P) (fs : Multiset (String × Json)) gs) (key : String) :
    Option.Rel P (Assoc.find? key fs) (Assoc.find? key gs) := by
  have hperm := keys_perm_of_rel h
  cases hx : Assoc.find? key fs with
  | none =>
    have hnone : Assoc.find? key gs = none := by
      rw [Assoc.find?_eq_none_iff] at hx ⊢
      exact fun hmem => hx (hperm.mem_iff.2 hmem)
    rw [hnone]
    exact .none
  | some x =>
    obtain ⟨⟨_, y⟩, hmem, rfl, hvalue⟩ :=
      Multiset.exists_mem_of_rel_of_mem h (Multiset.mem_coe.2 (Assoc.mem_of_find? hx))
    rw [Assoc.find?_of_mem (hperm.nodup hkeys) hmem]
    exact .some hvalue

end

theorem Reordered.find? {fs gs : List (String × Json)} (h : Reordered (.object fs) (.object gs))
    (key : String) : Option.Rel Reordered (Assoc.find? key fs) (Assoc.find? key gs) :=
  find?_of_rel h.rel_fields.1 h.rel_fields.2 key

theorem beqList_of_forall₂ {xs ys : List Json}
    (h : List.Forall₂ (fun x y => beq x y = true) xs ys) : beqList xs ys = true := by
  induction h with
  | nil => rfl
  | cons h _ ih => rw [beqList, h, ih, Bool.and_self]

/-- Values in another order are equal. -/
theorem Reordered.beq {x y : Json} (h : Reordered x y) : Json.beq x y = true := by
  refine h.induct (P := fun x y => Json.beq x y = true) (beq_refl _) (fun _ => beq_refl _)
    (fun _ => beq_refl _) (fun _ => beq_refl _) (fun _ _ => beqList_of_forall₂) ?object
  case object =>
    intro fs gs h hrel
    have hfind := find?_of_rel h.rel_fields.1 hrel
    rw [beq_object_iff]
    refine ⟨by simpa using Multiset.card_eq_card_of_rel hrel, ?_, ?_⟩
    · intro key x hx
      have hvalue := hfind key
      rw [hx] at hvalue
      generalize Assoc.find? key gs = found at hvalue ⊢
      cases hvalue with
      | some hvalue => exact ⟨_, rfl, hvalue.2⟩
    · intro key hx
      have hvalue := hfind key
      rw [hx] at hvalue
      generalize Assoc.find? key gs = found at hvalue ⊢
      cases hvalue with
      | none => rfl

end Json

/-! ### What is read of a value -/

open Json (Reordered ReorderedList)

namespace Reference

theorem ofJson?_reordered {x y : Json} (h : Reordered x y) : ofJson? x = ofJson? y := by
  cases h with
  | object hkeys hperm h =>
    refine ofHandle?_congr (Reordered.object hkeys hperm h).find? ?_ ?_
    · intro x y h
      cases h <;> rfl
    · intro id x y h
      cases h <;> rfl
  | _ => rfl

theorem bareId?_reordered {x y : Json} (h : Reordered x y) : bareId? x = bareId? y := by
  cases h <;> rfl

theorem resolveId_reordered (scope : Option String) {x y : Json} (h : Reordered x y) :
    resolveId scope x = resolveId scope y := by
  rw [resolveId, resolveId, bareId?_reordered h, ofJson?_reordered h]

theorem resolveFingerprint_reordered {x y : Json} (h : Reordered x y) :
    resolveFingerprint x = resolveFingerprint y := by
  rw [resolveFingerprint, resolveFingerprint, ofJson?_reordered h]

end Reference

theorem Timestamp.ofJson?_reordered {x y : Json} (h : Reordered x y) : ofJson? x = ofJson? y := by
  cases h <;> rfl

/-! ### Bind values -/

namespace BindValue

theorem beqList_iff_forall₂ (xs ys : List BindValue) :
    beqList xs ys = true ↔ List.Forall₂ (fun x y => (x == y) = true) xs ys := by
  constructor
  · intro h
    induction xs generalizing ys with
    | nil =>
      cases ys with
      | nil => exact .nil
      | cons y ys => cases h
    | cons x xs ih =>
      cases ys with
      | nil => cases h
      | cons y ys =>
        rw [beqList, Bool.and_eq_true] at h
        exact .cons h.1 (ih ys h.2)
  · intro h
    induction h with
    | nil => rfl
    | cons h _ ih =>
      rw [beqList, Bool.and_eq_true]
      exact ⟨h, ih⟩

theorem ofJsonList_beq {xs ys : List Json}
    (each : ∀ x ∈ xs, ∀ y, Json.beq x y = true → (ofJson x == ofJson y) = true)
    (h : Json.beqList xs ys = true) : beqList (ofJsonList xs) (ofJsonList ys) = true := by
  induction xs generalizing ys with
  | nil =>
    cases ys with
    | nil => rfl
    | cons y ys => cases h
  | cons x xs ih =>
    cases ys with
    | nil => cases h
    | cons y ys =>
      rw [Json.beqList, Bool.and_eq_true] at h
      rw [List.forall_mem_cons] at each
      rw [ofJsonList, ofJsonList, beqList, Bool.and_eq_true]
      exact ⟨each.1 y h.1, ih each.2 h.2⟩

/-- Equal values are bound as equal values. -/
theorem ofJson_beq {x y : Json} (h : Json.beq x y = true) : (ofJson x == ofJson y) = true := by
  induction x using Json.induct generalizing y with
  | array xs ih =>
    cases y with
    | array ys => exact ofJsonList_beq (fun x hx y => ih x hx) h
    | _ => cases h
  | number n =>
    cases y with
    | number m =>
      rcases n with i | d <;> rcases m with j | e
      · obtain rfl : i = j := by simpa [Json.beq, Number.beq] using h
        exact beq_refl _
      · cases h
      · cases h
      · exact h
    | _ => cases h
  | object fs ih => cases y <;> first | exact h | cases h
  | string s => cases y <;> first | exact h | cases h
  | bool b => cases y <;> first | exact h | cases h
  | null => cases y <;> first | rfl | cases h

end BindValue

/-! ### The elements of lists -/

namespace Convert

theorem integerOf?_reordered {x y : Json} (h : Reordered x y) : integerOf? x = integerOf? y := by
  cases h <;> rfl

theorem stringOf?_reordered {x y : Json} (h : Reordered x y) : stringOf? x = stringOf? y := by
  cases h <;> rfl

theorem onString_beq (f : String → String) {x y : Json} (h : Reordered x y) :
    Json.beq (onString f x) (onString f y) = true := by
  cases h with
  | string s => exact Json.beq_refl _
  | _ => exact Reordered.beq (by constructor <;> assumption)

/-- A function that a conversion is makes equal elements of lists that differ in the order of fields
only. -/
def IgnoresOrder (convert : Convert) : Prop :=
  ∀ f, convert = .function f → ∀ side xs ys, ReorderedList xs ys →
    List.Forall₂ (fun x y => Json.beq x y = true) (f xs side) (f ys side)

/-- No function has a name, so the conversions that have one ignore the order of fields. -/
theorem ignoresOrder_of_ofName? {name : String} {convert : Convert}
    (h : ofName? name = some convert) : convert.IgnoresOrder := by
  rintro f rfl
  unfold ofName? at h
  split at h <;> cases h

theorem apply_reordered {convert : Convert} (hconvert : convert.IgnoresOrder) (side : Side)
    {xs ys : List Json} (h : ReorderedList xs ys) :
    List.Forall₂ (fun x y => Json.beq x y = true) (convert.apply xs side)
      (convert.apply ys side) := by
  have hsame (zs : List Json) : List.Forall₂ (fun x y => Json.beq x y = true) zs zs :=
    List.forall₂_same.2 fun z _ => Json.beq_refl z
  have hmap (f : String → String) :
      List.Forall₂ (fun x y => Json.beq x y = true) (xs.map (onString f)) (ys.map (onString f)) := by
    rw [List.forall₂_map_left_iff, List.forall₂_map_right_iff]
    exact h.forall₂.imp fun _ _ => onString_beq f
  cases convert with
  | identity => exact h.forall₂.imp fun _ _ => Reordered.beq
  | integer =>
    rw [apply, apply, h.filterMap_eq integerOf?_reordered]
    exact hsame _
  | string =>
    rw [apply, apply, h.filterMap_eq stringOf?_reordered]
    exact hsame _
  | downcase => exact hmap Text.downcase
  | upcase => exact hmap Text.upcase
  | function f => exact hconvert f rfl side xs ys h

end Convert

/-- Two lists of bind values have equal elements in the same places. -/
abbrev SameElements : List BindValue → List BindValue → Prop :=
  List.Forall₂ fun x y => (x == y) = true

theorem SameElements.refl (xs : List BindValue) : SameElements xs xs :=
  List.forall₂_same.2 fun x _ => BindValue.beq_refl x

theorem FilterSpec.elements_reordered {spec : FilterSpec}
    (hspec : spec.kind = .mappedList → spec.convert.IgnoresOrder) (hset : spec.IsSet) (side : Side)
    {xs ys : List Json} (h : ReorderedList xs ys) :
    SameElements (spec.elements side xs) (spec.elements side ys) := by
  unfold elements
  rcases hset with hkind | hkind | hkind
  · simp only [hkind, h.filterMap_eq (Reference.resolveId_reordered spec.className)]
    exact .refl _
  · simp only [hkind, h.filterMap_eq Reference.resolveFingerprint_reordered]
    exact .refl _
  · simp only [hkind, Clause.mapped]
    rw [SameElements, List.forall₂_map_left_iff, List.forall₂_map_right_iff]
    exact (Convert.apply_reordered (hspec hkind) side h).imp fun _ _ => BindValue.ofJson_beq

theorem FilterSpec.map_elements_reordered {spec : FilterSpec}
    (hspec : spec.kind = .mappedList → spec.convert.IgnoresOrder) (hset : spec.IsSet) (side : Side)
    {xs? ys? : Option (List Json)} (h : Option.Rel ReorderedList xs? ys?) :
    Option.Rel SameElements (xs?.map (spec.elements side)) (ys?.map (spec.elements side)) := by
  cases h with
  | none => exact .none
  | some h => exact .some (elements_reordered hspec hset side h)

theorem SetBody.listOf?_reordered {x y : Json} (h : Reordered x y) :
    Option.Rel ReorderedList (listOf? x) (listOf? y) := by
  refine listOf?_rel (by cases h <;> rfl) ?_ (.cons h .nil)
  cases h with
  | array h => exact .some h
  | _ => exact .none

theorem SetBody.side?_reordered {fs gs : List (String × Json)} (h : Reordered (.object fs) (.object gs))
    (side : Side) : Option.Rel ReorderedList (side? side fs) (side? side gs) :=
  rel_bind (fun _ _ hvalue => listOf?_reordered hvalue) (h.find? side.key)

end Criteria
