import Criteria.BindTable
import Criteria.Error

/-!
# Equality of values is an equivalence

Elements of lists and bound values are compared by equality of JSON values, which takes the two
zeros of the doubles for one and does not look at the order of fields. Main statements: the
instances of `EquivBEq` for `Json` and for `BindValue`, on which all set algebra rests. Equal values
need not be the same value; whether they are can be decided, and so can the results of runs.
-/

namespace Criteria

/-! ### Numbers -/

theorem Double.beq_refl (a : Double) : a.beq a = true := by
  simp [Double.beq]

theorem Double.beq_symm {a b : Double} (h : a.beq b = true) : b.beq a = true := by
  simp only [Double.beq, Bool.or_eq_true, Bool.and_eq_true, beq_iff_eq] at h ⊢
  rcases h with ⟨ha, hb⟩ | rfl
  · exact Or.inl ⟨hb, ha⟩
  · exact Or.inr rfl

theorem Double.beq_trans {a b c : Double} (hab : a.beq b = true) (hbc : b.beq c = true) :
    a.beq c = true := by
  simp only [Double.beq, Bool.or_eq_true, Bool.and_eq_true, beq_iff_eq] at hab hbc ⊢
  rcases hab with ⟨ha, hb⟩ | rfl
  · rcases hbc with ⟨-, hc⟩ | rfl
    · exact Or.inl ⟨ha, hc⟩
    · exact Or.inl ⟨ha, hb⟩
  · exact hbc

theorem Number.beq_refl (a : Number) : a.beq a = true := by
  cases a with
  | integer i => simp [Number.beq]
  | double d => exact Double.beq_refl d

theorem Number.beq_symm {a b : Number} (h : a.beq b = true) : b.beq a = true := by
  cases a with
  | integer i =>
    cases b with
    | integer j =>
      simp only [Number.beq, beq_iff_eq] at h ⊢
      exact h.symm
    | double d => cases h
  | double d =>
    cases b with
    | integer j => cases h
    | double e => exact Double.beq_symm h

theorem Number.beq_trans {a b c : Number} (hab : a.beq b = true) (hbc : b.beq c = true) :
    a.beq c = true := by
  cases b with
  | integer j =>
    cases a with
    | double d => cases hab
    | integer i =>
      cases c with
      | double d => cases hbc
      | integer k =>
        simp only [Number.beq, beq_iff_eq] at hab hbc ⊢
        exact hab.trans hbc
  | double e =>
    cases a with
    | integer i => cases hab
    | double d =>
      cases c with
      | integer k => cases hbc
      | double f => exact Double.beq_trans hab hbc

/-! ### JSON values -/

namespace Json

mutual
/-- Induction over the elements of arrays and the values of fields. -/
theorem induct {P : Json → Prop} (null : P .null) (bool : ∀ b, P (.bool b))
    (number : ∀ n, P (.number n)) (string : ∀ s, P (.string s))
    (array : ∀ xs, (∀ x ∈ xs, P x) → P (.array xs))
    (object : ∀ fs, (∀ f ∈ fs, P f.2) → P (.object fs)) : ∀ v, P v
  | .null => null
  | .bool b => bool b
  | .number n => number n
  | .string s => string s
  | .array xs => array xs (inductList null bool number string array object xs)
  | .object fs => object fs (inductFields null bool number string array object fs)

theorem inductList {P : Json → Prop} (null : P .null) (bool : ∀ b, P (.bool b))
    (number : ∀ n, P (.number n)) (string : ∀ s, P (.string s))
    (array : ∀ xs, (∀ x ∈ xs, P x) → P (.array xs))
    (object : ∀ fs, (∀ f ∈ fs, P f.2) → P (.object fs)) : ∀ xs : List Json, ∀ x ∈ xs, P x
  | [] => List.forall_mem_nil _
  | x :: xs => List.forall_mem_cons.2
    ⟨induct null bool number string array object x,
      inductList null bool number string array object xs⟩

theorem inductFields {P : Json → Prop} (null : P .null) (bool : ∀ b, P (.bool b))
    (number : ∀ n, P (.number n)) (string : ∀ s, P (.string s))
    (array : ∀ xs, (∀ x ∈ xs, P x) → P (.array xs))
    (object : ∀ fs, (∀ f ∈ fs, P f.2) → P (.object fs)) :
    ∀ fs : List (String × Json), ∀ f ∈ fs, P f.2
  | [] => List.forall_mem_nil _
  | (_, x) :: fs => List.forall_mem_cons.2
    ⟨induct null bool number string array object x,
      inductFields null bool number string array object fs⟩
end

/-- A comparison of fields asks of every key that it has not seen yet: where the first object has a
value under it, the second has an equal one. -/
theorem beqFields_iff (seen : List String) (fs gs : List (String × Json)) :
    beqFields seen fs gs = true ↔ ∀ key ∉ seen, ∀ x, Assoc.find? key fs = some x →
      ∃ y, Assoc.find? key gs = some y ∧ beq x y = true := by
  induction fs generalizing seen with
  | nil => simp [beqFields]
  | cons f fs ih =>
    obtain ⟨k, v⟩ := f
    rw [beqFields, Bool.and_eq_true, ih]
    constructor
    · -- a key that repeats the first one was compared at its first place
      rintro ⟨hhead, htail⟩ key hkey x hx
      rw [Assoc.find?_cons] at hx
      split at hx
      · next h =>
        subst h
        cases hx
        rw [Bool.or_eq_true] at hhead
        rcases hhead with hseen | hfound
        · exact absurd (List.contains_iff_mem.1 hseen) hkey
        · cases hy : Assoc.find? k gs with
          | none => rw [hy] at hfound; cases hfound
          | some y => rw [hy] at hfound; exact ⟨y, rfl, hfound⟩
      · next h =>
        refine htail key ?_ x hx
        rw [List.mem_cons, not_or]
        exact ⟨Ne.symm h, hkey⟩
    · intro h
      constructor
      · -- only a key that has not been seen is looked up in the second object
        cases hk : seen.contains k with
        | true => rfl
        | false =>
          have hmem : k ∉ seen := fun hm => by rw [List.contains_iff_mem.2 hm] at hk; cases hk
          obtain ⟨y, hy, hxy⟩ := h k hmem v (by rw [Assoc.find?_cons, if_pos rfl])
          rw [hy]
          exact hxy
      · intro key hkey x hx
        rw [List.mem_cons, not_or] at hkey
        exact h key hkey.2 x (by rw [Assoc.find?_cons, if_neg (Ne.symm hkey.1)]; exact hx)

theorem all_hasKey_iff (fs gs : List (String × Json)) :
    (gs.all fun g => Assoc.hasKey g.1 fs) = true ↔
      ∀ key, Assoc.find? key fs = none → Assoc.find? key gs = none := by
  rw [List.all_eq_true]
  constructor
  · intro h key hkey
    rw [Assoc.find?_eq_none_iff]
    intro hmem
    obtain ⟨g, hg, rfl⟩ := List.mem_map.1 hmem
    have hhas := h g hg
    rw [Assoc.hasKey, hkey] at hhas
    cases hhas
  · intro h g hg
    rw [Assoc.hasKey, Option.isSome_iff_ne_none]
    intro hnone
    exact (Assoc.find?_eq_none_iff g.1 gs).1 (h g.1 hnone) (List.mem_map_of_mem hg)

/-- Two objects are equal when they have as many fields and every look-up in the one finds what it
finds in the other. -/
theorem beq_object_iff (fs gs : List (String × Json)) :
    beq (.object fs) (.object gs) = true ↔ fs.length = gs.length ∧
      (∀ key x, Assoc.find? key fs = some x → ∃ y, Assoc.find? key gs = some y ∧ beq x y = true) ∧
      ∀ key, Assoc.find? key fs = none → Assoc.find? key gs = none := by
  rw [beq, Bool.and_eq_true, Bool.and_eq_true, beqFields_iff, all_hasKey_iff, beq_iff_eq]
  simp only [List.not_mem_nil, not_false_eq_true, true_implies, and_assoc]

theorem beqList_refl {xs : List Json} (h : ∀ x ∈ xs, beq x x = true) : beqList xs xs = true := by
  induction xs with
  | nil => rfl
  | cons x xs ih =>
    rw [List.forall_mem_cons] at h
    rw [beqList, h.1, ih h.2, Bool.and_self]

theorem beqList_symm {xs : List Json} (h : ∀ x ∈ xs, ∀ y, beq x y = true → beq y x = true) :
    ∀ ys, beqList xs ys = true → beqList ys xs = true := by
  induction xs with
  | nil =>
    intro ys hys
    cases ys with
    | nil => rfl
    | cons y ys => cases hys
  | cons x xs ih =>
    rw [List.forall_mem_cons] at h
    intro ys hys
    cases ys with
    | nil => cases hys
    | cons y ys =>
      rw [beqList, Bool.and_eq_true] at hys ⊢
      exact ⟨h.1 y hys.1, ih h.2 ys hys.2⟩

theorem beqList_trans {xs : List Json}
    (h : ∀ x ∈ xs, ∀ y z, beq x y = true → beq y z = true → beq x z = true) :
    ∀ ys zs, beqList xs ys = true → beqList ys zs = true → beqList xs zs = true := by
  induction xs with
  | nil =>
    intro ys zs hys hzs
    cases ys with
    | nil => exact hzs
    | cons y ys => cases hys
  | cons x xs ih =>
    rw [List.forall_mem_cons] at h
    intro ys zs hys hzs
    cases ys with
    | nil => cases hys
    | cons y ys =>
      cases zs with
      | nil => cases hzs
      | cons z zs =>
        rw [beqList, Bool.and_eq_true] at hys hzs ⊢
        exact ⟨h.1 y z hys.1 hzs.1, ih h.2 ys zs hys.2 hzs.2⟩

theorem beq_refl (v : Json) : beq v v = true := by
  induction v using induct with
  | null => rfl
  | bool b => simp [beq]
  | number n => exact n.beq_refl
  | string s => simp [beq]
  | array xs ih => exact beqList_refl ih
  | object fs ih =>
    rw [beq_object_iff]
    exact ⟨rfl, fun key x hx => ⟨x, hx, ih _ (Assoc.mem_of_find? hx)⟩, fun _ => id⟩

theorem beq_symm {v w : Json} (h : beq v w = true) : beq w v = true := by
  induction v using induct generalizing w with
  | null => cases w <;> first | rfl | cases h
  | bool a =>
    cases w with
    | bool b =>
      rw [beq, beq_iff_eq] at h ⊢
      exact h.symm
    | _ => cases h
  | number n =>
    cases w with
    | number m => exact Number.beq_symm h
    | _ => cases h
  | string s =>
    cases w with
    | string t =>
      rw [beq, beq_iff_eq] at h ⊢
      exact h.symm
    | _ => cases h
  | array xs ih =>
    cases w with
    | array ys => exact beqList_symm (fun x hx y => ih x hx) ys h
    | _ => cases h
  -- the keys of the second object are looked up in the first, from where they have their values
  | object fs ih =>
    cases w with
    | object gs =>
      rw [beq_object_iff] at h ⊢
      obtain ⟨hlen, hval, hnone⟩ := h
      refine ⟨hlen.symm, fun key y hy => ?_, fun key hkey => ?_⟩
      · cases hx : Assoc.find? key fs with
        | none =>
          rw [hnone key hx] at hy
          cases hy
        | some x =>
          obtain ⟨y', hy', hxy⟩ := hval key x hx
          cases hy.symm.trans hy'
          exact ⟨x, rfl, ih _ (Assoc.mem_of_find? hx) hxy⟩
      · cases hx : Assoc.find? key fs with
        | none => rfl
        | some x =>
          obtain ⟨y, hy, -⟩ := hval key x hx
          rw [hkey] at hy
          cases hy
    | _ => cases h

theorem beq_trans {u v w : Json} (huv : beq u v = true) (hvw : beq v w = true) :
    beq u w = true := by
  -- equal values have one constructor, so all but one case is closed by a hypothesis
  induction u using induct generalizing v w with
  | null =>
    cases v with
    | null => exact hvw
    | _ => cases huv
  | bool a =>
    cases v with
    | bool b =>
      rw [beq, beq_iff_eq] at huv
      exact huv ▸ hvw
    | _ => cases huv
  | number n =>
    cases v with
    | number m =>
      cases w with
      | number k => exact Number.beq_trans huv hvw
      | _ => cases hvw
    | _ => cases huv
  | string s =>
    cases v with
    | string t =>
      rw [beq, beq_iff_eq] at huv
      exact huv ▸ hvw
    | _ => cases huv
  | array xs ih =>
    cases v with
    | array ys =>
      cases w with
      | array zs => exact beqList_trans (fun x hx y z => ih x hx) ys zs huv hvw
      | _ => cases hvw
    | _ => cases huv
  | object fs ih =>
    cases v with
    | object gs =>
      cases w with
      | object hs =>
        rw [beq_object_iff] at huv hvw ⊢
        obtain ⟨hlen, hval, hnone⟩ := huv
        obtain ⟨hlen', hval', hnone'⟩ := hvw
        refine ⟨hlen.trans hlen', fun key x hx => ?_, fun key hkey => hnone' key (hnone key hkey)⟩
        obtain ⟨y, hy, hxy⟩ := hval key x hx
        obtain ⟨z, hz, hyz⟩ := hval' key y hy
        exact ⟨z, hz, ih _ (Assoc.mem_of_find? hx) hxy hyz⟩
      | _ => cases hvw
    | _ => cases huv

instance : EquivBEq Json where
  rfl := beq_refl _
  symm := beq_symm
  trans := beq_trans

end Json

/-! ### Bind values -/

namespace BindValue

mutual
theorem beq_refl : ∀ v : BindValue, beq v v = true
  | .integer i => by simp [beq]
  | .text s => by simp [beq]
  | .timestamp t => by simp [beq]
  | .list xs => beqList_refl xs
  | .json v => Json.beq_refl v

theorem beqList_refl : ∀ xs : List BindValue, beqList xs xs = true
  | [] => rfl
  | x :: xs => by rw [beqList, beq_refl x, beqList_refl xs, Bool.and_self]
end

mutual
theorem beq_symm : ∀ v w : BindValue, beq v w = true → beq w v = true
  | .integer i, .integer j, h => by
    rw [beq, beq_iff_eq] at h ⊢
    exact h.symm
  | .text s, .text t, h => by
    rw [beq, beq_iff_eq] at h ⊢
    exact h.symm
  | .timestamp s, .timestamp t, h => by
    rw [beq, beq_iff_eq] at h ⊢
    exact h.symm
  | .list xs, .list ys, h => beqList_symm xs ys h
  | .json v, .json w, h => Json.beq_symm h

theorem beqList_symm : ∀ xs ys : List BindValue, beqList xs ys = true → beqList ys xs = true
  | [], [], _ => rfl
  | x :: xs, y :: ys, h => by
    rw [beqList, Bool.and_eq_true] at h ⊢
    exact ⟨beq_symm x y h.1, beqList_symm xs ys h.2⟩
end

mutual
theorem beq_trans : ∀ u v w : BindValue, beq u v = true → beq v w = true → beq u w = true
  | .integer i, .integer j, w, h, h' => by
    rw [beq, beq_iff_eq] at h
    exact h ▸ h'
  | .text s, .text t, w, h, h' => by
    rw [beq, beq_iff_eq] at h
    exact h ▸ h'
  | .timestamp s, .timestamp t, w, h, h' => by
    rw [beq, beq_iff_eq] at h
    exact h ▸ h'
  | .list xs, .list ys, .list zs, h, h' => beqList_trans xs ys zs h h'
  | .json u, .json v, .json w, h, h' => Json.beq_trans h h'

theorem beqList_trans : ∀ xs ys zs : List BindValue,
    beqList xs ys = true → beqList ys zs = true → beqList xs zs = true
  | [], [], zs, _, h => h
  | x :: xs, y :: ys, z :: zs, h, h' => by
    rw [beqList, Bool.and_eq_true] at h h' ⊢
    exact ⟨beq_trans x y z h.1 h'.1, beqList_trans xs ys zs h.2 h'.2⟩
end

instance : EquivBEq BindValue where
  rfl := beq_refl _
  symm := beq_symm _ _
  trans := beq_trans _ _ _

end BindValue

/-! ### Deciding whether values are the same -/

namespace Json

mutual
/-- Whether two values are the same, the order of fields included. -/
def decEq : (v w : Json) → Decidable (v = w)
  | .null, .null => isTrue rfl
  | .bool a, .bool b => decidable_of_iff (a = b) (by simp)
  | .number a, .number b => decidable_of_iff (a = b) (by simp)
  | .string a, .string b => decidable_of_iff (a = b) (by simp)
  | .array xs, .array ys =>
    have := decEqList xs ys
    decidable_of_iff (xs = ys) (by simp)
  | .object fs, .object gs =>
    have := decEqFields fs gs
    decidable_of_iff (fs = gs) (by simp)
  | .null, .bool _ | .null, .number _ | .null, .string _ | .null, .array _ | .null, .object _
  | .bool _, .null | .bool _, .number _ | .bool _, .string _ | .bool _, .array _
  | .bool _, .object _ | .number _, .null | .number _, .bool _ | .number _, .string _
  | .number _, .array _ | .number _, .object _ | .string _, .null | .string _, .bool _
  | .string _, .number _ | .string _, .array _ | .string _, .object _ | .array _, .null
  | .array _, .bool _ | .array _, .number _ | .array _, .string _ | .array _, .object _
  | .object _, .null | .object _, .bool _ | .object _, .number _ | .object _, .string _
  | .object _, .array _ => isFalse nofun

/-- The same for the elements of lists. -/
def decEqList : (xs ys : List Json) → Decidable (xs = ys)
  | [], [] => isTrue rfl
  | x :: xs, y :: ys =>
    have := decEq x y
    have := decEqList xs ys
    decidable_of_iff (x = y ∧ xs = ys) (by simp)
  | [], _ :: _ | _ :: _, [] => isFalse nofun

/-- The same for the fields of objects. -/
def decEqFields : (fs gs : List (String × Json)) → Decidable (fs = gs)
  | [], [] => isTrue rfl
  | (key, x) :: fs, (key', y) :: gs =>
    have := decEq x y
    have := decEqFields fs gs
    decidable_of_iff (key = key' ∧ x = y ∧ fs = gs) (by simp [and_assoc])
  | [], _ :: _ | _ :: _, [] => isFalse nofun
end

instance : DecidableEq Json := decEq

end Json

namespace BindValue

mutual
/-- Whether two bind values are the same. -/
def decEq : (v w : BindValue) → Decidable (v = w)
  | .integer i, .integer j => decidable_of_iff (i = j) (by simp)
  | .text s, .text t => decidable_of_iff (s = t) (by simp)
  | .timestamp s, .timestamp t => decidable_of_iff (s = t) (by simp)
  | .json v, .json w => decidable_of_iff (v = w) (by simp)
  | .list xs, .list ys =>
    have := decEqList xs ys
    decidable_of_iff (xs = ys) (by simp)
  | .integer _, .text _ | .integer _, .timestamp _ | .integer _, .list _ | .integer _, .json _
  | .text _, .integer _ | .text _, .timestamp _ | .text _, .list _ | .text _, .json _
  | .timestamp _, .integer _ | .timestamp _, .text _ | .timestamp _, .list _ | .timestamp _, .json _
  | .list _, .integer _ | .list _, .text _ | .list _, .timestamp _ | .list _, .json _
  | .json _, .integer _ | .json _, .text _ | .json _, .timestamp _ | .json _, .list _ =>
    isFalse nofun

/-- The same for lists of them. -/
def decEqList : (xs ys : List BindValue) → Decidable (xs = ys)
  | [], [] => isTrue rfl
  | x :: xs, y :: ys =>
    have := decEq x y
    have := decEqList xs ys
    decidable_of_iff (x = y ∧ xs = ys) (by simp)
  | [], _ :: _ | _ :: _, [] => isFalse nofun
end

instance : DecidableEq BindValue := decEq

end BindValue

deriving instance DecidableEq for ValueFault
deriving instance DecidableEq for DescriptorFault
deriving instance DecidableEq for ConfigFault
deriving instance DecidableEq for FilterError
deriving instance DecidableEq for BindTable

instance Except.decEq {ε α : Type} [DecidableEq ε] [DecidableEq α] : DecidableEq (Except ε α)
  | .ok a, .ok b => decidable_of_iff (a = b) (by simp)
  | .error e, .error f => decidable_of_iff (e = f) (by simp)
  | .ok _, .error _ | .error _, .ok _ => isFalse nofun

end Criteria
