import Criteria.Proofs.Outline
import Mathlib.Data.List.Forall2

/-!
# Related values are read alike

Two values may be spelt differently and yet be read as the same, at every place where the compiler
looks at them. Main statements: `Reference.ofHandle?_congr`, a handle is read by what is found under
its keys, `Outline.sets_congr`, a set filter by what its two lists amount to, `Outline.sets_related`,
one of references by what their elements resolve to, and `Outline.comparison_congr`, a comparison by
the instants that its operand means.
-/

namespace Criteria

/-! ### Options and lists -/

section
variable {α β : Type} {r : α → α → Prop} {a b : Option α}

theorem rel_refl (hr : ∀ x, r x x) (a : Option α) : Option.Rel r a a := by
  cases a with
  | none => exact .none
  | some x => exact .some (hr x)

theorem bind_eq_of_rel {f : α → Option β} (hf : ∀ x y, r x y → f x = f y) (h : Option.Rel r a b) :
    a.bind f = b.bind f := by
  cases h with
  | none => rfl
  | some h => exact hf _ _ h

theorem map_eq_of_rel {f : α → β} (hf : ∀ x y, r x y → f x = f y) (h : Option.Rel r a b) :
    a.map f = b.map f := by
  cases h with
  | none => rfl
  | some h => exact congrArg some (hf _ _ h)

theorem rel_bind {q : β → β → Prop} {f : α → Option β}
    (hf : ∀ x y, r x y → Option.Rel q (f x) (f y)) (h : Option.Rel r a b) :
    Option.Rel q (a.bind f) (b.bind f) := by
  cases h with
  | none => exact .none
  | some h => exact hf _ _ h

theorem rel_orElse {c d : Option α} (hab : Option.Rel r a b) (hcd : Option.Rel r c d) :
    Option.Rel r (a <|> c) (b <|> d) := by
  cases hab with
  | none => exact hcd
  | some h => exact .some h

theorem filterMap_eq_of_forall₂ {f : α → Option β} (hf : ∀ x y, r x y → f x = f y) {xs ys : List α}
    (h : List.Forall₂ r xs ys) : xs.filterMap f = ys.filterMap f := by
  induction h with
  | nil => rfl
  | cons h _ ih => rw [List.filterMap_cons, List.filterMap_cons, hf _ _ h, ih]

end

/-! ### References -/

/-- A handle is read by what is found under its keys. -/
theorem Reference.ofHandle?_congr {r : Json → Json → Prop} {fs gs : List (String × Json)}
    (hfind : ∀ key, Option.Rel r (Assoc.find? key fs) (Assoc.find? key gs))
    (hid : ∀ x y, r x y → handleId? x = handleId? y)
    (hname : ∀ id x y, r x y →
      (x.text?.bind fun name => ofParts? isPathChar name.toList id) =
        y.text?.bind fun name => ofParts? isPathChar name.toList id) :
    ofHandle? fs = ofHandle? gs := by
  have hids : Assoc.find? "id" fs >>= handleId? = Assoc.find? "id" gs >>= handleId? :=
    bind_eq_of_rel hid (hfind "id")
  have hclass := rel_orElse (hfind "class") (hfind "type")
  unfold ofHandle?
  rw [hids]
  cases Assoc.find? "id" gs >>= handleId? with
  | none => simp
  | some id => simpa [Option.bind_assoc] using bind_eq_of_rel (hname id.toList) hclass

/-! ### Set filters -/

/-- Lists whose elements are bound alike amount to the same test. -/
theorem FilterSpec.membership_congr {spec : FilterSpec} {r : List Json → List Json → Prop}
    (h : ∀ side xs ys, r xs ys → spec.elements side xs = spec.elements side ys)
    {body body' : SetBody} (honly : Option.Rel r body.only body'.only)
    (hexcept : Option.Rel r body.except body'.except) :
    spec.membership body = spec.membership body' := by
  rw [membership, membership, map_eq_of_rel (h .only) honly, map_eq_of_rel (h .except) hexcept]

/-- The elements of a value that is a list. -/
def Json.list? : Json → Option (List Json)
  | .array xs => some xs
  | _ => none

/-- Values that are both `null`, or both lists, which are related, or neither of both, hold related
lists: a value that is neither is a list of one. -/
theorem SetBody.listOf?_rel {q : List Json → List Json → Prop} {v w : Json}
    (hnull : v.isNull = w.isNull) (hlist : Option.Rel q v.list? w.list?) (hone : q [v] [w]) :
    Option.Rel q (listOf? v) (listOf? w) := by
  have hlistOf (x : Json) :
      listOf? x = if x.isNull then Option.none else some (x.list?.getD [x]) := by
    cases x <;> rfl
  rw [hlistOf, hlistOf, hnull]
  split
  · exact .none
  · generalize v.list? = xs?, w.list? = ys? at hlist ⊢
    cases hlist with
    | none => exact .some hone
    | some h => exact .some h

/-- Mappings with the same keys and related values have related lists. -/
theorem SetBody.side?_rel {r : Json → Json → Prop} {q : List Json → List Json → Prop}
    (hlist : ∀ v w, r v w → Option.Rel q (listOf? v) (listOf? w)) {fields fields' : Assoc Json}
    (h : List.Forall₂ (fun f f' => f.1 = f'.1 ∧ r f.2 f'.2) fields fields') (side : Side) :
    Option.Rel q (side? side fields) (side? side fields') := by
  apply rel_bind hlist
  induction h with
  | nil => exact .none
  | @cons f f' _ _ h _ ih =>
    obtain ⟨key, v⟩ := f
    obtain ⟨key', w⟩ := f'
    obtain ⟨rfl, hvalue⟩ := h
    rw [Assoc.find?_cons, Assoc.find?_cons]
    split
    · exact .some hvalue
    · exact ih

/-- A set filter asks of a value only what its lists amount to. -/
theorem Outline.sets_congr {filter : String} {spec : FilterSpec} {value value' : Json}
    (h : (SetBody.read filter value).map spec.membership =
      (SetBody.read filter value').map spec.membership) :
    sets filter spec value = sets filter spec value' := by
  unfold sets
  match SetBody.read filter value, SetBody.read filter value', h with
  | .ok body, .ok body', h => exact congrArg (ofMembership spec.field) (Except.ok.inj h)
  | .error e, .error e', h =>
    have he : e = e' := Except.error.inj h
    simp only [he]

/-! ### Filters of references -/

namespace Reference

/-- A list that one key of a set criterion holds, and one with related elements. A value by itself is
a list of one. -/
inductive ListRel (r : Json → Json → Prop) : Json → Json → Prop
  | list {xs ys : List Json} (h : List.Forall₂ r xs ys) : ListRel r (.array xs) (.array ys)
  | single {v w : Json} (h : r v w) : ListRel r v w

/-- The value of a set filter, and one with related elements in its lists. A mapping by itself is not
one element, so a text by itself stays a text. -/
inductive ValueRel (r : Json → Json → Prop) : Json → Json → Prop
  | list {xs ys : List Json} (h : List.Forall₂ r xs ys) : ValueRel r (.array xs) (.array ys)
  | text {s t : String} (h : r (.string s) (.string t)) : ValueRel r (.string s) (.string t)
  | sides {fields fields' : List (String × Json)}
      (h : List.Forall₂ (fun f f' => f.1 = f'.1 ∧ ListRel r f.2 f'.2) fields fields') :
      ValueRel r (.object fields) (.object fields')

/-- Related elements resolve to the same, and both are `null`, or lists of related elements, or
neither of both. -/
structure ReadAlike (r : Json → Json → Prop) : Prop where
  id : ∀ scope v w, r v w → resolveId scope v = resolveId scope w
  fingerprint : ∀ v w, r v w → resolveFingerprint v = resolveFingerprint w
  isNull : ∀ v w, r v w → v.isNull = w.isNull
  list? : ∀ v w, r v w → Option.Rel (List.Forall₂ r) v.list? w.list?

end Reference

section
variable {r : Json → Json → Prop} (hr : Reference.ReadAlike r)
include hr

/-- Of the elements of references, what they resolve to counts. -/
theorem FilterSpec.elements_related {spec : FilterSpec}
    (hkind : spec.kind = .reference ∨ spec.kind = .polymorphicReference) (side : Side)
    {xs ys : List Json} (h : List.Forall₂ r xs ys) :
    spec.elements side xs = spec.elements side ys := by
  unfold elements
  rcases hkind with hkind | hkind
  · simp only [hkind, filterMap_eq_of_forall₂ (hr.id spec.className) h]
  · simp only [hkind, filterMap_eq_of_forall₂ hr.fingerprint h]

theorem SetBody.listOf?_related {v w : Json} (h : Reference.ListRel r v w) :
    Option.Rel (List.Forall₂ r) (listOf? v) (listOf? w) := by
  cases h with
  | list h => exact .some h
  | single h => exact listOf?_rel (hr.isNull v w h) (hr.list? v w h) (.cons h .nil)

/-- A filter of references asks of related values the same. -/
theorem Outline.sets_related {spec : FilterSpec}
    (hkind : spec.kind = .reference ∨ spec.kind = .polymorphicReference) (filter : String)
    {v w : Json} (h : Reference.ValueRel r v w) : sets filter spec v = sets filter spec w := by
  have hmembership {body body' : SetBody}
      (honly : Option.Rel (List.Forall₂ r) body.only body'.only)
      (hexcept : Option.Rel (List.Forall₂ r) body.except body'.except) :
      spec.membership body = spec.membership body' :=
    spec.membership_congr (fun side _ _ => FilterSpec.elements_related hr hkind side) honly hexcept
  apply sets_congr
  cases h with
  | list h => exact congrArg Except.ok (hmembership (.some h) .none)
  | text h => exact congrArg Except.ok (hmembership (.some (.cons h .nil)) .none)
  | sides h =>
    have hside := SetBody.side?_rel (fun _ _ => SetBody.listOf?_related hr) h
    exact congrArg Except.ok (hmembership (hside .only) (hside .except))

end

/-! ### Operands of comparisons -/

/-- Where only a function of errors shows, two results are the same, or errors alike. -/
theorem Except.mapError_eq_iff {ε ε' α : Type} {k : ε → ε'} {x x' : Except ε α} :
    x.mapError k = x'.mapError k ↔
      (∃ a, x = .ok a ∧ x' = .ok a) ∨ ∃ e e', x = .error e ∧ x' = .error e' ∧ k e = k e' := by
  cases x <;> cases x' <;> simp [Except.mapError, eq_comm]

theorem Except.mapError_bind_congr {ε ε' α β : Type} {k : ε → ε'} {x x' : Except ε α}
    {f f' : α → Except ε β} (hx : x.mapError k = x'.mapError k)
    (hf : ∀ a, (f a).mapError k = (f' a).mapError k) :
    (x >>= f).mapError k = (x' >>= f').mapError k := by
  obtain ⟨a, rfl, rfl⟩ | ⟨e, e', rfl, rfl, he⟩ := mapError_eq_iff.1 hx
  · exact hf a
  · exact congrArg Except.error he

theorem Except.mapError_map_congr {ε ε' α β : Type} {k : ε → ε'} {x x' : Except ε α}
    (f : α → β) (hx : x.mapError k = x'.mapError k) :
    (x.map f).mapError k = (x'.map f).mapError k := by
  obtain ⟨a, rfl, rfl⟩ | ⟨e, e', rfl, rfl, he⟩ := mapError_eq_iff.1 hx
  · rfl
  · exact congrArg Except.error he

section
variable {κ : Type} {kind : FilterError → κ}
  (hkind : ∀ filter x y,
    kind (.invalidValue filter (.notTimestamp x)) = kind (.invalidValue filter (.notTimestamp y)))
include hkind

/-- Operands that are read alike are one instant, or errors that differ in what they quote. -/
theorem Clause.instant_congr (filter : String) {x y : Json}
    (h : Timestamp.ofJson? x = Timestamp.ofJson? y) :
    (instant filter x).mapError kind = (instant filter y).mapError kind := by
  rw [instant, instant, h]
  cases Timestamp.ofJson? y with
  | none => exact congrArg Except.error (hkind filter x y)
  | some t => rfl

theorem Clause.bounds_congr (filter : String) {x x' y y' : Json}
    (hx : Timestamp.ofJson? x = Timestamp.ofJson? x')
    (hy : Timestamp.ofJson? y = Timestamp.ofJson? y') :
    (bounds filter (.array [x, y])).mapError kind =
      (bounds filter (.array [x', y'])).mapError kind :=
  Except.mapError_bind_congr (instant_congr hkind filter hx) fun _ =>
    Except.mapError_bind_congr (instant_congr hkind filter hy) fun _ => rfl

theorem Outline.comparison_congr (filter field : String) (op : Comparison) {x y : Json}
    (h : Timestamp.ofJson? x = Timestamp.ofJson? y)
    (hbounds : (Clause.bounds filter x).mapError kind = (Clause.bounds filter y).mapError kind) :
    (comparison filter field op x).mapError kind = (comparison filter field op y).mapError kind := by
  unfold comparison
  cases op.form with
  | inl r => exact Except.mapError_map_congr _ (Clause.instant_congr hkind filter h)
  | inr negated => exact Except.mapError_map_congr _ hbounds

end

end Criteria
