import Criteria.Proofs.Forms
import Criteria.Proofs.Matched
import Criteria.Proofs.Related
import Criteria.Proofs.Simulation

/-!
# Integers and their digits

A request has texts where a JSON body has integers. The filters that read both take an integer of 64
bits and its decimal digits for the same thing, in elements of lists, ids of handles and operands of
comparisons, and refuse both or neither anywhere else: no date format takes the digits first. Main
statement: `Compiler.compile_stringified`.
-/

namespace Criteria

/-! ### Integers written as texts -/

namespace Json

mutual
/-- A value, and the same with some of its integers of 64 bits written as texts. -/
inductive Stringified : Json → Json → Prop
  | null : Stringified .null .null
  | bool (b : Bool) : Stringified (.bool b) (.bool b)
  | number (n : Number) : Stringified (.number n) (.number n)
  | string (s : String) : Stringified (.string s) (.string s)
  | digits {i : Int} (h : Decimal.fitsWord i = true) :
      Stringified (.int i) (.string (Decimal.ofInt i))
  | array {xs ys : List Json} (h : StringifiedList xs ys) : Stringified (.array xs) (.array ys)
  | object {fs gs : List (String × Json)} (h : StringifiedFields fs gs) :
      Stringified (.object fs) (.object gs)

/-- The same for the elements of a list. -/
inductive StringifiedList : List Json → List Json → Prop
  | nil : StringifiedList [] []
  | cons {x y : Json} {xs ys : List Json} (h : Stringified x y) (hrest : StringifiedList xs ys) :
      StringifiedList (x :: xs) (y :: ys)

/-- The same for the values of fields. -/
inductive StringifiedFields : List (String × Json) → List (String × Json) → Prop
  | nil : StringifiedFields [] []
  | cons {key : String} {x y : Json} {fs gs : List (String × Json)} (h : Stringified x y)
      (hrest : StringifiedFields fs gs) : StringifiedFields ((key, x) :: fs) ((key, y) :: gs)
end

theorem StringifiedFields.find? {fs gs : List (String × Json)} (h : StringifiedFields fs gs)
    (key : String) : Option.Rel Stringified (Assoc.find? key fs) (Assoc.find? key gs) := by
  match h with
  | .nil => exact .none
  | .cons h hrest =>
    rw [Assoc.find?_cons, Assoc.find?_cons]
    split
    · exact .some h
    · exact hrest.find? key

theorem StringifiedList.forall₂ {xs ys : List Json} (h : StringifiedList xs ys) :
    List.Forall₂ Stringified xs ys := by
  match h with
  | .nil => exact .nil
  | .cons h hrest => exact .cons h hrest.forall₂

/-- Mappings with digits in them match leaf by leaf. -/
theorem StringifiedFields.matched {fs gs : List (String × Json)} (h : StringifiedFields fs gs) :
    Matched (fun _ => Stringified) fs gs := by
  match h with
  | .nil => exact .nil
  | @StringifiedFields.cons key _ _ _ _ h hrest =>
    cases hkey : Combinator.ofKey? key with
    | none => exact .leaf hkey h hrest.matched
    | some combinator =>
      cases h with
      | object hinner => exact .nested hkey hinner.matched hrest.matched
      | _ => exact .malformed hkey (by simp [Json.int]) (by simp) hrest.matched

end Json

/-! ### Texts of integers -/

namespace Decimal

theorem toList_ofInt (i : Int) :
    (ofInt i).toList = digits i.natAbs ∨ (ofInt i).toList = '-' :: digits i.natAbs := by
  unfold ofInt ofNat
  split
  · exact Or.inr String.toList_ofList
  · exact Or.inl String.toList_ofList

theorem isDigit_or_eq_of_mem_ofInt {i : Int} {c : Char} (h : c ∈ (ofInt i).toList) :
    isDigit c = true ∨ c = '-' := by
  rcases toList_ofInt i with hlist | hlist
  · exact Or.inl (isDigit_of_mem_digits _ c (hlist ▸ h))
  · rw [hlist, List.mem_cons] at h
    exact h.symm.imp (isDigit_of_mem_digits _ c) id

theorem toNat_of_isDigit {c : Char} (h : isDigit c = true) : 48 ≤ c.toNat ∧ c.toNat ≤ 57 := by
  simp only [isDigit, Bool.and_eq_true, decide_eq_true_eq, Char.le_def,
    UInt32.le_iff_toNat_le] at h
  exact h

theorem isBlank_of_isDigit {c : Char} (h : isDigit c = true) : Text.isBlank c = false := by
  have := toNat_of_isDigit h
  exact Text.isBlank_of_visible (by omega) (by omega)

theorem isBlank_of_mem_ofInt {i : Int} {c : Char} (h : c ∈ (ofInt i).toList) :
    Text.isBlank c = false := by
  rcases isDigit_or_eq_of_mem_ofInt h with h | rfl
  · exact isBlank_of_isDigit h
  · decide

theorem trim_ofInt (i : Int) : Text.trim (ofInt i).toList = (ofInt i).toList :=
  Text.trim_of_forall fun _ => isBlank_of_mem_ofInt

/-- An integer of 64 bits is read back from its digits. -/
theorem wordOfChars?_ofInt {i : Int} (h : fitsWord i = true) :
    wordOfChars? (ofInt i).toList = some i := by
  -- the reader of 64 bits is the reader of integers with a test behind
  rw [wordOfChars?_eq, intOfChars?_ofInt, Option.filter_some, if_pos h]

end Decimal

/-! ### Elements -/

namespace Reference

/-- Digits are no reference. -/
theorem ofJson?_digits (i : Int) : ofJson? (.string (Decimal.ofInt i)) = none := by
  have hscheme : scheme.isPrefixOf (Decimal.ofInt i).toList = false := by
    rw [Bool.eq_false_iff, Ne, List.isPrefixOf_iff_prefix]
    intro h
    have hmem : 'g' ∈ (Decimal.ofInt i).toList := h.subset (by decide)
    rcases Decimal.isDigit_or_eq_of_mem_ofInt hmem with h | h
    · exact absurd h (by decide)
    · exact absurd h (by decide)
  -- without a slash there is no place to cut a fingerprint
  have hslash : '/' ∉ (Decimal.ofInt i).toList := by
    intro hmem
    rcases Decimal.isDigit_or_eq_of_mem_ofInt hmem with h | h
    · exact absurd h (by decide)
    · exact absurd h (by decide)
  simp [ofJson?, hscheme, ofFingerprint?, ofFingerprintChars?, Decimal.trim_ofInt,
    cut_of_notMem hslash]

/-- Digits are no class. -/
theorem isClass_ofInt (i : Int) : isClass (Decimal.ofInt i).toList = false := by
  cases hlist : (Decimal.ofInt i).toList with
  | nil => rfl
  | cons c cs =>
    have hcapital : isCapital c = false := by
      rcases Decimal.isDigit_or_eq_of_mem_ofInt (hlist ▸ List.mem_cons_self) with h | rfl
      · have hle : c.toNat ≤ 57 := (Decimal.toNat_of_isDigit h).2
        have hlow : ¬ 'A' ≤ c := by
          rw [Char.le_def, UInt32.le_iff_toNat_le]
          exact Nat.not_le.2 (Nat.lt_of_le_of_lt hle (by decide))
        simp [isCapital, hlow]
      · decide
    rw [isClass, hcapital, Bool.false_and]

theorem handleId?_stringified {x y : Json} (h : Json.Stringified x y) :
    handleId? x = handleId? y := by
  cases h <;> rfl

/-- A class that is a number names nothing, and neither do its digits. -/
theorem text?_bind_stringified {x y : Json} (h : Json.Stringified x y) (id : List Char) :
    (x.text?.bind fun name => ofParts? isPathChar name.toList id) =
      y.text?.bind fun name => ofParts? isPathChar name.toList id := by
  cases h with
  | digits => simp [Json.int, Json.text?, ofParts?, isClass_ofInt]
  | _ => rfl

theorem ofJson?_stringified {x y : Json} (h : Json.Stringified x y) : ofJson? x = ofJson? y := by
  cases h with
  | digits => exact (ofJson?_digits _).symm
  -- a handle with a number for its class is none, and one with digits is none either
  | object h =>
    exact ofHandle?_congr h.find? (fun _ _ h => handleId?_stringified h)
      fun id _ _ h => text?_bind_stringified h id
  | _ => rfl

theorem bareId?_stringified {x y : Json} (h : Json.Stringified x y) : bareId? x = bareId? y := by
  cases h with
  | digits h =>
    simp [Json.int, bareId?, Number.word?, h, Decimal.trim_ofInt, Decimal.wordOfChars?_ofInt]
  | _ => rfl

theorem resolveId_stringified (scope : Option String) {x y : Json} (h : Json.Stringified x y) :
    resolveId scope x = resolveId scope y := by
  rw [resolveId, resolveId, bareId?_stringified h, ofJson?_stringified h]

theorem resolveFingerprint_stringified {x y : Json} (h : Json.Stringified x y) :
    resolveFingerprint x = resolveFingerprint y := by
  rw [resolveFingerprint, resolveFingerprint, ofJson?_stringified h]

end Reference

namespace Convert

theorem integerOf?_stringified {x y : Json} (h : Json.Stringified x y) :
    integerOf? x = integerOf? y := by
  cases h with
  | digits h =>
    simp [Json.int, integerOf?, Number.word?, h, Decimal.trim_ofInt, Decimal.wordOfChars?_ofInt]
  | _ => rfl

theorem stringOf?_stringified {x y : Json} (h : Json.Stringified x y) :
    stringOf? x = stringOf? y := by
  cases h <;> rfl

end Convert

/-! ### Set filters -/

/-- A filter that takes integers and their digits for the same: none with a generator, and a mapped
list only where it makes integers or strings of its elements. -/
def FilterSpec.ReadsDigits (spec : FilterSpec) : Prop :=
  spec.kind ≠ .custom ∧ (spec.kind = .mappedList → spec.convert = .integer ∨ spec.convert = .string)

theorem FilterSpec.elements_stringified {spec : FilterSpec} (hspec : spec.ReadsDigits)
    (hset : spec.IsSet) (side : Side) {xs ys : List Json} (h : Json.StringifiedList xs ys) :
    spec.elements side xs = spec.elements side ys := by
  have hfilter {α : Type} {f : Json → Option α} (hf : ∀ {x y}, Json.Stringified x y → f x = f y) :
      xs.filterMap f = ys.filterMap f :=
    filterMap_eq_of_forall₂ (fun _ _ hxy => hf hxy) h.forall₂
  unfold elements
  rcases hset with hkind | hkind | hkind
  · simp only [hkind, hfilter (Reference.resolveId_stringified _)]
  · simp only [hkind, hfilter Reference.resolveFingerprint_stringified]
  · simp only [hkind, Clause.mapped]
    rcases hspec.2 hkind with hconvert | hconvert
    · simp only [hconvert, Convert.apply, hfilter Convert.integerOf?_stringified]
    · simp only [hconvert, Convert.apply, hfilter Convert.stringOf?_stringified]

theorem SetBody.listOf?_stringified {x y : Json} (h : Json.Stringified x y) :
    Option.Rel Json.StringifiedList (listOf? x) (listOf? y) := by
  refine listOf?_rel (by cases h <;> rfl) ?_ (.cons h .nil)
  cases h with
  | array h => exact .some h
  | _ => exact .none

theorem SetBody.side?_stringified {fs gs : List (String × Json)} (h : Json.StringifiedFields fs gs)
    (side : Side) : Option.Rel Json.StringifiedList (side? side fs) (side? side gs) :=
  rel_bind (fun _ _ hvalue => listOf?_stringified hvalue) (h.find? side.key)

theorem Outline.sets_stringified {spec : FilterSpec} (hspec : spec.ReadsDigits) (hset : spec.IsSet)
    (filter : String) {x y : Json} (h : Json.Stringified x y) :
    sets filter spec x = sets filter spec y := by
  have hmembership {body body' : SetBody}
      (honly : Option.Rel Json.StringifiedList body.only body'.only)
      (hexcept : Option.Rel Json.StringifiedList body.except body'.except) :
      spec.membership body = spec.membership body' :=
    spec.membership_congr (fun side _ _ => FilterSpec.elements_stringified hspec hset side)
      honly hexcept
  apply sets_congr
  cases h with
  | null | bool | number | string => rfl
  | digits h => exact congrArg Except.ok (hmembership (.some (.cons (.digits h) .nil)) .none)
  | array h => exact congrArg Except.ok (hmembership (.some h) .none)
  | object h =>
    exact congrArg Except.ok
      (hmembership (SetBody.side?_stringified h .only) (SetBody.side?_stringified h .except))

/-! ### Timestamps -/

namespace Timestamp

/-- The digits of an integer are no date. -/
theorem ofChars?_ofInt {i : Int} (h : Decimal.fitsWord i = true) :
    ofChars? (Decimal.ofInt i).toList = ofSeconds? i := by
  have hword := Decimal.wordOfChars?_ofInt h
  rw [Form.ofChars?_of_mem (mem_of_wordOfChars? hword), Form.read, ofUnixText?, hword,
    Option.bind_some]

theorem ofJson?_stringified {x y : Json} (h : Json.Stringified x y) : ofJson? x = ofJson? y := by
  cases h with
  | digits h =>
    simp [Json.int, ofJson?, Number.word?, h, Decimal.trim_ofInt, ofChars?_ofInt h]
  | _ => rfl

end Timestamp

/-- An error without the operand that it quotes. -/
def FilterError.unquoted : FilterError → FilterError
  | .invalidValue filter (.notTimestamp _) => .invalidValue filter (.notTimestamp .null)
  | e => e

theorem FilterError.unquoted_notTimestamp (filter : String) (x y : Json) :
    unquoted (.invalidValue filter (.notTimestamp x)) =
      unquoted (.invalidValue filter (.notTimestamp y)) := rfl

theorem Clause.bounds_stringified (filter : String) {x y : Json} (h : Json.Stringified x y) :
    (bounds filter x).mapError FilterError.unquoted =
      (bounds filter y).mapError FilterError.unquoted := by
  cases h with
  | array h =>
    match h with
    | .cons hfirst (.cons hsecond .nil) =>
      exact bounds_congr FilterError.unquoted_notTimestamp filter
        (Timestamp.ofJson?_stringified hfirst) (Timestamp.ofJson?_stringified hsecond)
    | .nil | .cons _ .nil | .cons _ (.cons _ (.cons _ _)) => rfl
  | _ => rfl

namespace Outline

/-- Comparisons that fail bind the same before they do. -/
theorem comparisons_stringified (filter field : String) {fs gs : List (String × Json)}
    (h : Json.StringifiedFields fs gs) :
    (comparisons filter field fs).mapError (fun s => (s.1.unquoted, s.2)) =
      (comparisons filter field gs).mapError fun s => (s.1.unquoted, s.2) := by
  cases h with
  | nil => rfl
  | @cons key x y fs gs h hrest =>
    rw [comparisons, comparisons]
    cases Comparison.ofKey? key with
    | none => rfl
    | some op =>
      have hfirst := comparison_congr FilterError.unquoted_notTimestamp filter field op
        (Timestamp.ofJson?_stringified h) (Clause.bounds_stringified filter h)
      have hothers := comparisons_stringified filter field hrest
      obtain ⟨t, ht, ht'⟩ | ⟨e, e', ht, ht', he⟩ := Except.mapError_eq_iff.1 hfirst
      · obtain ⟨ts, hts, hts'⟩ | ⟨s, s', hts, hts', hs⟩ := Except.mapError_eq_iff.1 hothers
        · simp only [ht, ht', hts, hts']
        · obtain ⟨hs, hbound⟩ := Prod.mk.inj hs
          simp only [ht, ht', hts, hts', Except.mapError, hs, hbound]
      · simp only [ht, ht', Except.mapError, he]

end Outline

open Pass (observed)

theorem Outline.timestampRange_stringified (filter field : String) {x y : Json}
    (h : Json.Stringified x y) (table : BindTable) :
    observed FilterError.unquoted (settled table (timestampRange filter field x)) =
      observed FilterError.unquoted (settled table (timestampRange filter field y)) := by
  cases h with
  | @object fs gs h =>
    rw [timestampRange, timestampRange]
    obtain ⟨ts, hts, hts'⟩ | ⟨s, s', hs, hs', h⟩ :=
      Except.mapError_eq_iff.1 (comparisons_stringified filter field h)
    · simp only [hts, hts']
    · obtain ⟨he, hbound⟩ := Prod.mk.inj h
      simp only [hs, hs', settled, stopResult, observed, Except.mapError, he, hbound]
  | _ => rfl

/-! ### Bodies -/

/-- All filters of a set take integers and their digits for the same. -/
def FilterSet.ReadDigits (filters : FilterSet) : Prop :=
  ∀ name d, filters.find? name = some d → d.toFilterSpec.ReadsDigits

theorem Clause.compile_observed {d : Descriptor} (hd : d.toFilterSpec.ReadsDigits)
    (filter : String) {x y : Json} (h : Json.Stringified x y) (table : BindTable) :
    observed FilterError.unquoted ((compile filter d x).outcome table) =
      observed FilterError.unquoted ((compile filter d y).outcome table) := by
  rw [compile_outcome hd.1, compile_outcome hd.1]
  rcases d.kind_cases with hset | hrange | hother
  · rw [Outline.leaf_of_isSet hset, Outline.leaf_of_isSet hset,
      Outline.sets_stringified hd hset filter h]
  · rw [Outline.leaf_of_timestampRange hrange, Outline.leaf_of_timestampRange hrange]
    exact Outline.timestampRange_stringified filter d.field h table
  · rw [Outline.leaf_of_other hother, Outline.leaf_of_other hother]

/-- A body and the same with integers of 64 bits written as texts compile alike: to the same
predicate and bind table, or to errors of one kind about the same filter, which differ at most in
the operand that they quote. -/
theorem Compiler.compile_stringified {compiler : Compiler} (hf : compiler.filters.ReadDigits)
    {b b' : Body} (h : Json.Stringified b.toJson b'.toJson) (default : Combinator) :
    (compiler.compile b default).result.mapError FilterError.unquoted =
      (compiler.compile b' default).result.mapError FilterError.unquoted := by
  have hrelated : ∀ key x y, Json.Stringified x y → ∀ d, compiler.filters.find? key = some d →
      ∀ table, observed FilterError.unquoted ((Clause.compile key d x).outcome table) =
        observed FilterError.unquoted ((Clause.compile key d y).outcome table) := by
    intro key x y h d hd table
    exact Clause.compile_observed (hf key d hd) key h table
  generalize hx : b.toJson = x at h
  generalize hy : b'.toJson = y at h
  cases h with
  | object h =>
    exact compile_matched hrelated (by rw [Body.fields?, hx]) (by rw [Body.fields?, hy]) h.matched
      default
  | _ =>
    have hb : b.fields? = none := by simp only [Body.fields?, hx, Json.int]
    have hb' : b'.fields? = none := by rw [Body.fields?, hy]
    rw [compile_of_outcome (Compile.body_of_no_fields hb _ _ _),
      compile_of_outcome (Compile.body_of_no_fields hb' _ _ _)]

/-- Filters on posts that a request may name. -/
def FilterSet.ratedPosts : FilterSet :=
  .ofList [
    ("author", (Descriptor.ofKind .reference "posts.author_id").withClassName "User"),
    ("subject", .ofKind .polymorphicReference "posts.subject"),
    ("rating", (Descriptor.ofKind .mappedList "posts.rating").withConvert .integer),
    ("tag", (Descriptor.ofKind .mappedList "posts.tag").withConvert .string),
    ("created", .ofKind .timestampRange "posts.created_at")]

theorem FilterSet.ratedPosts_readDigits : ratedPosts.ReadDigits := by
  have hentries : ratedPosts.entries = [
      ("author", (Descriptor.ofKind .reference "posts.author_id").withClassName "User"),
      ("subject", .ofKind .polymorphicReference "posts.subject"),
      ("rating", (Descriptor.ofKind .mappedList "posts.rating").withConvert .integer),
      ("tag", (Descriptor.ofKind .mappedList "posts.tag").withConvert .string),
      ("created", .ofKind .timestampRange "posts.created_at")] := rfl
  apply forall_find?
  simp [hentries, FilterSpec.ReadsDigits, Descriptor.withClassName, Descriptor.withConvert,
    Descriptor.ofKind]

/-- A body of numbers, and the request that says the same in texts. -/
theorem Compiler.compile_stringified_ratedPosts :
    let b := Body.object [
      ("author", .array [.int 7, .object [("class", .string "User"), ("id", .int 8)]]),
      ("rating", .int (-3)),
      ("created", .object [("before", .int 1700000000)])]
    let b' := Body.request ⟨[("author[]", "7"), ("author[][class]", "User"), ("author[][id]", "8"),
      ("rating", "-3"), ("created[before]", "1700000000")]⟩
    FilterSet.ratedPosts.ReadDigits ∧ Json.Stringified b.toJson b'.toJson ∧
      ((ofFilters .ratedPosts).compile b .all).result.mapError FilterError.unquoted =
        ((ofFilters .ratedPosts).compile b' .all).result.mapError FilterError.unquoted := by
  intro b b'
  have hrequest : b'.toJson = .object [
      ("author", .array [.string (Decimal.ofInt 7),
        .object [("class", .string "User"), ("id", .string (Decimal.ofInt 8))]]),
      ("rating", .string (Decimal.ofInt (-3))),
      ("created", .object [("before", .string (Decimal.ofInt 1700000000))])] := by
    decide +kernel
  have hauthor : Json.Stringified (.object [("class", .string "User"), ("id", .int 8)])
      (.object [("class", .string "User"), ("id", .string (Decimal.ofInt 8))]) :=
    .object (.cons (.string _) (.cons (.digits rfl) .nil))
  have h : Json.Stringified b.toJson b'.toJson := by
    rw [hrequest]
    exact .object (.cons (.array (.cons (.digits rfl) (.cons hauthor .nil)))
      (.cons (.digits rfl) (.cons (.object (.cons (.digits rfl) .nil)) .nil)))
  exact ⟨FilterSet.ratedPosts_readDigits, h,
    compile_stringified FilterSet.ratedPosts_readDigits h .all⟩

end Criteria
