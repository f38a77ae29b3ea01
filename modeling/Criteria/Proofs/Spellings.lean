import Criteria.Proofs.Matched
import Criteria.Proofs.Related
import Criteria.Proofs.Simulation

/-!
# Spellings of references

A fingerprint, a handle and a global identifier of the same class and id are read as the same
reference, and the fingerprint is the normal form of them all. So the elements of a list of
references may be spelt in any way: the predicate and the bind table stay the same. Main statement:
`Reference.spellings_interchangeable`.
-/

namespace Criteria

namespace Reference

/-! ### Well-formed references -/

/-- The class is one and the id is a run of characters that may stand in it. -/
structure IsProper (r : Reference) : Prop where
  isClass : isClass r.className.toList = true
  isRun : isRun isPathChar r.id.toList = true

theorem ofParts?_eq_some {className id : List Char} {r : Reference}
    (h : ofParts? isPathChar className id = some r) :
    r.IsProper ∧ className = r.className.toList ∧ id = r.id.toList := by
  simp only [ofParts?, Option.ite_none_right_eq_some, Bool.and_eq_true, Option.some.injEq] at h
  obtain ⟨⟨hclass, hid⟩, rfl⟩ := h
  exact ⟨⟨by simpa using hclass, by simpa using hid⟩, by simp, by simp⟩

theorem ofParts?_toList {r : Reference} (h : r.IsProper) :
    ofParts? isPathChar r.className.toList r.id.toList = some r := by
  simp [ofParts?, h.isClass, h.isRun]

theorem isNameChar_of_mem_classTail {cs : List Char} (h : isClassTail cs = true) :
    ∀ c ∈ cs, isNameChar c = true ∨ c = ':' := by
  fun_induction isClassTail cs with
  | case1 => simp
  | case2 c rest ih =>
    simp only [Bool.and_eq_true] at h
    simp only [List.forall_mem_cons, or_true, true_and]
    refine ⟨?_, ih h.2⟩
    simp [isNameChar, h.1]
  | case3 c rest _ ih =>
    simp only [Bool.and_eq_true] at h
    exact List.forall_mem_cons.2 ⟨Or.inl h.1, ih h.2⟩

/-- A class begins with a capital and has no slash in it. -/
theorem eq_cons_of_isClass {cs : List Char} (h : isClass cs = true) :
    ∃ c rest, cs = c :: rest ∧ isCapital c = true ∧ '/' ∉ cs := by
  cases cs with
  | nil => cases h
  | cons c rest =>
    simp only [isClass, Bool.and_eq_true] at h
    refine ⟨c, rest, rfl, h.1, ?_⟩
    rw [List.mem_cons, not_or]
    constructor
    · rintro rfl
      exact absurd h.1 (by decide)
    · intro hmem
      rcases isNameChar_of_mem_classTail h.2 _ hmem with hname | hcolon
      · exact absurd hname (by decide)
      · cases hcolon

/-- An id ends with a character that is not blank. -/
theorem eq_append_of_isRun {p : Char → Bool} {cs : List Char} (h : isRun p cs = true) :
    ∃ front last, cs = front ++ [last] ∧ p last = true := by
  simp only [isRun, Bool.and_eq_true, Bool.not_eq_true', List.isEmpty_eq_false_iff,
    List.all_eq_true] at h
  refine ⟨cs.dropLast, cs.getLast h.1, (List.dropLast_concat_getLast h.1).symm, ?_⟩
  exact h.2 _ (List.getLast_mem h.1)

theorem isBlank_of_isPathChar {c : Char} (h : isPathChar c = true) : Text.isBlank c = false := by
  simp only [isPathChar, Bool.and_eq_true, Bool.not_eq_true'] at h
  exact h.2

theorem toNat_of_isCapital {c : Char} (h : isCapital c = true) : 65 ≤ c.toNat ∧ c.toNat ≤ 90 := by
  simp only [isCapital, Bool.and_eq_true, decide_eq_true_eq, Char.le_def,
    UInt32.le_iff_toNat_le] at h
  exact h

theorem isBlank_of_isCapital {c : Char} (h : isCapital c = true) : Text.isBlank c = false := by
  have := toNat_of_isCapital h
  exact Text.isBlank_of_visible (by omega) (by omega)

/-! ### Reading a fingerprint -/

theorem toList_fingerprint (r : Reference) :
    r.fingerprint.toList = r.className.toList ++ '/' :: r.id.toList := by
  simp [fingerprint]

/-- No blanks stand at the end of a text that ends in an id. -/
theorem trimEnd_append_id {r : Reference} (h : r.IsProper) (front : List Char) :
    Text.trimEnd (front ++ r.id.toList) = front ++ r.id.toList := by
  obtain ⟨init, last, hid, hlast⟩ := eq_append_of_isRun h.isRun
  rw [hid, ← List.append_assoc, Text.trimEnd_append_cons (isBlank_of_isPathChar hlast)]
  rfl

theorem ofFingerprint?_fingerprint {r : Reference} (h : r.IsProper) :
    ofFingerprint? r.fingerprint = some r := by
  obtain ⟨c, rest, hclass, hcapital, hslash⟩ := eq_cons_of_isClass h.isClass
  have htrim : Text.trim r.fingerprint.toList = r.fingerprint.toList := by
    have hstart : Text.trimStart r.fingerprint.toList = r.fingerprint.toList := by
      rw [toList_fingerprint, hclass]
      exact Text.trimStart_cons (isBlank_of_isCapital hcapital) _
    have hend := trimEnd_append_id h (r.className.toList ++ ['/'])
    rw [Text.trim, hstart, toList_fingerprint]
    simpa using hend
  rw [ofFingerprint?, htrim, toList_fingerprint, ofFingerprintChars?, cut_append hslash]
  exact ofParts?_toList h

/-- A fingerprint begins with a capital, which the scheme of global identifiers does not. -/
theorem ofJson?_fingerprint {r : Reference} (h : r.IsProper) :
    ofJson? (.string r.fingerprint) = some r := by
  obtain ⟨c, rest, hclass, hcapital, -⟩ := eq_cons_of_isClass h.isClass
  have hscheme : ¬ scheme.isPrefixOf r.fingerprint.toList := by
    rw [List.isPrefixOf_iff_prefix, toList_fingerprint, hclass]
    intro hprefix
    obtain rfl : 'g' = c := (List.cons_prefix_cons.1 hprefix).1
    exact absurd hcapital (by decide)
  rw [ofJson?, if_neg hscheme, ofFingerprint?_fingerprint h]

/-! ### Reading a global identifier -/

/-- A name that an application may have in a global identifier. -/
def IsAppName (app : String) : Prop :=
  app ≠ "" ∧ ∀ c ∈ app.toList, c ≠ '/' ∧ Text.isBlank c = false

/-- The global identifier of an object in an application. -/
def globalId (r : Reference) (app : String) : String :=
  "gid://" ++ app ++ "/" ++ r.fingerprint

theorem IsAppName.isRun {app : String} (h : IsAppName app) :
    Reference.isRun isPathChar app.toList = true := by
  have hall : app.toList.all isPathChar = true := by
    rw [List.all_eq_true]
    intro c hc
    simp [isPathChar, h.2 c hc]
  simp [Reference.isRun, hall, h.1]

theorem trimStart_scheme (cs : List Char) : Text.trimStart (scheme ++ cs) = scheme ++ cs := by
  have hscheme : scheme = 'g' :: "id://".toList := by decide
  rw [hscheme]
  exact Text.trimStart_cons (by decide) _

/-- A text that the scheme begins is read as a global identifier. -/
theorem ofJson?_of_scheme {s : String} {cs : List Char} (h : s.toList = scheme ++ cs) :
    ofJson? (.string s) = ofGlobalIdChars? (Text.trim s.toList) := by
  have hprefix : scheme.isPrefixOf s.toList = true := by
    rw [List.isPrefixOf_iff_prefix, h]
    exact List.prefix_append _ _
  simp [ofJson?, ofGlobalId?, hprefix]

theorem ofGlobalIdChars?_eq {app : String} (happ : IsAppName app) {r : Reference} (h : r.IsProper)
    {rest : List Char} (hid : idWithoutQuery? rest = some r.id.toList) :
    ofGlobalIdChars? (scheme ++ (app.toList ++ '/' :: (r.className.toList ++ '/' :: rest))) =
      some r := by
  have hslash : '/' ∉ app.toList := fun hmem => (happ.2 _ hmem).1 rfl
  obtain ⟨c, tail, hclass, hcapital, hclassSlash⟩ := eq_cons_of_isClass h.isClass
  rw [ofGlobalIdChars?, if_pos (List.isPrefixOf_iff_prefix.2 (List.prefix_append _ _)),
    List.drop_left, cut_append hslash]
  show (cut '/' (r.className.toList ++ '/' :: rest)).bind _ = some r
  rw [cut_append hclassSlash]
  show (idWithoutQuery? rest).bind _ = some r
  rw [hid]
  simp [happ.isRun, ofParts?_toList h]

theorem idWithoutQuery?_of_notMem {id : List Char} (h : '?' ∉ id) :
    idWithoutQuery? id = some id := by
  rw [idWithoutQuery?, cut_of_notMem h]

theorem idWithoutQuery?_append {id query : List Char} (h : '?' ∉ id) (hquery : '\n' ∉ query) :
    idWithoutQuery? (id ++ '?' :: query) = some id := by
  have hall : query.all (· != '\n') = true := List.all_eq_true.2 (bne_of_notMem hquery)
  simp [idWithoutQuery?, cut_append h, hall]

theorem toList_globalId (r : Reference) (app : String) :
    (r.globalId app).toList =
      scheme ++ (app.toList ++ '/' :: (r.className.toList ++ '/' :: r.id.toList)) := by
  simp [globalId, toList_fingerprint, scheme]

theorem ofJson?_globalId {app : String} (happ : IsAppName app) {r : Reference} (h : r.IsProper)
    (hid : '?' ∉ r.id.toList) : ofJson? (.string (r.globalId app)) = some r := by
  have htrim : Text.trim (r.globalId app).toList = (r.globalId app).toList := by
    have := trimEnd_append_id h (scheme ++ (app.toList ++ '/' :: (r.className.toList ++ ['/'])))
    rw [Text.trim, toList_globalId, trimStart_scheme]
    simpa using this
  rw [ofJson?_of_scheme (toList_globalId r app), htrim, toList_globalId]
  exact ofGlobalIdChars?_eq happ h (idWithoutQuery?_of_notMem hid)

/-- Blanks at the end of a query go, and the rest of it is not looked at. -/
theorem ofJson?_globalId_query {app query : String} (happ : IsAppName app) {r : Reference}
    (h : r.IsProper) (hid : '?' ∉ r.id.toList) (hquery : '\n' ∉ query.toList) :
    ofJson? (.string (r.globalId app ++ "?" ++ query)) = some r := by
  have hlist : (r.globalId app ++ "?" ++ query).toList = scheme ++ (app.toList ++ '/' ::
      (r.className.toList ++ '/' :: (r.id.toList ++ '?' :: query.toList))) := by
    simp [toList_globalId]
  have htrim : Text.trim (r.globalId app ++ "?" ++ query).toList = scheme ++ (app.toList ++ '/' ::
      (r.className.toList ++ '/' :: (r.id.toList ++ '?' :: Text.trimEnd query.toList))) := by
    have := Text.trimEnd_append_cons (c := '?') (by decide) (scheme ++ (app.toList ++ '/' ::
      (r.className.toList ++ '/' :: r.id.toList))) query.toList
    rw [Text.trim, hlist, trimStart_scheme]
    simpa using this
  have hend : '\n' ∉ Text.trimEnd query.toList := fun hmem => hquery (Text.mem_of_mem_trimEnd hmem)
  rw [ofJson?_of_scheme hlist, htrim]
  exact ofGlobalIdChars?_eq happ h (idWithoutQuery?_append hid hend)

/-! ### Handles -/

theorem ofHandle?_of_find? {r : Reference} (h : r.IsProper) {fields : List (String × Json)}
    {id : Json} (hclass : (Assoc.find? "class" fields <|> Assoc.find? "type" fields) =
      some (.string r.className))
    (hid : Assoc.find? "id" fields = some id) (hvalue : handleId? id = some r.id) :
    ofHandle? fields = some r := by
  unfold ofHandle?
  rw [hclass, hid]
  show (handleId? id).bind _ = some r
  rw [hvalue]
  exact ofParts?_toList h

/-! ### All spellings -/

/-- The spellings of a reference. The class of a handle is under `class`, or under `type` where there
is no `class`, and its id is a text or a number that prints as the id; a global identifier may have a
query behind it. -/
inductive Spelling (r : Reference) : Json → Prop
  | fingerprint : Spelling r (.string r.fingerprint)
  | classHandle {fields : List (String × Json)} {id : Json}
      (hclass : Assoc.find? "class" fields = some (.string r.className))
      (hid : Assoc.find? "id" fields = some id) (hvalue : handleId? id = some r.id) :
      Spelling r (.object fields)
  | typeHandle {fields : List (String × Json)} {id : Json}
      (hclass : Assoc.find? "class" fields = none)
      (htype : Assoc.find? "type" fields = some (.string r.className))
      (hid : Assoc.find? "id" fields = some id) (hvalue : handleId? id = some r.id) :
      Spelling r (.object fields)
  | globalId {app : String} (happ : IsAppName app) (hid : '?' ∉ r.id.toList) :
      Spelling r (.string (r.globalId app))
  | globalIdWithQuery {app query : String} (happ : IsAppName app) (hid : '?' ∉ r.id.toList)
      (hquery : '\n' ∉ query.toList) :
      Spelling r (.string (r.globalId app ++ "?" ++ query))

theorem isProper_of_ofFingerprintChars? {cs : List Char} {r : Reference}
    (h : ofFingerprintChars? cs = some r) : r.IsProper := by
  obtain ⟨⟨className, id⟩, -, hparts⟩ := Option.bind_eq_some_iff.1 h
  exact (ofParts?_eq_some hparts).1

theorem isProper_of_ofGlobalIdChars? {cs : List Char} {r : Reference}
    (h : ofGlobalIdChars? cs = some r) : r.IsProper := by
  simp only [ofGlobalIdChars?, Option.ite_none_right_eq_some] at h
  obtain ⟨-, h⟩ := h
  obtain ⟨⟨app, rest⟩, -, h⟩ := Option.bind_eq_some_iff.1 h
  obtain ⟨⟨className, rest⟩, -, h⟩ := Option.bind_eq_some_iff.1 h
  obtain ⟨id, -, h⟩ := Option.bind_eq_some_iff.1 h
  rw [Option.ite_none_right_eq_some] at h
  exact (ofParts?_eq_some h.2).1

theorem isProper_of_ofHandle? {fields : List (String × Json)} {r : Reference}
    (h : ofHandle? fields = some r) : r.IsProper := by
  obtain ⟨className, -, h⟩ := Option.bind_eq_some_iff.1 h
  obtain ⟨id, -, h⟩ := Option.bind_eq_some_iff.1 h
  exact (ofParts?_eq_some h).1

/-- Only proper references are read. -/
theorem isProper_of_ofJson? {v : Json} {r : Reference} (h : ofJson? v = some r) : r.IsProper := by
  cases v with
  | string s =>
    rw [ofJson?] at h
    split at h
    · exact isProper_of_ofGlobalIdChars? h
    · exact isProper_of_ofFingerprintChars? h
  | object fields => exact isProper_of_ofHandle? h
  | _ => cases h

/-- Every spelling of a proper reference is read as that. -/
theorem Spelling.ofJson? {r : Reference} (h : r.IsProper) {v : Json} (hv : r.Spelling v) :
    Reference.ofJson? v = some r := by
  cases hv with
  | fingerprint => exact ofJson?_fingerprint h
  | classHandle hclass hid hvalue => exact ofHandle?_of_find? h (by simp [hclass]) hid hvalue
  | typeHandle hclass htype hid hvalue =>
    exact ofHandle?_of_find? h (by simp [hclass, htype]) hid hvalue
  | globalId happ hid => exact ofJson?_globalId happ h hid
  | globalIdWithQuery happ hid hquery => exact ofJson?_globalId_query happ h hid hquery

/-! ### References are no bare ids -/

theorem wordOfChars?_cons_eq_none {c : Char} (hdigit : Decimal.isDigit c = false) (hminus : c ≠ '-')
    (hplus : c ≠ '+') (cs : List Char) : Decimal.wordOfChars? (c :: cs) = none := by
  have hnat : Decimal.natOfDigits? (c :: cs) = none := by
    simp [Decimal.natOfDigits?, hdigit]
  rw [Decimal.wordOfChars?_eq, Decimal.intOfChars?]
  · rw [hnat]
    rfl
  · intro cs' heq
    exact hminus (List.cons.inj heq).1
  · intro cs' heq
    exact hplus (List.cons.inj heq).1

theorem wordOfChars?_of_isCapital {c : Char} (h : isCapital c = true) (cs : List Char) :
    Decimal.wordOfChars? (c :: cs) = none := by
  have hdigit : Decimal.isDigit c = false := by
    have hlow := (toNat_of_isCapital h).1
    simp only [Decimal.isDigit, Bool.and_eq_false_iff, decide_eq_false_iff_not, Char.le_def,
      UInt32.le_iff_toNat_le, Nat.not_le]
    exact Or.inr (Nat.lt_of_lt_of_le (by decide) hlow)
  apply wordOfChars?_cons_eq_none hdigit
  · rintro rfl
    exact absurd h (by decide)
  · rintro rfl
    exact absurd h (by decide)

/-- What is read as a reference is not also the number of an id. -/
theorem bareId?_of_ofJson? {v : Json} {r : Reference} (h : ofJson? v = some r) :
    bareId? v = none := by
  cases v with
  | string s =>
    rw [ofJson?] at h
    rw [bareId?]
    split at h
    · simp only [ofGlobalId?, ofGlobalIdChars?, Option.ite_none_right_eq_some,
        List.isPrefixOf_iff_prefix] at h
      obtain ⟨rest, hrest⟩ := h.1
      rw [← hrest]
      exact wordOfChars?_cons_eq_none (c := 'g') (by decide) (by decide) (by decide) _
    · obtain ⟨⟨className, id⟩, hcut, hparts⟩ := Option.bind_eq_some_iff.1 h
      obtain ⟨hproper, rfl, -⟩ := ofParts?_eq_some hparts
      obtain ⟨c, rest, hclass, hcapital, -⟩ := eq_cons_of_isClass hproper.isClass
      rw [eq_append_of_cut hcut, hclass]
      exact wordOfChars?_of_isCapital hcapital _
  | number n => cases h
  | _ => rfl

/-! ### Lists in other spellings -/

/-- An element of a list, or another spelling of the reference that it is. -/
inductive Respelt : Json → Json → Prop
  | same (v : Json) : Respelt v v
  | spelling {v w : Json} {r : Reference} (h : ofJson? v = some r) (hw : r.Spelling w) : Respelt v w

theorem Respelt.ofJson?_eq {v w : Json} (h : Respelt v w) : ofJson? v = ofJson? w := by
  cases h with
  | same => rfl
  | spelling h hw => rw [h, hw.ofJson? (isProper_of_ofJson? h)]

theorem Respelt.resolveFingerprint_eq {v w : Json} (h : Respelt v w) :
    resolveFingerprint v = resolveFingerprint w := by
  rw [resolveFingerprint, resolveFingerprint, h.ofJson?_eq]

theorem Respelt.resolveId_eq (scope : Option String) {v w : Json} (h : Respelt v w) :
    resolveId scope v = resolveId scope w := by
  cases h with
  | same => rfl
  | spelling h hw =>
    have hw' := hw.ofJson? (isProper_of_ofJson? h)
    rw [resolveId, resolveId, bareId?_of_ofJson? h, bareId?_of_ofJson? hw', h, hw']

/-- A value that is read as a reference stands in a list by itself. -/
theorem isNull_of_ofJson? {v : Json} {r : Reference} (h : ofJson? v = some r) :
    v.isNull = false := by
  cases v with
  | null => cases h
  | _ => rfl

theorem list?_of_ofJson? {v : Json} {r : Reference} (h : ofJson? v = some r) : v.list? = none := by
  cases v with
  | array => cases h
  | _ => rfl

/-- Elements in other spellings resolve to the same. -/
theorem Respelt.readAlike : ReadAlike Respelt where
  id scope _ _ h := h.resolveId_eq scope
  fingerprint _ _ h := h.resolveFingerprint_eq
  isNull v w h := by
    cases h with
    | same => rfl
    | spelling h hw =>
      rw [isNull_of_ofJson? h, isNull_of_ofJson? (hw.ofJson? (isProper_of_ofJson? h))]
  list? v w h := by
    cases h with
    | same => exact rel_refl (fun xs => List.forall₂_same.2 fun x _ => .same x) v.list?
    | spelling h hw =>
      rw [list?_of_ofJson? h, list?_of_ofJson? (hw.ofJson? (isProper_of_ofJson? h))]
      exact .none

end Reference

/-- All spellings of a reference are read as that reference, its fingerprint among them; resolving an
element to its fingerprint twice is the same as doing it once; and bodies that differ only in how the
elements of lists of references are spelt compile to the same predicate and bind table, for every set
of filters. -/
theorem Reference.spellings_interchangeable :
    (∀ v r, ofJson? v = some r →
      ofFingerprint? r.fingerprint = some r ∧ ∀ w, r.Spelling w → ofJson? w = some r) ∧
    (∀ v s, resolveFingerprint v = some s → resolveFingerprint (.string s) = some s) ∧
    ∀ (compiler : Compiler) (default : Combinator) (b b' : Body)
      (fields fields' : List (String × Json)), b.fields? = some fields → b'.fields? = some fields' →
      Matched (LeafRel Respelt compiler.filters) fields fields' →
      (compiler.compile b default).result = (compiler.compile b' default).result := by
  refine ⟨?_, ?_, ?_⟩
  · intro v r h
    have hproper := isProper_of_ofJson? h
    exact ⟨ofFingerprint?_fingerprint hproper, fun w hw => hw.ofJson? hproper⟩
  · intro v s h
    obtain ⟨r, hr, rfl⟩ := Option.map_eq_some_iff.1 h
    rw [resolveFingerprint, ofJson?_fingerprint (isProper_of_ofJson? hr), Option.map_some]
  · intro compiler default b b' fields fields' hb hb' h
    exact Compiler.compile_related Respelt.readAlike hb hb' h default

/-- A handle and a global identifier with a query for the same user, among others in a body. -/
theorem Reference.spellings_interchangeable_user :
    let user : Reference := ⟨"User", "7"⟩
    let handle := Json.object [("class", .string "User"), ("id", .int 7)]
    let globalId := Json.string (user.globalId "blog" ++ "?" ++ "v=2")
    let fields := [("any", Json.object [
      ("author", .object [("only", .array [handle, .int 8])]), ("tag", .string "rust")])]
    let fields' := [("any", Json.object [
      ("author", .object [("only", .array [globalId, .int 8])]), ("tag", .string "rust")])]
    (ofJson? handle = some user ∧ user.Spelling globalId ∧ ofJson? globalId = some user) ∧
    (resolveFingerprint handle = some "User/7" ∧
      resolveFingerprint (.string "User/7") = some "User/7") ∧
    Matched (LeafRel Respelt .posts) fields fields' ∧
      ((Compiler.ofFilters .posts).compile (.object fields) .all).result =
        ((Compiler.ofFilters .posts).compile (.object fields') .all).result := by
  intro user handle globalId fields fields'
  have huser : ofJson? handle = some user := by decide +kernel
  have hspelling : user.Spelling globalId :=
    .globalIdWithQuery ⟨by simp, by simp [Text.isBlank]⟩ (by simp [user]) (by simp)
  have hresolved : resolveFingerprint handle = some "User/7" := by decide +kernel
  have hauthor : LeafRel Respelt .posts "author" (.object [("only", .array [handle, .int 8])])
      (.object [("only", .array [globalId, .int 8])]) := by
    refine .value (d := (Descriptor.ofKind .reference "posts.author_id").withClassName "User") rfl
      (Or.inl rfl) (.sides (.cons ⟨rfl, .list ?_⟩ .nil))
    exact .cons (.spelling huser hspelling) (.cons (.same _) .nil)
  have hmatched : Matched (LeafRel Respelt .posts) fields fields' :=
    .nested (Combinator.ofKey?_key .any) (.leaf rfl hauthor (.leaf rfl (.same _) .nil)) .nil
  exact ⟨⟨huser, hspelling, (spellings_interchangeable.1 handle user huser).2 globalId hspelling⟩,
    ⟨hresolved, spellings_interchangeable.2.1 handle _ hresolved⟩, hmatched,
    spellings_interchangeable.2.2 (.ofFilters .posts) .all _ _ _ _ rfl rfl hmatched⟩

end Criteria
