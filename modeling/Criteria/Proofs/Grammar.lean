import Criteria.Proofs.Spellings

/-!
# The grammar of references

What the three spellings look like, said without the readers: a class is a path of names, and a
fingerprint, a global identifier and a handle are made of a class and an id. Main statements:
`isClass_iff`, `ofFingerprintChars?_eq_some_iff` and `ofGlobalIdChars?_eq_some_iff`, and from them
`Reference.grammar_accepted`: exactly these texts and objects are read, each in one way.
-/

namespace Criteria

namespace Reference

/-! ### The forms -/

/-- An ASCII capital, and ASCII letters, digits and underscores behind it. -/
def IsName (name : String) : Prop :=
  ∃ c rest, name.toList = c :: rest ∧ c.isUpper = true ∧ ∀ d ∈ rest, d.isAlphanum = true ∨ d = '_'

/-- One or more names joined by `::`. -/
def IsClassPath (className : String) : Prop :=
  ∃ names, names ≠ [] ∧ (∀ name ∈ names, IsName name) ∧ className = "::".intercalate names

/-- Not empty, and free of slashes and white space. -/
structure IsSegment (text : String) : Prop where
  ne_empty : text ≠ ""
  slash_notMem : '/' ∉ text.toList
  not_blank : ∀ c ∈ text.toList, Text.isBlank c = false

/-- `Class/id`. -/
structure IsFingerprint (r : Reference) (text : String) : Prop where
  isClassPath : IsClassPath r.className
  isSegment : IsSegment r.id
  text_eq : text = r.className ++ "/" ++ r.id

/-- `gid://app/Class/id`, or that with a query behind it. The id holds no question mark, and the
query no line feed. -/
structure IsGlobalId (r : Reference) (text : String) : Prop where
  isClassPath : IsClassPath r.className
  isSegment : IsSegment r.id
  mark_notMem : '?' ∉ r.id.toList
  text_eq : ∃ app, IsSegment app ∧
    (text = "gid://" ++ app ++ "/" ++ r.className ++ "/" ++ r.id ∨
      ∃ query : String, '\n' ∉ query.toList ∧
        text = "gid://" ++ app ++ "/" ++ r.className ++ "/" ++ r.id ++ "?" ++ query)

/-- An object with a class under `class`, or under `type` where there is no `class`, and an id that
is a text or a number. -/
structure IsHandle (r : Reference) (fields : List (String × Json)) : Prop where
  isClassPath : IsClassPath r.className
  isSegment : IsSegment r.id
  class_found : Assoc.find? "class" fields = some (.string r.className) ∨
    Assoc.find? "class" fields = none ∧ Assoc.find? "type" fields = some (.string r.className)
  id_found : Assoc.find? "id" fields = some (.string r.id) ∨
    ∃ n : Number, Assoc.find? "id" fields = some (.number n) ∧ n.toText = r.id

/-! ### Classes -/

theorem isCapital_eq (c : Char) : isCapital c = c.isUpper :=
  (Bool.decide_and ('A' ≤ c) (c ≤ 'Z')).symm

theorem isNameChar_iff (c : Char) : isNameChar c = true ↔ c.isAlphanum = true ∨ c = '_' := by
  have hdigit : Decimal.isDigit c = c.isDigit := rfl
  have hlower : ('a' ≤ c && c ≤ 'z') = c.isLower := rfl
  have halphanum : c.isAlphanum = (c.isUpper || c.isLower || c.isDigit) := rfl
  rw [isNameChar, isCapital_eq, hlower, hdigit, halphanum, Bool.or_eq_true, beq_iff_eq]

theorem isName_iff (name : String) :
    IsName name ↔ ∃ c rest, name.toList = c :: rest ∧ isCapital c = true ∧
      ∀ d ∈ rest, isNameChar d = true := by
  simp only [IsName, isCapital_eq, isNameChar_iff]

theorem isName_ofList {c : Char} {rest : List Char} (hc : isCapital c = true)
    (hrest : ∀ d ∈ rest, isNameChar d = true) : IsName (String.ofList (c :: rest)) :=
  (isName_iff _).2 ⟨c, rest, String.toList_ofList, hc, hrest⟩

/-- What stands behind the first name of a class, each further name with its `::`. -/
def furtherNames (names : List String) : List Char :=
  names.flatMap fun name => ':' :: ':' :: name.toList

theorem toList_intercalate_names (name : String) (names : List String) :
    ("::".intercalate (name :: names)).toList = name.toList ++ furtherNames names := by
  induction names generalizing name with
  | nil => simp [furtherNames]
  | cons next names ih =>
    rw [String.intercalate_cons_cons, String.toList_append, String.toList_append, ih]
    simp [furtherNames]

theorem isClassTail_cons {c : Char} (h : isNameChar c = true) (cs : List Char) :
    isClassTail (c :: cs) = isClassTail cs := by
  rw [isClassTail]
  · rw [h, Bool.true_and]
  · rintro d rest rfl
    exact absurd h (by decide)

theorem isClassTail_append {front : List Char} (h : ∀ c ∈ front, isNameChar c = true)
    (cs : List Char) : isClassTail (front ++ cs) = isClassTail cs := by
  induction front with
  | nil => rfl
  | cons c front ih =>
    rw [List.forall_mem_cons] at h
    rw [List.cons_append, isClassTail_cons h.1, ih h.2]

theorem isClassTail_furtherNames {names : List String} (h : ∀ name ∈ names, IsName name) :
    isClassTail (furtherNames names) = true := by
  induction names with
  | nil => rfl
  | cons name names ih =>
    rw [List.forall_mem_cons, isName_iff] at h
    obtain ⟨⟨c, rest, hname, hc, hrest⟩, hnames⟩ := h
    have hlist : furtherNames (name :: names) =
        ':' :: ':' :: c :: (rest ++ furtherNames names) := by simp [furtherNames, hname]
    rw [hlist, isClassTail, hc, Bool.true_and, isClassTail_append hrest, ih hnames]

/-- A text that may follow the capital of a class is the rest of a name with names behind it. -/
theorem eq_of_isClassTail {cs : List Char} (h : isClassTail cs = true) :
    ∃ front names, (∀ c ∈ front, isNameChar c = true) ∧ (∀ name ∈ names, IsName name) ∧
      cs = front ++ furtherNames names := by
  fun_induction isClassTail cs with
  | case1 => exact ⟨[], [], List.forall_mem_nil _, List.forall_mem_nil _, rfl⟩
  | case2 c rest ih =>
    rw [Bool.and_eq_true] at h
    obtain ⟨front, names, hfront, hnames, rfl⟩ := ih h.2
    refine ⟨[], String.ofList (c :: front) :: names, List.forall_mem_nil _, ?_, ?_⟩
    · exact List.forall_mem_cons.2 ⟨isName_ofList h.1 hfront, hnames⟩
    · simp [furtherNames]
  | case3 c rest _ ih =>
    rw [Bool.and_eq_true] at h
    obtain ⟨front, names, hfront, hnames, rfl⟩ := ih h.2
    exact ⟨c :: front, names, List.forall_mem_cons.2 ⟨h.1, hfront⟩, hnames, rfl⟩

/-- A text is taken for a class where it is a path of names. -/
theorem isClass_iff (s : String) : isClass s.toList = true ↔ IsClassPath s := by
  constructor
  · intro h
    cases hs : s.toList with
    | nil => rw [hs] at h; cases h
    | cons c rest =>
      rw [hs, isClass, Bool.and_eq_true] at h
      -- the first name goes up to the first pair of colons
      obtain ⟨front, names, hfront, hnames, hrest⟩ := eq_of_isClassTail h.2
      refine ⟨String.ofList (c :: front) :: names, List.cons_ne_nil _ _, ?_, ?_⟩
      · exact List.forall_mem_cons.2 ⟨isName_ofList h.1 hfront, hnames⟩
      · rw [← String.toList_inj, hs, hrest, toList_intercalate_names, String.toList_ofList]
        rfl
  · rintro ⟨names, hne, hnames, rfl⟩
    obtain ⟨name, names, rfl⟩ := List.exists_cons_of_ne_nil hne
    rw [List.forall_mem_cons, isName_iff] at hnames
    obtain ⟨⟨c, rest, hname, hc, hrest⟩, hnames⟩ := hnames
    rw [toList_intercalate_names, hname, List.cons_append, isClass, hc, Bool.true_and,
      isClassTail_append hrest, isClassTail_furtherNames hnames]

/-! ### Parts -/

theorem isSegment_iff (s : String) : isRun isPathChar s.toList = true ↔ IsSegment s := by
  simp only [isRun, isPathChar, Bool.and_eq_true, Bool.not_eq_true', List.isEmpty_eq_false_iff,
    List.all_eq_true, bne_iff_ne]
  constructor
  · rintro ⟨hne, hall⟩
    refine ⟨fun h => hne (String.toList_eq_nil_iff.2 h), fun hmem => (hall _ hmem).1 rfl, ?_⟩
    exact fun c hc => (hall c hc).2
  · rintro ⟨hne, hslash, hblank⟩
    refine ⟨fun h => hne (String.toList_eq_nil_iff.1 h), fun c hc => ⟨?_, hblank c hc⟩⟩
    rintro rfl
    exact hslash hc

theorem isProper_iff (r : Reference) : r.IsProper ↔ IsClassPath r.className ∧ IsSegment r.id := by
  rw [← isClass_iff, ← isSegment_iff]
  exact ⟨fun h => ⟨h.isClass, h.isRun⟩, fun h => ⟨h.1, h.2⟩⟩

theorem IsSegment.isAppName {app : String} (h : IsSegment app) : IsAppName app :=
  ⟨h.ne_empty, fun c hc => ⟨fun e => h.slash_notMem (e ▸ hc), h.not_blank c hc⟩⟩

theorem slash_notMem_of_isClass {cs : List Char} (h : isClass cs = true) : '/' ∉ cs := by
  obtain ⟨-, -, -, -, hslash⟩ := eq_cons_of_isClass h
  exact hslash

/-! ### Fingerprints -/

theorem ofFingerprintChars?_fingerprint {r : Reference} (h : r.IsProper) :
    ofFingerprintChars? r.fingerprint.toList = some r := by
  rw [toList_fingerprint, ofFingerprintChars?, cut_append (slash_notMem_of_isClass h.isClass)]
  exact ofParts?_toList h

theorem ofFingerprintChars?_eq_some_iff (s : String) (r : Reference) :
    ofFingerprintChars? s.toList = some r ↔ r.IsFingerprint s := by
  constructor
  · intro h
    obtain ⟨⟨className, id⟩, hcut, hparts⟩ := Option.bind_eq_some_iff.1 h
    obtain ⟨hproper, rfl, rfl⟩ := ofParts?_eq_some hparts
    rw [isProper_iff] at hproper
    refine ⟨hproper.1, hproper.2, String.toList_inj.1 ?_⟩
    rw [eq_append_of_cut hcut, ← toList_fingerprint]
    rfl
  · rintro ⟨hclass, hid, rfl⟩
    exact ofFingerprintChars?_fingerprint ((isProper_iff r).2 ⟨hclass, hid⟩)

/-- A text that is joined from two parts is read as these or not at all, whatever slashes there are
in the parts. -/
theorem ofFingerprintChars?_append (className id : List Char) :
    ofFingerprintChars? (className ++ '/' :: id) = ofParts? isPathChar className id := by
  by_cases hslash : '/' ∈ className
  · have hclass : isClass className = false := by
      rw [Bool.eq_false_iff]
      exact fun h => slash_notMem_of_isClass h hslash
    -- the text is cut inside the first part, so a slash is left for the id
    obtain ⟨front, rest, rfl, hfront⟩ := List.eq_append_cons_of_mem hslash
    have hid : isRun isPathChar (rest ++ '/' :: id) = false := by
      rw [isRun, List.all_append, List.all_cons]
      simp [isPathChar]
    rw [List.append_assoc, List.cons_append, ofFingerprintChars?, cut_append hfront]
    simp [ofParts?, hclass, hid]
  · rw [ofFingerprintChars?, cut_append hslash]
    rfl

/-! ### Global identifiers -/

theorem notMem_of_cut {c : Char} {cs front rest : List Char} (h : cut c cs = some (front, rest)) :
    c ∉ front := by
  intro hmem
  rw [cut] at h
  split at h
  · cases h
    simpa using List.all_eq_true.1 List.all_takeWhile _ hmem
  · cases h

theorem notMem_of_cut_eq_none {c : Char} {cs : List Char} (h : cut c cs = none) : c ∉ cs := by
  intro hmem
  obtain ⟨front, rest, rfl, hfront⟩ := List.eq_append_cons_of_mem hmem
  rw [cut_append hfront] at h
  cases h

/-- An id goes up to the query, if there is one. -/
theorem idWithoutQuery?_eq_some_iff {cs id : List Char} :
    idWithoutQuery? cs = some id ↔
      '?' ∉ id ∧ (cs = id ∨ ∃ query, '\n' ∉ query ∧ cs = id ++ '?' :: query) := by
  constructor
  · intro h
    unfold idWithoutQuery? at h
    split at h
    · next hcut =>
      cases h
      exact ⟨notMem_of_cut_eq_none hcut, Or.inl rfl⟩
    · next front query hcut =>
      rw [Option.ite_none_right_eq_some] at h
      obtain ⟨hquery, heq⟩ := h
      cases heq
      refine ⟨notMem_of_cut hcut, Or.inr ⟨query, fun hmem => ?_, eq_append_of_cut hcut⟩⟩
      exact absurd (List.all_eq_true.1 hquery _ hmem) (by decide)
  · rintro ⟨hid, rfl | ⟨query, hquery, rfl⟩⟩
    · exact idWithoutQuery?_of_notMem hid
    · exact idWithoutQuery?_append hid hquery

theorem ofGlobalIdChars?_eq_some_iff (s : String) (r : Reference) :
    ofGlobalIdChars? s.toList = some r ↔ r.IsGlobalId s := by
  have hscheme : scheme = "gid://".toList := rfl
  constructor
  · intro h
    rw [ofGlobalIdChars?, Option.ite_none_right_eq_some, List.isPrefixOf_iff_prefix] at h
    obtain ⟨⟨cs, hcs⟩, h⟩ := h
    rw [← hcs, List.drop_left] at h
    obtain ⟨⟨app, rest⟩, happ, h⟩ := Option.bind_eq_some_iff.1 h
    obtain ⟨⟨className, rest⟩, hclass, h⟩ := Option.bind_eq_some_iff.1 h
    obtain ⟨id, hid, h⟩ := Option.bind_eq_some_iff.1 h
    rw [Option.ite_none_right_eq_some] at h
    obtain ⟨happRun, hparts⟩ := h
    obtain ⟨hproper, rfl, rfl⟩ := ofParts?_eq_some hparts
    obtain ⟨hmark, hrest⟩ := idWithoutQuery?_eq_some_iff.1 hid
    obtain ⟨hpath, hsegment⟩ := (isProper_iff r).1 hproper
    rw [← String.toList_ofList (l := app), isSegment_iff] at happRun
    -- put together again, the pieces are the text
    have hs : s.toList = scheme ++ (app ++ '/' :: (r.className.toList ++ '/' :: rest)) := by
      rw [← hcs, eq_append_of_cut happ, eq_append_of_cut hclass]
    refine ⟨hpath, hsegment, hmark, String.ofList app, happRun, ?_⟩
    rcases hrest with rfl | ⟨query, hquery, rfl⟩
    · left
      rw [← String.toList_inj, hs, hscheme]
      simp
    · refine Or.inr ⟨String.ofList query, by rwa [String.toList_ofList], ?_⟩
      rw [← String.toList_inj, hs, hscheme]
      simp
  · -- a text of the form is taken apart at its own marks
    rintro ⟨hpath, hsegment, hmark, app, happ, htext⟩
    have hproper : r.IsProper := (isProper_iff r).2 ⟨hpath, hsegment⟩
    rcases htext with rfl | ⟨query, hquery, rfl⟩
    · have hlist := ofGlobalIdChars?_eq happ.isAppName hproper (idWithoutQuery?_of_notMem hmark)
      rw [hscheme] at hlist
      simpa using hlist
    · have hlist := ofGlobalIdChars?_eq happ.isAppName hproper
        (idWithoutQuery?_append hmark hquery)
      rw [hscheme] at hlist
      simpa using hlist

/-! ### Handles -/

theorem text?_eq_some_iff {v : Json} {s : String} : v.text? = some s ↔ v = .string s := by
  cases v <;> simp [Json.text?]

/-- The id of a handle is a text, or a number by its text. -/
theorem idOf_eq_some_iff {a : Option Json} {id : String} :
    a >>= handleId? = some id ↔
      a = some (.string id) ∨ ∃ n : Number, a = some (.number n) ∧ n.toText = id := by
  cases a with
  | none => simp
  | some v => cases v <;> simp [handleId?]

/-- The class of a handle is looked for under `type` only where there is no `class`. -/
theorem classOf_eq_some_iff {a b : Option Json} {s : String} :
    (a <|> b) >>= Json.text? = some s ↔ a = some (.string s) ∨ a = none ∧ b = some (.string s) := by
  cases a with
  | none => simp [Option.bind_eq_some_iff, text?_eq_some_iff]
  | some v => simp [text?_eq_some_iff]

theorem ofHandle?_eq_some_iff (fields : List (String × Json)) (r : Reference) :
    ofHandle? fields = some r ↔ r.IsHandle fields := by
  constructor
  · intro h
    obtain ⟨className, hclass, h⟩ := Option.bind_eq_some_iff.1 h
    obtain ⟨id, hid, hparts⟩ := Option.bind_eq_some_iff.1 h
    obtain ⟨hproper, hclassName, hidText⟩ := ofParts?_eq_some hparts
    obtain rfl := String.toList_inj.1 hclassName
    obtain rfl := String.toList_inj.1 hidText
    obtain ⟨hpath, hsegment⟩ := (isProper_iff r).1 hproper
    exact ⟨hpath, hsegment, classOf_eq_some_iff.1 hclass, idOf_eq_some_iff.1 hid⟩
  · rintro ⟨hpath, hsegment, hclass, hid⟩
    refine Option.bind_eq_some_iff.2 ⟨r.className, classOf_eq_some_iff.2 hclass, ?_⟩
    refine Option.bind_eq_some_iff.2 ⟨r.id, idOf_eq_some_iff.2 hid, ?_⟩
    exact ofParts?_toList ((isProper_iff r).2 ⟨hpath, hsegment⟩)

/-! ### What is accepted -/

/-- A text without the white space around it. -/
def trimmed (s : String) : String :=
  String.ofList (Text.trim s.toList)

theorem IsFingerprint.unique {r r' : Reference} {text : String} (h : r.IsFingerprint text)
    (h' : r'.IsFingerprint text) : r = r' := by
  rw [← ofFingerprintChars?_eq_some_iff] at h h'
  exact Option.some.inj (h.symm.trans h')

theorem IsGlobalId.unique {r r' : Reference} {text : String} (h : r.IsGlobalId text)
    (h' : r'.IsGlobalId text) : r = r' := by
  rw [← ofGlobalIdChars?_eq_some_iff] at h h'
  exact Option.some.inj (h.symm.trans h')

/-- References are read by their grammar. A text is read as a fingerprint or as a global identifier
of a reference where, white space around it aside, it is one, and no text is one of two references;
an object is read as a reference where it is a handle of it. A class and an id that are joined by
a slash are a fingerprint of these two or of nothing, so a handle may be checked by its
fingerprint. -/
theorem grammar_accepted :
    (∀ s r, ofFingerprint? s = some r ↔ r.IsFingerprint (trimmed s)) ∧
    (∀ s r, ofGlobalId? s = some r ↔ r.IsGlobalId (trimmed s)) ∧
    (∀ text r r', (IsFingerprint r text → IsFingerprint r' text → r = r') ∧
      (IsGlobalId r text → IsGlobalId r' text → r = r')) ∧
    (∀ fields r, ofJson? (.object fields) = some r ↔ r.IsHandle fields) ∧
    ∀ className id : String, ofFingerprintChars? (className ++ "/" ++ id).toList =
      ofParts? isPathChar className.toList id.toList := by
  refine ⟨?_, ?_, fun text r r' => ⟨IsFingerprint.unique, IsGlobalId.unique⟩,
    ofHandle?_eq_some_iff, ?_⟩
  · intro s r
    rw [← ofFingerprintChars?_eq_some_iff, trimmed, String.toList_ofList]
    rfl
  · intro s r
    rw [← ofGlobalIdChars?_eq_some_iff, trimmed, String.toList_ofList]
    rfl
  · intro className id
    rw [← ofFingerprintChars?_append]
    simp

/-- An administrator, spelt in each way. -/
theorem grammar_accepted_admin :
    let admin : Reference := ⟨"Admin::User", "7"⟩
    let handle := [("type", Json.string "Admin::User"), ("id", Json.int 7)]
    (admin.IsFingerprint (trimmed "\tAdmin::User/7 ") ∧
      ofFingerprint? "\tAdmin::User/7 " = some admin) ∧
    (admin.IsGlobalId (trimmed " gid://blog/Admin::User/7?v=/2\n") ∧
      ofGlobalId? " gid://blog/Admin::User/7?v=/2\n" = some admin) ∧
    (admin.IsHandle handle ∧ ofJson? (.object handle) = some admin) ∧
    ¬ (⟨"Admin", ":User/7"⟩ : Reference).IsFingerprint "Admin::User/7" ∧
    ofFingerprintChars? ("User/7" ++ "/" ++ "8").toList = none := by
  intro admin handle
  obtain ⟨hfingerprint, hglobalId, hunique, hhandle, hjoined⟩ := grammar_accepted
  have hclass : IsClassPath admin.className := by
    refine ⟨["Admin", "User"], by decide, ?_, by decide⟩
    simp only [List.forall_mem_cons, List.not_mem_nil, false_implies, implies_true, and_true]
    have hnames : ("dmin".toList ++ "ser".toList).all isNameChar = true := by decide
    have hrest (d : Char) (hd : d ∈ "dmin".toList ++ "ser".toList) :
        d.isAlphanum = true ∨ d = '_' := (isNameChar_iff d).mp (List.all_eq_true.mp hnames d hd)
    exact ⟨⟨'A', "dmin".toList, by decide, rfl, fun d hd => hrest d (List.mem_append_left _ hd)⟩,
      ⟨'U', "ser".toList, by decide, rfl, fun d hd => hrest d (List.mem_append_right _ hd)⟩⟩
  have hid : IsSegment admin.id := ⟨by decide, by decide, by simp [admin, Text.isBlank]⟩
  have htext : admin.IsFingerprint "Admin::User/7" := ⟨hclass, hid, by decide⟩
  have htrimmed : trimmed "\tAdmin::User/7 " = "Admin::User/7" := by decide +kernel
  have hquery : trimmed " gid://blog/Admin::User/7?v=/2\n" =
      "gid://" ++ "blog" ++ "/" ++ "Admin::User" ++ "/" ++ "7" ++ "?" ++ "v=/2" := by decide +kernel
  have hglobal : admin.IsGlobalId (trimmed " gid://blog/Admin::User/7?v=/2\n") :=
    ⟨hclass, hid, by decide, "blog", ⟨by decide, by decide, by simp [Text.isBlank]⟩,
      Or.inr ⟨"v=/2", by decide, hquery⟩⟩
  have hobject : admin.IsHandle handle :=
    ⟨hclass, hid, Or.inr ⟨rfl, rfl⟩, Or.inr ⟨.integer 7, rfl, by decide +kernel⟩⟩
  rw [htrimmed]
  refine ⟨⟨htext, (hfingerprint _ _).2 (htrimmed ▸ htext)⟩, ⟨hglobal, (hglobalId _ _).2 hglobal⟩,
    ⟨hobject, (hhandle _ _).2 hobject⟩, ?_, ?_⟩
  · intro hother
    have := (hunique _ _ _).1 htext hother
    exact absurd this (by decide)
  · rw [hjoined]
    decide

end Reference

end Criteria
