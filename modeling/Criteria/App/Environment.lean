/-!
# The environment

Variables as the environment keeps them: each stands there as one text, its name, an equals sign and
its value, and a name is looked for as the beginning of such a text, up to an equals sign. So a name
may reach into a value: where `A` is `B=c`, `A=B` is `c`.

`Variable.read?_eq` says so of the look-up, which goes by the names of the variables and looks
into no other value; `Environment.value?_add?` says that a variable that has been added is found
again.
-/

namespace Criteria

/-- The rest of a list behind a beginning. -/
def behind? : List Char → List Char → Option (List Char)
  | [], text => some text
  | _ :: _, [] => none
  | c :: cs, d :: ds => if c = d then behind? cs ds else none

@[simp] theorem behind?_append (start rest : List Char) :
    behind? start (start ++ rest) = some rest := by
  induction start with
  | nil => rfl
  | cons c cs ih => simp [behind?, ih]

/-- Two texts that go on with an equals sign behind a part without any agree as far as these parts
do. -/
theorem behind?_append_equals {base known : List Char} (hb : '=' ∉ base) (hk : '=' ∉ known)
    (start value : List Char) :
    behind? (base ++ '=' :: start) (known ++ '=' :: value) =
      if base = known then behind? start value else none := by
  induction base generalizing known with
  | nil =>
    cases known with
    | nil => simp [behind?]
    | cons d ds =>
      have hd : '=' ≠ d := fun h => hk (h ▸ List.mem_cons_self)
      simp [behind?, hd]
  | cons c cs ih =>
    have hc : c ≠ '=' := fun h => hb (h ▸ List.mem_cons_self)
    cases known with
    | nil => simp [behind?, hc]
    | cons d ds =>
      by_cases h : c = d
      · subst h
        simpa [behind?] using
          ih (fun h => hb (List.mem_cons_of_mem _ h)) fun h => hk (List.mem_cons_of_mem _ h)
      · simp [behind?, h]

/-! ### Variables -/

/-- Cut a text at its first equals sign, if it has one. -/
def cutAtEquals (text : List Char) : List Char × Option (List Char) :=
  (text.takeWhile (· != '='),
    match text.dropWhile (· != '=') with
    | [] => none
    | _ :: rest => some rest)

theorem not_mem_cutAtEquals (text : List Char) : '=' ∉ (cutAtEquals text).1 := by
  induction text with
  | nil => simp [cutAtEquals]
  | cons c cs ih =>
    by_cases h : c = '='
    · simp [cutAtEquals, h]
    · simpa [cutAtEquals, h, Ne.symm h] using ih

theorem append_cutAtEquals (text : List Char) :
    (cutAtEquals text).1 ++ ((cutAtEquals text).2.map ('=' :: ·)).getD [] = text := by
  induction text with
  | nil => rfl
  | cons c cs ih =>
    by_cases h : c = '='
    · simp [cutAtEquals, h]
    · simpa [cutAtEquals, h] using ih

/-- A variable with its value. No name holds an equals sign. -/
structure Variable where
  name : String
  value : String
  equals_not_mem_name : '=' ∉ name.toList

namespace Variable

/-- The text that stands in the environment. -/
def text (v : Variable) : List Char :=
  v.name.toList ++ '=' :: v.value.toList

/-- The variable that stands in the environment where a name is to have a value: the name ends at
the first equals sign. -/
def ofPair (name value : String) : Variable where
  name := String.ofList (cutAtEquals name.toList).1
  value := match (cutAtEquals name.toList).2 with
    | none => value
    | some rest => String.ofList (rest ++ '=' :: value.toList)
  equals_not_mem_name := by simpa using not_mem_cutAtEquals name.toList

theorem text_ofPair (name value : String) :
    (ofPair name value).text = name.toList ++ '=' :: value.toList := by
  have h := append_cutAtEquals name.toList
  cases hr : (cutAtEquals name.toList).2 <;> rw [hr] at h
  · have hn : (cutAtEquals name.toList).1 = name.toList := by simpa using h
    simp [text, ofPair, hr, hn]
  · rw [← h]
    simp [text, ofPair, hr]

/-- What a variable says about a name that has been cut at its first equals sign: its value, where the
names are the same, or what stands in the value behind the rest of the name. -/
def readCut? (v : Variable) (base : String) : Option (List Char) → Option String
  | none => if base = v.name then some v.value else none
  | some rest =>
    if base = v.name then (behind? (rest ++ ['=']) v.value.toList).map String.ofList else none

/-- What a variable says about a name. -/
def read? (v : Variable) (name : String) : Option String :=
  let cut := cutAtEquals name.toList
  v.readCut? (String.ofList cut.1) cut.2

theorem read?_eq (v : Variable) (name : String) :
    v.read? name = (behind? (name.toList ++ ['=']) v.text).map String.ofList := by
  have h := append_cutAtEquals name.toList
  have hb := not_mem_cutAtEquals name.toList
  rw [read?, text]
  generalize cutAtEquals name.toList = cut at h hb
  obtain ⟨base, rest⟩ := cut
  have same : String.ofList base = v.name ↔ base = v.name.toList :=
    ⟨fun h => by simp [← h], fun h => by simp [h]⟩
  cases rest with
  | none =>
    have hn : base = name.toList := by simpa using h
    rw [← hn, behind?_append_equals hb v.equals_not_mem_name]
    by_cases he : base = v.name.toList <;> simp [readCut?, same, he, behind?]
  | some rest =>
    have hn : name.toList ++ ['='] = base ++ '=' :: (rest ++ ['=']) := by
      rw [← h]
      simp
    rw [hn, behind?_append_equals hb v.equals_not_mem_name]
    by_cases he : base = v.name.toList <;> simp [readCut?, same, he]

theorem read?_ofPair (name value : String) : (ofPair name value).read? name = some value := by
  have h : name.toList ++ '=' :: value.toList = (name.toList ++ ['=']) ++ value.toList := by simp
  rw [read?_eq, text_ofPair, h, behind?_append]
  simp

end Variable

/-! ### All variables -/

/-- Variables in order. -/
structure Environment where
  entries : List Variable

namespace Environment

/-- The environment in which names have values. -/
def ofList (pairs : List (String × String)) : Environment :=
  ⟨pairs.map fun (name, value) => .ofPair name value⟩

/-- What a name stands for. -/
def value? (environment : Environment) (name : String) : Option String :=
  let cut := cutAtEquals name.toList
  let base := String.ofList cut.1
  environment.entries.findSome? (·.readCut? base cut.2)

/-- Set a variable that is not set yet. No variable can hold a NUL character. -/
def add? (environment : Environment) (name value : String) : Option Environment :=
  if value.toList.contains '\x00' then none
  else some ⟨environment.entries ++ [.ofPair name value]⟩

theorem value?_add? {environment grown : Environment} {name value : String}
    (unset : environment.value? name = none) (h : environment.add? name value = some grown) :
    grown.value? name = some value := by
  have found : (Variable.ofPair name value).readCut? (String.ofList (cutAtEquals name.toList).1)
      (cutAtEquals name.toList).2 = some value := Variable.read?_ofPair name value
  rw [add?] at h
  split at h
  · simp at h
  · cases h
    rw [value?] at unset ⊢
    simp only [List.findSome?_append, unset, Option.none_or]
    simp [found]

end Environment

end Criteria
