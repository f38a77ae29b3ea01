import Criteria.Proofs.Noninterference

/-!
# Comparisons with instants, from end to end

The value of a timestamp filter is one comparison for each of its keys. `Writes` says what a mapping
comes to whose comparisons all make sense: their texts in the order of the keys, with the next names
of the table, and the instants behind these names, those of a range in order of time. `Faulty` says
what is wrong with a comparison that does not make sense; the first of these decides. Main
statement: `Clause.timestamps_compared`.
-/

namespace Criteria

/-! ### Instants in order -/

namespace Timestamp

/-- Two instants in order are those that were given, and the first is not the later one. -/
theorem ascending_spec (a b : Timestamp) :
    [(ascending a b).1, (ascending a b).2].Perm [a, b] ∧
      (ascending a b).2.lt (ascending a b).1 = false := by
  rw [ascending]
  split
  · next h =>
    refine ⟨.swap a b [], ?_⟩
    rw [← Bool.not_eq_true, lt_iff]
    rw [lt_iff] at h
    dsimp only
    omega
  · next h => exact ⟨.refl _, by simpa using h⟩

/-- It does not matter in which order two instants are given. -/
theorem ascending_comm (a b : Timestamp) : ascending a b = ascending b a := by
  obtain ⟨s, n⟩ := a
  obtain ⟨s', n'⟩ := b
  unfold ascending
  split
  · next h =>
    rw [lt_iff] at h
    rw [if_neg]
    rw [lt_iff]
    dsimp only at h ⊢
    omega
  · next h =>
    split
    · rfl
    · next h' =>
      rw [lt_iff] at h h'
      dsimp only at h h'
      obtain rfl : s = s' := by omega
      obtain rfl : n = n' := by omega
      rfl

end Timestamp

namespace Clause

/-! ### Comparisons that make sense, and others -/

/-- One comparison of a field, written behind a table: its text and the values that it binds. -/
inductive WritesOne (field : String) (table : BindTable) :
    String → Json → String → List BindValue → Prop
  | single {op : Comparison} {operand : Json} {t : Timestamp} (hop : op.isRange = false)
      (ht : Timestamp.ofJson? operand = some t) :
      WritesOne field table op.key operand
        (field ++ " " ++ op.sql ++ " " ++ (":" ++ table.nextName)) [.timestamp t]
  | range {op : Comparison} {x y : Json} {a b low high : Timestamp} (hop : op.isRange = true)
      (hx : Timestamp.ofJson? x = some a) (hy : Timestamp.ofJson? y = some b)
      (hgiven : [low, high].Perm [a, b]) (horder : high.lt low = false) :
      WritesOne field table op.key (.array [x, y])
        (field ++ " " ++ op.sql ++ " " ++ (":" ++ table.nextName) ++ " AND " ++
          (":" ++ (table.push (.timestamp low)).nextName))
        [.timestamp low, .timestamp high]

/-- The comparisons of a field in order, each written behind what the ones before it bind. -/
inductive Writes (field : String) :
    BindTable → List (String × Json) → List String → List BindValue → Prop
  | nil (table : BindTable) : Writes field table [] [] []
  | cons {table : BindTable} {key : String} {operand : Json} {part : String}
      {own bound : List BindValue} {rest : List (String × Json)} {parts : List String}
      (hfirst : WritesOne field table key operand part own)
      (hrest : Writes field (table.pushAll own) rest parts bound) :
      Writes field table ((key, operand) :: rest) (part :: parts) (own ++ bound)

/-- What is wrong with a comparison: first its key, then the form of its operand, then the elements
of a range from left to right. -/
inductive Faulty (filter : String) : String → Json → FilterError → Prop
  | unknown {key : String} (h : Comparison.ofKey? key = none) (operand : Json) :
      Faulty filter key operand (.unknownComparison filter key)
  | notTimestamp {op : Comparison} {operand : Json} (hop : op.isRange = false)
      (h : Timestamp.ofJson? operand = none) :
      Faulty filter op.key operand (.invalidValue filter (.notTimestamp operand))
  | notPair {op : Comparison} {operand : Json} (hop : op.isRange = true)
      (h : ∀ x y, operand ≠ .array [x, y]) :
      Faulty filter op.key operand (.invalidValue filter .notPair)
  | first {op : Comparison} {x : Json} (hop : op.isRange = true)
      (hx : Timestamp.ofJson? x = none) (y : Json) :
      Faulty filter op.key (.array [x, y]) (.invalidValue filter (.notTimestamp x))
  | second {op : Comparison} {x y : Json} (hop : op.isRange = true)
      (hx : (Timestamp.ofJson? x).isSome) (hy : Timestamp.ofJson? y = none) :
      Faulty filter op.key (.array [x, y]) (.invalidValue filter (.notTimestamp y))

theorem accepts_key {op : Comparison} {operand : Json} :
    Comparison.Accepts op.key operand ↔ if op.isRange then (Meaning.pair? operand).isSome
      else (Timestamp.ofJson? operand).isSome := by
  simp [Comparison.Accepts]

theorem Faulty.not_accepts {filter key : String} {operand : Json} {e : FilterError}
    (h : Faulty filter key operand e) : ¬ Comparison.Accepts key operand := by
  cases h with
  | unknown h =>
    rintro ⟨op, hkey, -⟩
    rw [h] at hkey
    cases hkey
  | notTimestamp hop h =>
    rw [accepts_key, hop, if_neg Bool.false_ne_true, h]
    exact Bool.false_ne_true
  | notPair hop h =>
    rw [accepts_key, if_pos hop]
    unfold Meaning.pair?
    split
    · next x y => exact absurd rfl (h x y)
    · exact Bool.false_ne_true
  | first hop hx y =>
    rw [accepts_key, if_pos hop, Meaning.pair?, hx]
    exact Bool.false_ne_true
  | second hop hx hy =>
    obtain ⟨a, ha⟩ := Option.isSome_iff_exists.1 hx
    rw [accepts_key, if_pos hop, Meaning.pair?, ha, hy]
    exact Bool.false_ne_true

theorem WritesOne.accepts {field key part : String} {table : BindTable} {operand : Json}
    {own : List BindValue} (h : WritesOne field table key operand part own) :
    Comparison.Accepts key operand := by
  cases h with
  | single hop ht =>
    rw [accepts_key, hop, if_neg Bool.false_ne_true, ht]
    rfl
  | range hop hx hy _ _ =>
    rw [accepts_key, if_pos hop, Meaning.pair?, hx, hy]
    rfl

theorem Writes.accepts {field : String} {table : BindTable} {fields : List (String × Json)}
    {parts : List String} {bound : List BindValue} (h : Writes field table fields parts bound) :
    ∀ entry ∈ fields, Comparison.Accepts entry.1 entry.2 := by
  induction h with
  | nil => exact nofun
  | cons hfirst _ ih => exact List.forall_mem_cons.2 ⟨hfirst.accepts, ih⟩

/-! ### One comparison after another -/

/-- A comparison of a known kind is written, or fails and binds nothing. -/
theorem comparison_cases (filter field : String) (op : Comparison) (operand : Json)
    (table : BindTable) :
    (∃ part own, WritesOne field table op.key operand part own ∧
      (comparison filter field op operand).outcome table = (.ok part, table.pushAll own)) ∨
    ∃ e, Faulty filter op.key operand e ∧
      (comparison filter field op operand).outcome table = (.error e, table) := by
  rw [comparison]
  -- one bound for a comparison with an instant, two for a range
  cases hop : op.isRange with
  | false =>
    rw [if_neg Bool.false_ne_true]
    cases ht : Timestamp.ofJson? operand with
    | none =>
      refine Or.inr ⟨_, .notTimestamp hop ht, ?_⟩
      rw [instant, ht]
      rfl
    | some t =>
      refine Or.inl ⟨_, _, .single hop ht, ?_⟩
      rw [instant, ht, ← BindTable.push_eq_pushAll]
      rfl
  | true =>
    rw [if_pos rfl]
    unfold bounds
    split
    · next x y =>
      cases hx : Timestamp.ofJson? x with
      | none =>
        refine Or.inr ⟨_, .first hop hx y, ?_⟩
        rw [instant, hx]
        rfl
      | some a =>
        cases hy : Timestamp.ofJson? y with
        | none =>
          refine Or.inr ⟨_, .second hop (by rw [hx]; rfl) hy, ?_⟩
          rw [instant, instant, hx, hy]
          rfl
        | some b =>
          obtain ⟨hgiven, horder⟩ := Timestamp.ascending_spec a b
          refine Or.inl ⟨_, _, .range hop hx hy hgiven horder, ?_⟩
          rw [instant, instant, hx, hy, ← List.singleton_append, ← BindTable.pushAll_pushAll,
            ← BindTable.push_eq_pushAll, ← BindTable.push_eq_pushAll]
          rfl
    · next hpair =>
      refine Or.inr ⟨_, .notPair hop hpair, ?_⟩
      rfl

/-- Some comparisons are written, or the first of them that does not make sense is the end. -/
theorem comparisons_cases (filter field : String) (fields : List (String × Json))
    (table : BindTable) :
    (∃ parts bound, Writes field table fields parts bound ∧
      (comparisons filter field fields).outcome table = (.ok parts, table.pushAll bound)) ∨
    ∃ front key operand rest e parts bound, fields = front ++ (key, operand) :: rest ∧
      Writes field table front parts bound ∧ Faulty filter key operand e ∧
      (comparisons filter field fields).outcome table = (.error e, table.pushAll bound) := by
  -- what the first comparison binds stands in the table of the others
  induction fields generalizing table with
  | nil => exact Or.inl ⟨[], [], .nil table, by simp [comparisons]⟩
  | cons entry rest ih =>
    obtain ⟨key, operand⟩ := entry
    rw [comparisons]
    cases hkey : Comparison.ofKey? key with
    | none =>
      refine Or.inr ⟨[], key, operand, rest, _, [], [], rfl, .nil table, .unknown hkey operand, ?_⟩
      rw [Pass.outcome_fail, BindTable.pushAll_nil]
    | some op =>
      obtain rfl : op.key = key := Comparison.key_eq_of_ofKey? hkey
      rcases comparison_cases filter field op operand table with
        ⟨part, own, hone, hfirst⟩ | ⟨e, hfaulty, hfirst⟩
      · rcases ih (table.pushAll own) with
          ⟨parts, bound, hwrites, hrest⟩ |
          ⟨front, key, x, more, e, parts, bound, rfl, hwrites, hfaulty, hrest⟩
        · refine Or.inl ⟨part :: parts, own ++ bound, .cons hone hwrites, ?_⟩
          simp only [Pass.outcome_bind_ok hfirst, Pass.outcome_bind_ok hrest, Pass.outcome_pure,
            BindTable.pushAll_pushAll]
        · refine Or.inr ⟨(op.key, operand) :: front, key, x, more, e, part :: parts, own ++ bound,
            rfl, .cons hone hwrites, hfaulty, ?_⟩
          simp only [Pass.outcome_bind_ok hfirst, Pass.outcome_bind_error hrest,
            BindTable.pushAll_pushAll]
      · refine Or.inr ⟨[], op.key, operand, rest, e, [], [], rfl, .nil table, hfaulty, ?_⟩
        rw [BindTable.pushAll_nil]
        exact Pass.outcome_bind_error hfirst

theorem Writes.eq_nil_iff {field : String} {table : BindTable} {fields : List (String × Json)}
    {parts : List String} {bound : List BindValue} (h : Writes field table fields parts bound) :
    parts = [] ↔ fields = [] := by
  cases h <;> simp

/-! ### Bounds of a range -/

/-- The bounds of a range mean the same in either order. -/
theorem bounds_swap (filter : String) {x y : Json} (hx : (Timestamp.ofJson? x).isSome)
    (hy : (Timestamp.ofJson? y).isSome) :
    bounds filter (.array [x, y]) = bounds filter (.array [y, x]) := by
  obtain ⟨a, ha⟩ := Option.isSome_iff_exists.1 hx
  obtain ⟨b, hb⟩ := Option.isSome_iff_exists.1 hy
  rw [bounds, bounds, instant, instant, ha, hb]
  exact congrArg Except.ok (Timestamp.ascending_comm a b)

theorem comparisons_congr {filter field key : String} {x y : Json}
    (front rest : List (String × Json)) (h : ∀ op, Comparison.ofKey? key = some op →
      comparison filter field op x = comparison filter field op y) :
    comparisons filter field (front ++ (key, x) :: rest) =
      comparisons filter field (front ++ (key, y) :: rest) := by
  induction front with
  | nil =>
    rw [List.nil_append, List.nil_append, comparisons, comparisons]
    cases hkey : Comparison.ofKey? key with
    | none => rfl
    | some op => simp only [h op hkey]
  | cons entry front ih =>
    obtain ⟨key', operand⟩ := entry
    rw [List.cons_append, List.cons_append, comparisons, comparisons, ih]

theorem timestampRange_swap (filter : String) (spec : FilterSpec)
    (front rest : List (String × Json)) {op : Comparison} (hop : op.isRange = true) {x y : Json}
    (hx : (Timestamp.ofJson? x).isSome) (hy : (Timestamp.ofJson? y).isSome) :
    timestampRange filter spec (.object (front ++ (op.key, .array [x, y]) :: rest)) =
      timestampRange filter spec (.object (front ++ (op.key, .array [y, x]) :: rest)) := by
  rw [timestampRange, timestampRange, comparisons_congr front rest]
  intro op' hop'
  rw [Comparison.ofKey?_key] at hop'
  obtain rfl := Option.some.inj hop'
  rw [comparison, comparison, if_pos hop, if_pos hop, bounds_swap filter hx hy]

/-! ### The whole value -/

theorem compile_of_timestampRange {d : Descriptor} (hkind : d.kind = .timestampRange)
    (filter : String) (value : Json) (table : BindTable) :
    (compile filter d value).outcome table =
      (timestampRange filter d.toFilterSpec value).outcome table := by
  rw [compile_outcome_ofKind, ofKind, hkind]

/-- A timestamp filter from end to end. Without comparisons it does not restrict; a value that is no
mapping is an error. A mapping is written comparison by comparison, and joined, exactly if all of
its comparisons make sense; otherwise the first that does not decides, and what those before it
bind is kept. The bounds of a range may be given in either order. -/
theorem timestamps_compared {d : Descriptor} (hkind : d.kind = .timestampRange) (filter : String)
    (table : BindTable) :
    (∀ value, value = .null ∨ value = .object [] →
      (compile filter d value).outcome table = (.ok .empty, table)) ∧
    (∀ value, value ≠ .null → (∀ fields, value ≠ .object fields) →
      (compile filter d value).outcome table =
        (.error (.invalidValue filter .notComparisons), table)) ∧
    (∀ fields, fields ≠ [] → (∀ entry ∈ fields, Comparison.Accepts entry.1 entry.2) →
      ∃ parts bound, Writes d.field table fields parts bound ∧
        (compile filter d (.object fields)).outcome table =
          (.ok (.sql ("(" ++ " AND ".intercalate parts ++ ")")), table.pushAll bound)) ∧
    (∀ fields, ¬ (∀ entry ∈ fields, Comparison.Accepts entry.1 entry.2) →
      ∃ front key operand rest e parts bound, fields = front ++ (key, operand) :: rest ∧
        Writes d.field table front parts bound ∧ Faulty filter key operand e ∧
        (compile filter d (.object fields)).outcome table = (.error e, table.pushAll bound)) ∧
    ∀ (front rest : List (String × Json)) (op : Comparison) (x y : Json), op.isRange = true →
      (Timestamp.ofJson? x).isSome → (Timestamp.ofJson? y).isSome →
      (compile filter d (.object (front ++ (op.key, .array [x, y]) :: rest))).outcome table =
        (compile filter d (.object (front ++ (op.key, .array [y, x]) :: rest))).outcome table := by
  simp only [compile_of_timestampRange hkind]
  refine ⟨?_, ?_, ?_, ?_, ?_⟩
  · rintro value (rfl | rfl) <;> rfl
  · -- values of any other kind
    intro value hnull hobject
    cases value with
    | null => exact absurd rfl hnull
    | object fields => exact absurd rfl (hobject fields)
    | _ => rfl
  · -- all comparisons make sense, so none of them is the end
    intro fields hne haccepts
    rcases comparisons_cases filter d.field fields table with
      ⟨parts, bound, hwrites, houtcome⟩ |
      ⟨front, key, operand, rest, e, parts, bound, rfl, -, hfaulty, -⟩
    · refine ⟨parts, bound, hwrites, ?_⟩
      rw [timestampRange, Pass.outcome_bind_ok houtcome, Predicate.join,
        if_neg (by simpa [hwrites.eq_nil_iff] using hne)]
      rfl
    · exact absurd (haccepts (key, operand) (by simp)) hfaulty.not_accepts
  · -- some comparison makes no sense, so they cannot all have been written
    intro fields hnot
    rcases comparisons_cases filter d.field fields table with
      ⟨parts, bound, hwrites, -⟩ |
      ⟨front, key, operand, rest, e, parts, bound, hfields, hwrites, hfaulty, houtcome⟩
    · exact absurd hwrites.accepts hnot
    · refine ⟨front, key, operand, rest, e, parts, bound, hfields, hwrites, hfaulty, ?_⟩
      rw [timestampRange, Pass.outcome_bind_error houtcome]
  · -- bounds are sorted before they are bound
    intro front rest op x y hop hx hy
    rw [timestampRange_swap filter d.toFilterSpec front rest hop hx hy]

/-- Later than five seconds into 1970, and between a leap second and the second in front of it. -/
def leapSecond : List (String × Json) :=
  [("after", .int 5), ("between", .array [.string "2016-12-31T23:59:60Z", .int 1483228799])]

theorem timestamps_compared_leap_second :
    Comparison.Accepts "after" (.int 5) ∧
    (∃ parts bound, Writes "posts.created_at" (.empty "p") leapSecond parts bound ∧
      (compile "created" (.ofKind .timestampRange "posts.created_at")
          (.object leapSecond)).outcome (.empty "p") =
        (.ok (.sql ("(" ++ " AND ".intercalate parts ++ ")")),
          (BindTable.empty "p").pushAll bound) ∧
      (BindTable.empty "p").pushAll bound = ⟨"p", #[.timestamp ⟨5, 0⟩,
        .timestamp ⟨1483228799, 0⟩, .timestamp ⟨1483228799, 1000000000⟩]⟩) ∧
    ∃ front key operand rest e parts bound,
      [("after", .int 5), ("during", .int 7)] = front ++ (key, operand) :: rest ∧
      Writes "posts.created_at" (.empty "p") front parts bound ∧ Faulty "created" key operand e ∧
      (compile "created" (.ofKind .timestampRange "posts.created_at")
          (.object [("after", .int 5), ("during", .int 7)])).outcome (.empty "p") =
        (.error e, (BindTable.empty "p").pushAll bound) := by
  have hafter : Comparison.Accepts "after" (.int 5) := ⟨.after, by decide, by decide +kernel⟩
  have hbetween : Comparison.Accepts "between"
      (.array [.string "2016-12-31T23:59:60Z", .int 1483228799]) :=
    ⟨.between, by decide, by decide +kernel⟩
  have hduring : ¬ Comparison.Accepts "during" (.int 7) := by
    rintro ⟨op, hop, -⟩
    revert hop
    cases op <;> decide
  obtain ⟨-, -, hwrites, hfails, -⟩ := @timestamps_compared
    (.ofKind .timestampRange "posts.created_at") rfl "created" (.empty "p")
  obtain ⟨parts, bound, hparts, houtcome⟩ := hwrites leapSecond (by simp [leapSecond])
    (by simp [leapSecond, hafter, hbetween])
  refine ⟨hafter, ⟨parts, bound, hparts, houtcome, ?_⟩, hfails _ (by simp [hduring])⟩
  have htable : ((compile "created" (.ofKind .timestampRange "posts.created_at")
      (.object leapSecond)).outcome (.empty "p")).2 = ⟨"p", #[.timestamp ⟨5, 0⟩,
        .timestamp ⟨1483228799, 0⟩, .timestamp ⟨1483228799, 1000000000⟩]⟩ := by
    decide +kernel
  rw [houtcome] at htable
  exact htable

end Clause

end Criteria
