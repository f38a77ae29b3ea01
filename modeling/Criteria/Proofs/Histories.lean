import Criteria.Proofs.FirstStop

/-!
# Histories of a compiler

A compiler is used by calls, one after another. Whatever they were, and however passes have ended,
what is left of them in the next pass is the stem that was set last: `generate` comes to what
`compile` comes to, and both to what they would have come to after any other history with this stem.
Main statement: `generate_forgets`.
-/

namespace Criteria

namespace Compiler

/-- A call of a compiler. -/
inductive Call where
  | generate (b : Body) (default : Combinator)
  | compile (b : Body) (default : Combinator)
  | adjust (transform : Adjust.Transform) (b : Body)
  | allocate (value : BindValue)
  | reset
  | withStem (stem : String)

namespace Call

/-- The compiler after a call. -/
def run (compiler : Compiler) : Call → Compiler
  | .generate b default => (compiler.generate b default).2
  | .compile _ _ | .adjust _ _ => compiler
  | .allocate value => (compiler.allocate value).2
  | .reset => compiler.reset
  | .withStem stem => compiler.withStem stem

/-- The stem after a call. -/
def stem (before : String) : Call → String
  | .withStem stem => stem
  | .generate _ _ | .compile _ _ | .adjust _ _ | .allocate _ | .reset => before

end Call

/-- The compiler after some calls. -/
def after (compiler : Compiler) (calls : List Call) : Compiler :=
  calls.foldl Call.run compiler

/-- The stem that some calls leave to a new compiler. -/
def lastStem (calls : List Call) : String :=
  calls.foldl Call.stem BindTable.defaultStem

/-! ### Single passes -/

section
variable {compiler : Compiler} (b : Body) (default : Combinator)

/-- Generating starts on an empty table, and leaves there what a pass binds. -/
theorem generate_binds (hfilters : compiler.filters.OnlyAllocate) :
    ∃ values, (compiler.generate b default).2 =
      { compiler with table := (BindTable.empty compiler.table.stem).pushAll values } := by
  cases hfields : b.fields? with
  | none =>
    have hgives : compiler.Gives b default _ _ :=
      gives_of_outcome (Compile.body_of_no_fields hfields _ _ _)
    exact ⟨[], by rw [hgives.stored, BindTable.pushAll_nil]⟩
  | some fields =>
    have honly : ∀ v ∈ Visit.ofMapping compiler.filters fields, v.pass.OnlyAllocates :=
      fun v hv => Visit.onlyAllocates_of_mem hfilters hv
    -- a stop leaves what was bound before it and what the stopping filter bound itself
    rcases Visit.stops_or_passed honly (.empty compiler.table.stem) with
      ⟨⟨f⟩⟩ | ⟨ps, bound, hpassed⟩
    · exact ⟨f.bound ++ f.own, (gives_of_firstStop f hfields f.split default).stored⟩
    · obtain ⟨predicate, hgives, -⟩ := gives_of_passed hfields hpassed default
      exact ⟨bound, hgives.stored⟩

/-- Generating reports and answers what compiling does. -/
theorem generate_answer :
    (compiler.generate b default).1 = Prod.fst <$> compiler.compile b default := by
  show (Compile.body compiler.filters b default (.empty compiler.table.stem)).1 =
    Prod.fst <$> compiler.compile b default
  rw [compile]
  rcases Compile.body compiler.filters b default (.empty compiler.table.stem) with
    ⟨⟨e | predicate, trace⟩, table⟩
  · rfl
  · show (⟨.ok predicate, trace⟩ : Traced Event FilterError Predicate) =
      Prod.fst <$> ((⟨.ok predicate, trace⟩ : Traced Event FilterError Predicate) >>=
        fun predicate => .pure (predicate, table))
    rw [map_bind]
    simp [Traced.bind_ok, Traced.pure, ← bind_pure_comp]

/-- Where both succeed, generating keeps the table that compiling returns. -/
theorem generate_table {predicate : Predicate} {table : BindTable}
    (h : (compiler.compile b default).result = .ok (predicate, table)) :
    (compiler.generate b default).2.table = table := by
  obtain ⟨⟨result, table'⟩, houtcome⟩ : ∃ outcome,
      (Compile.body compiler.filters b default).outcome (.empty compiler.table.stem) = outcome :=
    ⟨_, rfl⟩
  rw [compile_of_outcome houtcome] at h
  rw [(generate_of_outcome houtcome).2]
  -- both return the outcome of one walk on an empty table
  cases result with
  | error e => cases h
  | ok predicate' =>
    cases h
    rfl

end

/-! ### Whole histories -/

variable {filters : FilterSet}

/-- No call changes the filters, and only one of them the stem. -/
theorem Call.run_keeps {compiler : Compiler} (hfilters : compiler.filters.OnlyAllocate)
    (call : Call) :
    (call.run compiler).filters = compiler.filters ∧
      (call.run compiler).table.stem = call.stem compiler.table.stem := by
  cases call with
  | generate b default =>
    obtain ⟨values, hgenerate⟩ := generate_binds b default hfilters
    rw [run, hgenerate]
    exact ⟨rfl, rfl⟩
  | compile b default => exact ⟨rfl, rfl⟩
  | adjust transform b => exact ⟨rfl, rfl⟩
  | allocate value => exact ⟨rfl, rfl⟩
  | reset => exact ⟨rfl, rfl⟩
  | withStem stem => exact ⟨rfl, rfl⟩

theorem after_keeps {compiler : Compiler} (hfilters : compiler.filters.OnlyAllocate)
    (calls : List Call) :
    (compiler.after calls).filters = compiler.filters ∧
      (compiler.after calls).table.stem = calls.foldl Call.stem compiler.table.stem := by
  induction calls generalizing compiler with
  | nil => exact ⟨rfl, rfl⟩
  | cons call calls ih =>
    obtain ⟨hsame, hstem⟩ := call.run_keeps hfilters
    have hrest := @ih (call.run compiler) (by rwa [hsame])
    rw [hsame, hstem] at hrest
    exact hrest

theorem filters_after (hfilters : filters.OnlyAllocate) (calls : List Call) :
    ((ofFilters filters).after calls).filters = filters :=
  (@after_keeps (ofFilters filters) hfilters calls).1

theorem stem_after (hfilters : filters.OnlyAllocate) (calls : List Call) :
    ((ofFilters filters).after calls).table.stem = lastStem calls :=
  (@after_keeps (ofFilters filters) hfilters calls).2

/-- After any history, `generate` answers what `compile` does, and where they succeed it keeps the
table that `compile` returns. Two histories with the same stem at their end make no difference, to
either of them or to the compiler that `generate` leaves behind, also where it fails. -/
theorem generate_forgets (hfilters : filters.OnlyAllocate) (calls : List Call) (b : Body)
    (default : Combinator) :
    let compiler := (ofFilters filters).after calls
    (compiler.generate b default).1 = Prod.fst <$> compiler.compile b default ∧
    (∀ predicate table, (compiler.compile b default).result = .ok (predicate, table) →
      (compiler.generate b default).2.table = table) ∧
    ∀ calls', lastStem calls' = lastStem calls →
      let other := (ofFilters filters).after calls'
      other.compile b default = compiler.compile b default ∧
        other.generate b default = compiler.generate b default := by
  intro compiler
  refine ⟨generate_answer b default, fun predicate table h => generate_table b default h, ?_⟩
  intro calls' hstem other
  have hsame : other.filters = compiler.filters := by
    rw [filters_after hfilters, filters_after hfilters]
  have hstem' : other.table.stem = compiler.table.stem := by
    rw [stem_after hfilters, stem_after hfilters, hstem]
  constructor
  · rw [compile, compile, hsame, hstem']
  · rw [generate, generate, BindTable.reset, BindTable.reset, hsame, hstem']

end Compiler

/-! ### A history that matters only by its stem -/

/-- Posts on one subject. -/
def Body.goPosts : Body :=
  .object [("tag", .string "go")]

/-- Calls that end in a pass that fails. -/
def Compiler.mixedCalls : List Call :=
  [.generate .rustPosts .all, .allocate (.integer 1), .withStem "f", .compile .rustPosts .any,
    .allocate (.text "go"), .generate .misspeltPosts .all]

theorem Compiler.generate_forgets_mixedCalls :
    ((ofFilters .posts).after mixedCalls).table =
        ⟨"f", #[.list [.text "rust"], .timestamp ⟨5, 0⟩]⟩ ∧
      (((ofFilters .posts).after mixedCalls).generate .goPosts .all).1.result =
        .ok (.sql "((posts.tag IN (:f1)))") ∧
      (((ofFilters .posts).after mixedCalls).generate .goPosts .all).2.table =
        ⟨"f", #[.list [.text "go"]]⟩ := by
  have hfresh : (((ofFilters .posts).after [.withStem "f"]).compile .goPosts .all).result =
      .ok (.sql "((posts.tag IN (:f1)))", ⟨"f", #[.list [.text "go"]]⟩) := by
    decide +kernel
  obtain ⟨hanswer, htable, hforgets⟩ :=
    generate_forgets FilterSet.posts_onlyAllocate mixedCalls .goPosts .all
  obtain ⟨hcompile, -⟩ := hforgets [.withStem "f"] rfl
  rw [hcompile] at hfresh
  refine ⟨rfl, ?_, htable _ _ hfresh⟩
  rw [hanswer, ← bind_pure_comp, Traced.result_bind, hfresh]
  rfl

end Criteria
