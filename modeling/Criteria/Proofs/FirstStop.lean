import Criteria.Proofs.Visits

/-!
# The first stop decides

In the order of the document, the first visit that stops a walk decides what compiling comes to; what
stands behind it is never looked at, and the values bound up to there are those that are kept. Main
statement: `Compiler.first_stop_decides`.
-/

namespace Criteria

open Outline (stopResult)

/-! ### Passes that only allocate -/

/-- Whatever else a pass does, to the table it does nothing but bind values. -/
def Pass.OnlyAllocates {α : Type} (x : Pass α) : Prop :=
  ∀ table, ∃ own, (x.outcome table).2 = table.pushAll own

/-- The generators of custom filters do nothing to the table but bind values. -/
def FilterSet.OnlyAllocate (filters : FilterSet) : Prop :=
  ∀ name d generator, filters.find? name = some d → d.kind = .custom →
    d.generator = some generator →
    ∀ filter spec value, (generator filter spec value).OnlyAllocates

namespace Pass.OnlyAllocates

variable {α β : Type}

theorem of_outcome {x : Pass α} {result : Except FilterError α}
    (h : ∀ table, x.outcome table = (result, table)) : x.OnlyAllocates :=
  fun table => ⟨[], by rw [h, table.pushAll_nil]⟩

theorem bind {x : Pass α} {f : α → Pass β} (hx : x.OnlyAllocates)
    (hf : ∀ a, (f a).OnlyAllocates) : (x >>= f).OnlyAllocates := by
  intro table
  obtain ⟨own, hown⟩ := hx table
  rw [outcome_bind]
  match houtcome : x.outcome table with
  | (.error e, table') =>
    rw [houtcome] at hown
    exact ⟨own, hown⟩
  | (.ok a, table') =>
    rw [houtcome] at hown
    obtain ⟨more, hmore⟩ := hf a table'
    refine ⟨own ++ more, ?_⟩
    rw [← BindTable.pushAll_pushAll, ← hown]
    exact hmore

end Pass.OnlyAllocates

namespace Clause

theorem custom_onlyAllocates {d : Descriptor}
    (h : ∀ generator, d.generator = some generator →
      ∀ filter spec value, (generator filter spec value).OnlyAllocates)
    (filter : String) (value : Json) : (custom filter d value).OnlyAllocates := by
  rw [custom]
  split
  · exact .of_outcome fun table => Pass.outcome_fail _ table
  · next generator hgenerator =>
    split
    · exact .of_outcome fun table => Pass.outcome_pure _ table
    · have hgenerate := h generator hgenerator filter d.toFilterSpec value
      exact hgenerate.bind fun text => .of_outcome fun table => Pass.outcome_pure _ table

theorem compile_onlyAllocates {d : Descriptor}
    (h : d.kind = .custom → ∀ generator, d.generator = some generator →
      ∀ filter spec value, (generator filter spec value).OnlyAllocates)
    (filter : String) (value : Json) : (compile filter d value).OnlyAllocates := by
  intro table
  by_cases hkind : d.kind = .custom
  · rw [compile_outcome_custom hkind]
    exact custom_onlyAllocates (h hkind) filter value table
  · rw [compile_outcome hkind]
    rcases Outline.leaf filter d.toFilterSpec value with s | _ | c
    · exact ⟨s.bound, rfl⟩
    · exact ⟨[], (table.pushAll_nil).symm⟩
    · exact ⟨c.values, rfl⟩

end Clause

namespace Visit

/-! ### Passed and stopping visits -/

/-- A visit stops the walk that comes to it with a table, and leaves values of its own bound. -/
def Stops (v : Visit) (table : BindTable) (s : Stop) (own : List BindValue) : Prop :=
  v.pass.outcome table = (stopResult .noMatch s, table.pushAll own)

/-- A walk passes visits, which come to predicates and bind values. -/
inductive Passed : BindTable → List Visit → List Predicate → List BindValue → Prop
  | nil (table : BindTable) : Passed table [] [] []
  | cons {v : Visit} {table : BindTable} {predicate : Predicate} {own bound : List BindValue}
      {rest : List Visit} {ps : List Predicate}
      (hv : v.pass.outcome table = (.ok predicate, table.pushAll own))
      (hpredicate : predicate ≠ .noMatch) (hrest : Passed (table.pushAll own) rest ps bound) :
      Passed table (v :: rest) (predicate :: ps) (own ++ bound)

theorem swept_of_stops {v : Visit} {table : BindTable} {s : Stop} {own : List BindValue}
    (h : v.Stops table s own) : swept (v.pass.outcome table) = (.error s, table.pushAll own) := by
  rw [h]
  cases s with
  | failed e => rfl
  | unmatchable => rfl

theorem swept_of_ok {predicate : Predicate} (h : predicate ≠ .noMatch) (table : BindTable) :
    swept (.ok predicate, table) = (.ok [predicate], table) := by
  cases predicate with
  | noMatch => exact absurd rfl h
  | empty => rfl
  | sql text => rfl

theorem Passed.sweep {table : BindTable} {visits : List Visit} {ps : List Predicate}
    {bound : List BindValue} (h : Passed table visits ps bound) :
    Visit.sweep visits table = (.ok ps, table.pushAll bound) := by
  induction h with
  | nil table => rw [Visit.sweep, BindTable.pushAll_nil]
  | cons hv hpredicate _ ih =>
    rw [Visit.sweep, hv, swept_of_ok hpredicate, resumed, ih, BindTable.pushAll_pushAll]
    rfl

/-- The first of some visits that stops a walk, with the visits before it and what they bound. -/
structure FirstStop (start : BindTable) (visits : List Visit) where
  before : List Visit
  visit : Visit
  after : List Visit
  predicates : List Predicate
  bound : List BindValue
  cause : Stop
  /-- The values that the stopping visit bound itself. -/
  own : List BindValue
  split : visits = before ++ visit :: after
  passed : Passed start before predicates bound
  stops : visit.Stops (start.pushAll bound) cause own

/-- The table that a walk leaves where it stops. -/
def FirstStop.table {start : BindTable} {visits : List Visit} (f : FirstStop start visits) :
    BindTable :=
  start.pushAll (f.bound ++ f.own)

/-- A sweep ends with the first visit that stops it, whatever is behind. -/
theorem FirstStop.sweep {start : BindTable} {visits : List Visit} (f : FirstStop start visits)
    (after : List Visit) :
    Visit.sweep (f.before ++ f.visit :: after) start = (.error f.cause, f.table) := by
  rw [sweep_append, f.passed.sweep, resumed, Visit.sweep, swept_of_stops f.stops, resumed,
    BindTable.pushAll_pushAll]
  rfl

/-- A walk over visits that only bind values stops at one of them or passes all of them. -/
theorem stops_or_passed {visits : List Visit} (h : ∀ v ∈ visits, v.pass.OnlyAllocates)
    (start : BindTable) :
    Nonempty (FirstStop start visits) ∨ ∃ ps bound, Passed start visits ps bound := by
  induction visits generalizing start with
  | nil => exact Or.inr ⟨[], [], .nil start⟩
  | cons v rest ih =>
    obtain ⟨hv, hrest⟩ := List.forall_mem_cons.1 h
    obtain ⟨own, hown⟩ := hv start
    obtain ⟨result, houtcome⟩ : ∃ result, v.pass.outcome start = (result, start.pushAll own) :=
      ⟨_, Prod.ext rfl hown⟩
    -- either the walk stops here, or the visits behind start with what is bound here
    have hstop (cause : Stop) (hs : v.Stops start cause own) : FirstStop start (v :: rest) :=
      ⟨[], v, rest, [], [], cause, own, rfl, .nil start, by rwa [BindTable.pushAll_nil]⟩
    rcases result with e | predicate
    · exact Or.inl ⟨hstop (.failed e) houtcome⟩
    · by_cases hpredicate : predicate = .noMatch
      · subst hpredicate
        exact Or.inl ⟨hstop .unmatchable houtcome⟩
      · rcases ih hrest (start.pushAll own) with ⟨⟨f⟩⟩ | ⟨ps, bound, hpassed⟩
        · refine Or.inl ⟨⟨v :: f.before, f.visit, f.after, predicate :: f.predicates,
            own ++ f.bound, f.cause, f.own, congrArg (v :: ·) f.split,
            .cons houtcome hpredicate f.passed, ?_⟩⟩
          rw [← BindTable.pushAll_pushAll]
          exact f.stops
        · exact Or.inr ⟨predicate :: ps, own ++ bound, .cons houtcome hpredicate hpassed⟩

/-! ### Visits of bodies -/

theorem onlyAllocates_of_mem {filters : FilterSet} (hfilters : filters.OnlyAllocate) {depth : Nat}
    {fields : List (String × Json)} {v : Visit} (h : v ∈ entries filters depth fields) :
    v.pass.OnlyAllocates := by
  cases v with
  | fault f => exact .of_outcome fun table => Pass.outcome_fail _ table
  | leaf name d value =>
    have hd := find?_of_mem_entries h
    exact Clause.compile_onlyAllocates
      (fun hkind generator hgenerator => hfilters name d generator hd hkind hgenerator) name value

end Visit

/-! ### Bodies that begin alike -/

/-- A mapping begins as another one, in the order of the document: what follows is free, also behind
the end of each mapping below a combinator that is last. -/
inductive Begins : List (String × Json) → List (String × Json) → Prop
  | free (fields : List (String × Json)) : Begins [] fields
  | inside {key : String} {combinator : Combinator} {inner inner' : List (String × Json)}
      (hkey : Combinator.ofKey? key = some combinator) (h : Begins inner inner')
      (rest : List (String × Json)) : Begins [(key, .object inner)] ((key, .object inner') :: rest)
  | later (first : String × Json) {rest rest' : List (String × Json)} (h : Begins rest rest') :
    Begins (first :: rest) (first :: rest')

/-- What is free at the end of a mapping is visited last. -/
theorem Begins.entries {common fields : List (String × Json)} (h : Begins common fields)
    (filters : FilterSet) (depth : Nat) :
    ∃ after, Visit.entries filters depth fields = Visit.entries filters depth common ++ after := by
  induction h generalizing depth with
  | free fields => exact ⟨_, rfl⟩
  | @inside key combinator inner inner' hkey h rest ih =>
    simp only [Visit.entries, hkey, List.append_nil]
    rw [Visit.group, Visit.group]
    split
    · exact ⟨_, rfl⟩
    · obtain ⟨after, hafter⟩ := ih (depth + 1)
      rw [hafter, List.append_assoc]
      exact ⟨_, rfl⟩
  | later first h ih =>
    obtain ⟨after, hafter⟩ := ih depth
    rw [Visit.entries, Visit.entries, hafter, ← List.append_assoc]
    exact ⟨after, rfl⟩

namespace Compiler

/-- A compiler comes to a result for a body, in compiling as in generating, which keeps a table. -/
structure Gives (compiler : Compiler) (b : Body) (default : Combinator)
    (result : Except FilterError Predicate) (table : BindTable) : Prop where
  compile : (compiler.compile b default).result = result.map fun predicate => (predicate, table)
  generate : (compiler.generate b default).1.result = result
  stored : (compiler.generate b default).2 = { compiler with table }

theorem gives_of_outcome {compiler : Compiler} {b : Body} {default : Combinator}
    {result : Except FilterError Predicate} {table : BindTable}
    (h : (Compile.body compiler.filters b default).outcome (.empty compiler.table.stem) =
      (result, table)) : compiler.Gives b default result table := by
  obtain ⟨hgenerate, hstored⟩ := generate_of_outcome h
  exact ⟨compile_of_outcome h, hgenerate, hstored⟩

/-- The first visit that stops a walk decides, also over a body that goes on in another way. -/
theorem gives_of_firstStop {compiler : Compiler} {visits : List Visit}
    (f : Visit.FirstStop (.empty compiler.table.stem) visits) {b : Body}
    {fields : List (String × Json)} (hfields : b.fields? = some fields) {after : List Visit}
    (hvisits : Visit.ofMapping compiler.filters fields = f.before ++ f.visit :: after)
    (default : Combinator) :
    compiler.Gives b default (stopResult .noMatch f.cause) f.table := by
  have hfollows := Compile.mapping_follows compiler.filters default fields
    (.empty compiler.table.stem)
  rw [hvisits, f.sweep after] at hfollows
  generalize houtcome : (Compile.mapping compiler.filters default fields).outcome
    (.empty compiler.table.stem) = outcome at hfollows
  cases hfollows
  exact gives_of_outcome ((Compile.body_of_fields hfields _ _ _).trans houtcome)

/-- Where no visit stops the walk, the predicate restricts rows if one of the visits does. -/
theorem gives_of_passed {compiler : Compiler} {b : Body} {fields : List (String × Json)}
    (hfields : b.fields? = some fields) {ps : List Predicate} {bound : List BindValue}
    (hpassed : Visit.Passed (.empty compiler.table.stem)
      (Visit.ofMapping compiler.filters fields) ps bound) (default : Combinator) :
    ∃ predicate, compiler.Gives b default (.ok predicate)
        ((BindTable.empty compiler.table.stem).pushAll bound) ∧
      predicate ≠ .noMatch ∧ (predicate.Restricts ↔ ∃ p ∈ ps, p.Restricts) := by
  have hfollows := Compile.mapping_follows compiler.filters default fields
    (.empty compiler.table.stem)
  -- the sweep over the visits goes through, and the walk follows it
  rw [hpassed.sweep] at hfollows
  generalize houtcome : (Compile.mapping compiler.filters default fields).outcome
    (.empty compiler.table.stem) = outcome at hfollows
  cases hfollows with
  | walked table hpredicate hps =>
    have hbody := (Compile.body_of_fields hfields compiler.filters default _).trans houtcome
    exact ⟨_, gives_of_outcome hbody, hpredicate, hps⟩

/-- The first visit that stops the walk over a body decides: its error, or the certainty that no row
passes, is the result for this body and for every body that goes on otherwise behind it, and the
values bound up to there are kept. A body may go on otherwise in what is visited, or in how it is
written. Where no visit stops the walk, the result restricts rows if one of the visits does. A body
that is no mapping is not walked. -/
theorem first_stop_decides {compiler : Compiler} (hfilters : compiler.filters.OnlyAllocate)
    (b : Body) (default : Combinator) :
    let start := BindTable.empty compiler.table.stem
    (b.fields? = none →
      compiler.Gives b default (.error (.invalidBody .notMapping)) start) ∧
    ∀ fields, b.fields? = some fields →
      let visits := Visit.ofMapping compiler.filters fields
      (∀ f : Visit.FirstStop start visits,
        compiler.Gives b default (stopResult .noMatch f.cause) f.table ∧
        (∀ (b' : Body) (fields' : List (String × Json)) (more : List Visit) (default' : Combinator),
          b'.fields? = some fields' →
          Visit.ofMapping compiler.filters fields' = f.before ++ f.visit :: more →
          compiler.Gives b' default' (stopResult .noMatch f.cause) f.table) ∧
        ∀ (b' : Body) (fields' common : List (String × Json)) (more : List Visit)
            (default' : Combinator),
          b'.fields? = some fields' → (IsLone fields ↔ IsLone fields') → Begins common fields →
          Begins common fields' →
          Visit.entries compiler.filters (Visit.topDepth fields) common =
            f.before ++ f.visit :: more →
          compiler.Gives b' default' (stopResult .noMatch f.cause) f.table) ∧
      (∀ ps bound, Visit.Passed start visits ps bound →
        ∃ predicate, compiler.Gives b default (.ok predicate) (start.pushAll bound) ∧
          predicate ≠ .noMatch ∧ (predicate.Restricts ↔ ∃ p ∈ ps, p.Restricts)) ∧
      (Nonempty (Visit.FirstStop start visits) ∨ ∃ ps bound, Visit.Passed start visits ps bound) := by
  intro start
  refine ⟨fun hnone => gives_of_outcome (Compile.body_of_no_fields hnone _ _ _), ?_⟩
  intro fields hfields visits
  refine ⟨?_, ?_, ?_⟩
  · intro f
    refine ⟨gives_of_firstStop f hfields f.split default, ?_, ?_⟩
    · -- the same visits up to the stop
      intro b' fields' more default' hfields' hvisits
      exact gives_of_firstStop f hfields' hvisits default'
    · -- the same entries up to the stop are visited in the same way, from the same depth
      intro b' fields' common more default' hfields' hlone _ hbegins hcommon
      have hdepth : Visit.topDepth fields' = Visit.topDepth fields :=
        Visit.topDepth_congr hlone.symm
      obtain ⟨after, hafter⟩ := hbegins.entries compiler.filters (Visit.topDepth fields)
      apply gives_of_firstStop f hfields'
      rw [Visit.ofMapping, hdepth, hafter, hcommon, List.append_assoc, List.cons_append]
  · intro ps bound hpassed
    exact gives_of_passed hfields hpassed default
  · exact Visit.stops_or_passed (fun v hv => Visit.onlyAllocates_of_mem hfilters hv) start

end Compiler

/-! ### A walk that stops -/

/-- A time is compared in a way that does not exist, and a combinator behind it holds no mapping. -/
def Body.misspeltPosts : Body :=
  .object [
    ("tag", .string "rust"),
    ("created", .object [("after", .int 5), ("during", .int 7)]),
    ("any", .int 3)]

theorem FilterSet.posts_onlyAllocate : posts.OnlyAllocate :=
  fun name d _ hd hkind => absurd hkind (posts_noCustom name d hd)

/-- Where the walk over these posts stops. -/
def Visit.misspeltPosts :
    FirstStop (.empty BindTable.defaultStem) (ofMapping .posts [
      ("tag", .string "rust"),
      ("created", .object [("after", .int 5), ("during", .int 7)]),
      ("any", .int 3)]) where
  before := [leaf "tag" (.ofKind .mappedList "posts.tag") (.string "rust")]
  visit := leaf "created" (.ofKind .timestampRange "posts.created_at")
    (.object [("after", .int 5), ("during", .int 7)])
  after := [.fault (.combinatorNotMapping "any")]
  predicates := [.sql "(posts.tag IN (:p1))"]
  bound := [.list [.text "rust"]]
  cause := .failed (.unknownComparison "created" "during")
  own := [.timestamp ⟨5, 0⟩]
  split := rfl
  passed := @Passed.cons _ _ (.sql "(posts.tag IN (:p1))") [.list [.text "rust"]] [] [] []
    (by decide +kernel)
    nofun (.nil _)
  stops := rfl

/-- The same posts up to there, then those by authors who are not asked for in a proper way. -/
def Body.otherMisspeltPosts : Body :=
  .object [
    ("tag", .string "rust"),
    ("created", .object [("after", .int 5), ("during", .int 7)]),
    ("author", .bool true)]

theorem Compiler.first_stop_decides_misspeltPosts :
    Visit.misspeltPosts.table = ⟨"p", #[.list [.text "rust"], .timestamp ⟨5, 0⟩]⟩ ∧
      (ofFilters .posts).Gives .misspeltPosts .all
        (.error (.unknownComparison "created" "during")) Visit.misspeltPosts.table ∧
      (ofFilters .posts).Gives .otherMisspeltPosts .any
        (.error (.unknownComparison "created" "during")) Visit.misspeltPosts.table := by
  have hdecides := ((@first_stop_decides (ofFilters .posts) FilterSet.posts_onlyAllocate
    .misspeltPosts .all).2 _ rfl).1 Visit.misspeltPosts
  have hlone (first second third : String × Json) : ¬ IsLone [first, second, third] := by
    rintro ⟨_, _, _, hfields, -⟩
    cases hfields
  refine ⟨rfl, hdecides.1, hdecides.2.2 .otherMisspeltPosts _ _ [] .any rfl ?_
    (.later _ (.later _ (.free _))) (.later _ (.later _ (.free _))) rfl⟩
  exact iff_of_false (hlone _ _ _) (hlone _ _ _)

end Criteria
