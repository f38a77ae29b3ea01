import Criteria.App.Output
import Criteria.Proofs.Simulation
import Criteria.Proofs.Sql.Printing
import Criteria.Proofs.Walk

/-!
# Placeholders and bind tables

The names behind the colons of a predicate, from left to right, are the names of its bind table in
the order in which they were bound. Main statement: `compile_placeholders`.
-/

namespace Criteria

open Sql

/-! ### Reading placeholders -/

/-- The names behind the colons of a text; a name reaches as far as it can. -/
def placeholders : List Char → List String
  | [] => []
  | c :: cs =>
    if c = ':' then
      String.ofList (cs.takeWhile isNameChar) :: placeholders (cs.dropWhile isNameChar)
    else placeholders cs
termination_by cs => cs.length
decreasing_by
  · exact Nat.lt_succ_of_le (List.dropWhile_sublist isNameChar).length_le
  · exact Nat.lt_succ_self _

@[simp] theorem placeholders_nil : placeholders [] = [] := by
  rw [placeholders]

/-- A text without colons has none. -/
theorem placeholders_append {cs : List Char} (h : ':' ∉ cs) (rest : List Char) :
    placeholders (cs ++ rest) = placeholders rest := by
  induction cs with
  | nil => rfl
  | cons c cs ih =>
    rw [List.mem_cons, not_or] at h
    rw [List.cons_append, placeholders, if_neg (Ne.symm h.1), ih h.2]

theorem placeholders_name {name : String} (h : IsName name) {rest : List Char}
    (hrest : Stops isNameChar rest) :
    placeholders (':' :: (name.toList ++ rest)) = name :: placeholders rest := by
  rw [placeholders, if_pos rfl, takeWhile_append_stops h.2 hrest, dropWhile_append_stops h.2 hrest,
    String.ofList_toList]

/-! ### Tests around their placeholders -/

namespace Test

/-- The text of a test up to its first placeholder. -/
def front {α : Type} : Test α → List Char
  | .membership field negated _ =>
    field.toList ++ (if negated then " NOT IN (" else " IN (").toList
  | .relation field r _ => field.toList ++ (" " ++ r.symbol ++ " ").toList
  | .range field negated _ _ =>
    field.toList ++ (if negated then " NOT BETWEEN " else " BETWEEN ").toList

/-- The text of a test behind its first colon. -/
def back : Test String → List Char
  | .membership _ _ set => set.toList ++ [')']
  | .relation _ _ bound => bound.toList
  | .range _ _ low high => low.toList ++ (" AND ".toList ++ ':' :: high.toList)

theorem toList_text (t : Test String) : t.text.toList = t.front ++ ':' :: t.back := by
  cases t with
  | membership field negated set => simp [text, front, back]
  | relation field r bound => simp [text, front, back]
  | range field negated low high => cases negated <;> simp [text, front, back]

theorem colon_notMem_front {α : Type} {t : Test α} (h : ':' ∉ t.field.toList) : ':' ∉ t.front := by
  cases t with
  | membership field negated set =>
    exact List.not_mem_append h (by cases negated <;> decide)
  | relation field r bound => exact List.not_mem_append h (by cases r <;> decide)
  | range field negated low high =>
    exact List.not_mem_append h (by cases negated <;> decide)

end Test

/-! ### Placeholders of conditions -/

namespace Condition

theorem placeholders_test {t : Test String} (hfield : ':' ∉ t.field.toList)
    (hvalues : ∀ v ∈ t.values, IsName v) {rest : List Char} (hrest : Stops isNameChar rest) :
    placeholders (t.text.toList ++ rest) = t.values ++ placeholders rest := by
  rw [Test.toList_text, List.append_assoc, placeholders_append (Test.colon_notMem_front hfield),
    List.cons_append]
  cases t with
  | membership field negated set =>
    have hset : IsName set := hvalues set (List.mem_singleton.2 rfl)
    have hclosing : Stops isNameChar ([')'] ++ rest) := stops_cons (by decide) rest
    rw [Test.back, List.append_assoc, placeholders_name hset hclosing,
      placeholders_append (by decide)]
    rfl
  | relation field r bound =>
    have hbound : IsName bound := hvalues bound (List.mem_singleton.2 rfl)
    rw [Test.back, placeholders_name hbound hrest]
    rfl
  | range field negated low high =>
    have hlow : IsName low := hvalues low List.mem_cons_self
    have hhigh : IsName high := hvalues high (List.mem_cons_of_mem _ List.mem_cons_self)
    have hand : Stops isNameChar (" AND ".toList ++ ':' :: (high.toList ++ rest)) :=
      stops_cons (by decide) _
    rw [Test.back, List.append_assoc, List.append_assoc, List.cons_append,
      placeholders_name hlow hand, placeholders_append (by decide), placeholders_name hhigh hrest]
    rfl

mutual
/-- The placeholders of a condition are its operands, in the order in which they are written. -/
theorem placeholders_text {c : Condition String} (hfields : ∀ f ∈ c.fields, ':' ∉ f.toList)
    (hvalues : ∀ v ∈ c.values, IsName v) {rest : List Char} (hrest : Stops isNameChar rest) :
    placeholders (c.text.toList ++ rest) = c.values ++ placeholders rest := by
  match c with
  | .test t => exact placeholders_test (hfields t.field (List.mem_singleton.2 rfl)) hvalues hrest
  | .group combinator first others =>
    simp only [fields, List.forall_mem_append] at hfields
    simp only [values, List.forall_mem_append] at hvalues
    have hclosing : Stops isNameChar ([')'] ++ rest) := stops_cons (by decide) rest
    have hothers := placeholders_textAfter combinator hfields.2 hvalues.2 hclosing
    have hfirst := placeholders_text hfields.1 hvalues.1
      (stops_textAfter combinator (texts others) hclosing)
    have htext : (group combinator first others).text.toList ++ rest =
        ['('] ++ (first.text.toList ++
          (textAfter combinator (texts others) ++ ([')'] ++ rest))) := by
      simp [text_group]
    rw [htext, placeholders_append (by decide), hfirst, hothers, placeholders_append (by decide),
      values, List.append_assoc]

theorem placeholders_textAfter (combinator : Combinator) {cs : List (Condition String)}
    (hfields : ∀ f ∈ fieldsAll cs, ':' ∉ f.toList) (hvalues : ∀ v ∈ valuesAll cs, IsName v)
    {rest : List Char} (hrest : Stops isNameChar rest) :
    placeholders (textAfter combinator (texts cs) ++ rest) = valuesAll cs ++ placeholders rest := by
  match cs with
  | [] => rfl
  | c :: cs =>
    simp only [fieldsAll, List.forall_mem_append] at hfields
    simp only [valuesAll, List.forall_mem_append] at hvalues
    have hothers := placeholders_textAfter combinator hfields.2 hvalues.2 hrest
    have hfirst := placeholders_text hfields.1 hvalues.1
      (stops_textAfter combinator (texts cs) hrest)
    have hfront : ':' ∉ ' ' :: combinator.sql.toList ++ [' '] := by
      cases combinator <;> decide
    have htext : textAfter combinator (texts (c :: cs)) ++ rest =
        (' ' :: combinator.sql.toList ++ [' ']) ++
          (c.text.toList ++ (textAfter combinator (texts cs) ++ rest)) := by
      simp [texts, textAfter]
    rw [htext, placeholders_append hfront, hfirst, hothers, valuesAll, List.append_assoc]
end

/-- Every condition has operands. -/
theorem values_length_pos {α : Type} (c : Condition α) : 0 < c.values.length := by
  cases c with
  | test t => cases t <;> exact Nat.succ_pos _
  | group combinator first rest =>
    rw [values, List.length_append]
    exact Nat.add_pos_left (values_length_pos first) _

/-- Behind an empty table, the placeholders of a condition are the first names of the table. -/
theorem placeholders_textAt {α : Type} {stem : String} (hstem : AppConfig.isStem stem = true)
    {c : Condition α} (hfields : ∀ f ∈ c.fields, ':' ∉ f.toList) :
    placeholders (c.textAt (.empty stem)).toList = BindTable.names stem c.values.length := by
  have hlabel : ∀ f ∈ (c.label (BindTable.nth stem) 0).fields, ':' ∉ f.toList := by
    rw [fields_label]
    exact hfields
  have hnames : ∀ v ∈ (c.label (BindTable.nth stem) 0).values, IsName v := by
    rw [values_label]
    intro v hv
    obtain ⟨i, -, rfl⟩ := List.mem_map.1 hv
    exact isName_nth hstem i
  have htext := placeholders_text hlabel hnames (stops_nil isNameChar)
  rw [List.append_nil, placeholders_nil, List.append_nil, values_label,
    ← List.range_eq_range'] at htext
  exact htext

end Condition

/-! ### Compiled bodies -/

/-- The output of a run is what its compiler makes of the body. -/
theorem AppConfig.compileBody_result (config : AppConfig) (b : Body) (default : Combinator) :
    (config.compileBody b default).result =
      ((config.compiler.compile b default).result.mapError .body).map
        fun (predicate, table) => .ofResult predicate table := by
  rw [compileBody, Compiler.generate, Compiler.compile, BindTable.reset]
  obtain ⟨⟨result, trace⟩, table⟩ :=
    Compile.body config.compiler.filters b default (.empty config.compiler.table.stem)
  cases result with
  | ok predicate => rfl
  | error e => rfl

/-- Compiling looks at nothing of a compiler but its filters and the stem of its names. -/
theorem Compiler.compile_congr {compiler compiler' : Compiler}
    (hfilters : compiler.filters = compiler'.filters)
    (hstem : compiler.table.stem = compiler'.table.stem) (b : Body) (default : Combinator) :
    compiler.compile b default = compiler'.compile b default := by
  rw [compile, compile, hfilters, hstem]

theorem CompileOutput.keys_params (predicate : Predicate) (table : BindTable) :
    ∃ fields, (ofResult predicate table).params = .object fields ∧
      Assoc.keys fields = if predicate.sql?.isSome then table.entries.keys else [] := by
  rw [ofResult]
  split
  · refine ⟨_, rfl, ?_⟩
    rw [Assoc.keys, Assoc.keys, List.map_map]
    rfl
  · exact ⟨[], rfl, rfl⟩

namespace Compiler

variable {compiler : Compiler} (hcustom : compiler.filters.NoCustom)
  (hcolon : ∀ name d, compiler.filters.find? name = some d → d.kind ≠ .passthrough →
    ':' ∉ d.field.toList)
  (hstem : AppConfig.isStem compiler.table.stem = true)
include hcustom hcolon hstem

/-- The placeholders of a text are the names of its table. -/
theorem sql_placeholders {b : Body} {default : Combinator} {text : String} {table : BindTable}
    (h : (compiler.compile b default).result = .ok (.sql text, table)) :
    1 ≤ table.size ∧
      placeholders text.toList = BindTable.names compiler.table.stem table.size ∧
      table.entries.keys = placeholders text.toList := by
  obtain ⟨c, hc, rfl, rfl⟩ := compile_sql hcustom h
  have hfields := Outline.forall_fields_body (P := fun f => ':' ∉ f.toList) hcolon hc
  have hnames := c.placeholders_textAt hstem hfields
  rw [BindTable.keys_entries, hnames, BindTable.stem_pushAll, BindTable.size_pushAll,
    BindTable.size_empty, Nat.zero_add]
  exact ⟨c.values_length_pos, rfl, rfl⟩

/-- The placeholders of a predicate are the names of its bind table, each once and in order, and
where there is nothing to restrict the table is empty. The output of a run shows a value for each
placeholder of its predicate and no others. -/
theorem compile_placeholders {b : Body} {default : Combinator} {predicate : Predicate}
    {table : BindTable} (h : (compiler.compile b default).result = .ok (predicate, table)) :
    (∀ text, predicate = .sql text →
      1 ≤ table.size ∧
      placeholders text.toList =
        (List.range table.size).map (fun i => compiler.table.stem ++ Decimal.ofNat (i + 1)) ∧
      table.entries.keys = placeholders text.toList ∧ (placeholders text.toList).Nodup) ∧
    (predicate = .empty → table.size = 0) ∧
    ∀ config : AppConfig, config.filters = compiler.filters → config.stem = compiler.table.stem →
      ∃ output fields, (config.compileBody b default).result = .ok output ∧
        output.predicate = predicate ∧ output.params = .object fields ∧
        Assoc.keys fields =
          match predicate with
          | .sql text => placeholders text.toList
          | _ => [] := by
  refine ⟨?_, ?_, ?_⟩
  · rintro text rfl
    obtain ⟨hsize, hnames, hkeys⟩ := sql_placeholders hcustom hcolon hstem h
    refine ⟨hsize, hnames, hkeys, ?_⟩
    rw [hnames]
    exact BindTable.nodup_names _ _
  · rintro rfl
    obtain ⟨-, rfl⟩ := compile_empty hcustom h
    rfl
  · intro config hfilters hconfig
    -- a configuration with these filters and this stem makes the same compiler
    have hsame : config.compiler.compile b default = compiler.compile b default :=
      compile_congr hfilters hconfig b default
    obtain ⟨fields, hparams, hfields⟩ := CompileOutput.keys_params predicate table
    refine ⟨.ofResult predicate table, fields, ?_, rfl, hparams, ?_⟩
    · rw [AppConfig.compileBody_result, hsame, h]
      rfl
    · rw [hfields]
      cases predicate with
      | sql text => exact (sql_placeholders hcustom hcolon hstem h).2.2
      | empty => rfl
      | noMatch => rfl

end Compiler

theorem Compiler.compile_placeholders_rustPosts :
    ((ofFilters .posts).compile .rustPosts .all).result =
        .ok (.sql Predicate.rustPosts, .rustPosts) ∧
      placeholders Predicate.rustPosts.toList = BindTable.rustPosts.entries.keys := by
  have hcolon : ∀ name d, FilterSet.posts.find? name = some d → d.kind ≠ .passthrough →
      ':' ∉ d.field.toList :=
    FilterSet.forall_find? (P := fun d => d.kind ≠ .passthrough → ':' ∉ d.field.toList) (by decide)
  obtain ⟨htext, -, -⟩ :=
    compile_placeholders FilterSet.posts_noCustom hcolon rfl compile_rustPosts
  exact ⟨compile_rustPosts, (htext _ rfl).2.2.1.symm⟩

end Criteria
