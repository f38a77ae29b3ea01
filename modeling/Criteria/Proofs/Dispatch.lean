import Criteria.Proofs.Blanked
import Criteria.Proofs.Configurations
import Criteria.Proofs.Ignored
import Criteria.Proofs.Lookups

/-!
# Filters by name

A filter is reached under the name that it is configured with, unless that is the key of a
combinator: combinators are looked for first, at every depth of a body, and a filter under such a
name is never asked for anything. Main statement: `ConfigFile.filters_reached`.
-/

namespace Criteria

/-! ### Filters under the keys of combinators -/

/-- The names that stand for combinators in bodies. -/
def Combinator.IsKey (name : String) : Prop :=
  (ofKey? name).isSome

instance : DecidablePred Combinator.IsKey := fun name =>
  inferInstanceAs (Decidable ((Combinator.ofKey? name).isSome = true))

namespace Compile

/-- Two sets have the same filter under every name that is no key of a combinator. -/
def Agree (filters filters' : FilterSet) : Prop :=
  ∀ name, Combinator.ofKey? name = none → filters.find? name = filters'.find? name

/-- Only names that are no keys of combinators are looked up. -/
theorem body_of_agree {filters filters' : FilterSet} (h : Agree filters filters') (b : Body)
    (default : Combinator) : body filters b default = body filters' b default := by
  apply body_congr
  intro name hname
  exact h name (Body.ofKey?_of_mem_leafNames hname)

/-- A mapping of one name compiles to what the filter of that name makes of its value. -/
theorem mapping_of_filter {filters : FilterSet} {name : String}
    (hname : Combinator.ofKey? name = none) {d : Descriptor} (hd : filters.find? name = some d)
    (default : Combinator) (value : Json) (table : BindTable) :
    (mapping filters default [(name, value)]).outcome table =
      (((Clause.compile name d value).outcome table).1.map Predicate.enclosed,
        ((Clause.compile name d value).outcome table).2) := by
  have hlone : ¬ IsLone [(name, value)] := by
    rintro ⟨key, value', combinator, hfields, hkey⟩
    cases hfields
    cases hname.symm.trans hkey
  rw [mapping_of_not_lone hlone, entries_singleton_outcome, entry_of_filter hname hd]

end Compile

theorem FilterSet.agree_without_keys (filters : FilterSet) :
    Compile.Agree filters (filters.without Combinator.IsKey) := by
  intro name hname
  have hkey : ¬ Combinator.IsKey name := by simp [Combinator.IsKey, hname]
  rw [find?_without, if_neg hkey]

/-- What a filter under the key of a combinator says has no influence on any body. -/
theorem Compiler.compile_without_keys (compiler : Compiler) (b : Body) (default : Combinator) :
    let reachable : Compiler :=
      { compiler with filters := compiler.filters.without Combinator.IsKey }
    compiler.compile b default = reachable.compile b default := by
  intro reachable
  rw [compile, compile, Compile.body_of_agree compiler.filters.agree_without_keys]

theorem Compiler.compile_of_filter {compiler : Compiler} {name : String}
    (hname : Combinator.ofKey? name = none) {d : Descriptor}
    (hd : compiler.filters.find? name = some d) {value : Json} {b : Body}
    (hb : b.fields? = some [(name, value)]) (default : Combinator) :
    let clause := (Clause.compile name d value).outcome (.empty compiler.table.stem)
    (compiler.compile b default).result =
      clause.1.map fun predicate => (predicate.enclosed, clause.2) := by
  intro clause
  have hbody := Compile.mapping_of_filter hname hd default value (.empty compiler.table.stem)
  rw [← Compile.body_of_fields hb] at hbody
  rw [compile_of_outcome hbody]
  show (clause.1.map Predicate.enclosed).map (fun predicate => (predicate, clause.2)) = _
  cases clause.1 with
  | error e => rfl
  | ok predicate => rfl

/-! ### Configured filters -/

namespace ConfigFile

theorem exists_of_stands {entries : List (String × Json)} {added : Assoc Descriptor}
    (h : List.Forall₂ Stands entries added) {name : String} {value : Json}
    (hmem : (name, value) ∈ entries) :
    ∃ d, (descriptor name value).result = .ok d ∧ (name, d) ∈ added := by
  induction h with
  | nil => cases hmem
  | @cons entry filter _ _ hstands _ ih =>
    rcases List.mem_cons.1 hmem with rfl | hmem
    · obtain ⟨name', d⟩ := filter
      obtain ⟨rfl, hd⟩ := hstands
      exact ⟨d, hd, List.mem_cons_self⟩
    · obtain ⟨d, hd, hadded⟩ := ih hmem
      exact ⟨d, hd, List.mem_cons_of_mem _ hadded⟩

/-- Every filter of a file is found under its name, as it is described there. -/
theorem find?_of_mem {file : ConfigFile} (hnames : (Assoc.keys file.filters).Nodup)
    {filters : FilterSet} (h : file.filterSet.result = .ok filters) {name : String} {value : Json}
    (hmem : (name, value) ∈ file.filters) :
    ∃ d, (descriptor name value).result = .ok d ∧ filters.find? name = some d := by
  have hempty : (FilterSet.empty.names ++ Assoc.keys file.filters).Nodup := hnames
  obtain ⟨added, hentries, hstands⟩ := addFilters_entries hempty h
  obtain ⟨d, hd, hadded⟩ := exists_of_stands hstands hmem
  refine ⟨d, hd, Assoc.find?_of_mem filters.nodup ?_⟩
  rw [hentries]
  exact hadded

/-- The names of the filters in a file are different. Where its filters make a set, each of them is
found there under its name; unless that is the key of a combinator, a body of that name alone
compiles to what the filter makes of the value, be it an error, the certainty that no row passes,
nothing, or a fragment that gets one more pair of parentheses, and to the same bind table. Filters
under the keys of combinators are never reached: every body compiles as without them. -/
theorem filters_reached :
    (∀ text file, parse text = .ok file → (Assoc.keys file.filters).Nodup) ∧
    ∀ (file : ConfigFile) (filters : FilterSet), (Assoc.keys file.filters).Nodup →
      file.filterSet.result = .ok filters →
      ∀ compiler : Compiler, compiler.filters = filters →
        (∀ name description, (name, description) ∈ file.filters →
          ∃ d, (descriptor name description).result = .ok d ∧ filters.find? name = some d ∧
            (Combinator.ofKey? name = none → ∀ (value : Json) (b : Body) (default : Combinator),
              b.fields? = some [(name, value)] →
              let clause := (Clause.compile name d value).outcome (.empty compiler.table.stem)
              (compiler.compile b default).result =
                clause.1.map fun predicate => (predicate.enclosed, clause.2))) ∧
        ∀ (b : Body) (default : Combinator),
          let reachable : Compiler := { compiler with filters := filters.without Combinator.IsKey }
          compiler.compile b default = reachable.compile b default := by
  constructor
  · intro text file hparse
    exact (isCollapsed_of_parse hparse).names
  · rintro file filters hnames h compiler rfl
    constructor
    · intro name description hmem
      obtain ⟨d, hd, hfind⟩ := find?_of_mem hnames h hmem
      exact ⟨d, hd, hfind, fun hname value b default hb =>
        Compiler.compile_of_filter hname hfind hb default⟩
    · exact compiler.compile_without_keys

/-- Filters on posts, one of them under the key of a combinator. -/
def reserved : ConfigFile where
  stem := none
  default := none
  filters := [
    ("all", .object [("type", .string "mapped_list"), ("field", .string "posts.tag")]),
    ("tag", .object [("type", .string "mapped_list"), ("field", .string "posts.tag")])]
  extra := []

/-- The text of that file. -/
def reservedText : String :=
  "\x7b\"filters\": \x7b" ++
    "\"all\": \x7b\"type\": \"mapped_list\", \"field\": \"posts.tag\"\x7d, " ++
    "\"tag\": \x7b\"type\": \"mapped_list\", \"field\": \"posts.tag\"\x7d\x7d\x7d"

/-- The filters in it. -/
def reservedFilters : FilterSet :=
  .ofList [("all", .ofKind .mappedList "posts.tag"), ("tag", .ofKind .mappedList "posts.tag")]

theorem parse_reservedText : parse reservedText = .ok reserved := by
  decide +kernel

theorem descriptor_tagged (name : String) :
    (descriptor name (.object [("type", .string "mapped_list"),
      ("field", .string "posts.tag")])).result = .ok (.ofKind .mappedList "posts.tag") := by
  have hfield : Text.isBlankText "posts.tag" = false := by decide +kernel
  have hkind : DescriptorConfig.checkedKind ⟨some .mappedList, "posts.tag", none, none, []⟩ =
      .ok .mappedList :=
    DescriptorConfig.checkedKind_eq_ok.2 ⟨rfl, by decide, fun _ => hfield⟩
  exact descriptor_object_eq_ok.2 ⟨_, .mappedList, .identity, rfl, hkind, rfl, rfl⟩

theorem filterSet_reserved : reserved.filterSet.result = .ok reservedFilters := by
  rw [filterSet, reserved, addFilters_cons_of_ok _ (descriptor_tagged "all"),
    addFilters_cons_of_ok _ (descriptor_tagged "tag")]
  rfl

/-- A filter under another name is reached, and the one under the key does not matter. -/
theorem filters_reached_reserved :
    ((Compiler.ofFilters reservedFilters).compile (.object [("tag", .string "rust")]) .any).result =
        .ok (.sql "((posts.tag IN (:p1)))", ⟨"p", #[.list [.text "rust"]]⟩) ∧
      ((Compiler.ofFilters reservedFilters).compile
          (.object [("all", .object [("tag", .string "rust")])]) .any).result =
        .ok (.sql "((posts.tag IN (:p1)))", ⟨"p", #[.list [.text "rust"]]⟩) := by
  obtain ⟨hnames, hreached⟩ := filters_reached
  obtain ⟨hfilter, hkeys⟩ := hreached reserved reservedFilters (hnames _ _ parse_reservedText)
    filterSet_reserved (.ofFilters reservedFilters) rfl
  constructor
  · obtain ⟨d, -, hd, hcompile⟩ := hfilter "tag" _ (List.mem_cons_of_mem _ List.mem_cons_self)
    cases hd
    rw [hcompile rfl (.string "rust") _ .any rfl]
    decide +kernel
  · rw [hkeys]
    decide +kernel

/-- Not every filter is reached under its name: under the key of a combinator, the lists of a set
filter are taken for names that have no filter. -/
theorem reserved_not_reached :
    ¬ ∀ (text : String) (file : ConfigFile) (filters : FilterSet), parse text = .ok file →
      file.filterSet.result = .ok filters →
      ∀ (name : String) (d : Descriptor), filters.find? name = some d →
        ∀ (value : Json) (default : Combinator),
          let clause := (Clause.compile name d value).outcome (.empty BindTable.defaultStem)
          ((Compiler.ofFilters filters).compile (.object [(name, value)]) default).result =
            clause.1.map fun predicate => (predicate.enclosed, clause.2) := by
  intro h
  have hall := h reservedText reserved reservedFilters parse_reservedText filterSet_reserved "all"
    (.ofKind .mappedList "posts.tag") rfl (.object [("only", .array [.string "rust"])]) .all
  have hcompile : ((Compiler.ofFilters reservedFilters).compile
      (.object [("all", .object [("only", .array [.string "rust"])])]) .all).result =
      .ok (.empty, .empty "p") := by
    decide +kernel
  have hclause : (Clause.compile "all" (.ofKind .mappedList "posts.tag")
      (.object [("only", .array [.string "rust"])])).outcome (.empty BindTable.defaultStem) =
      (.ok (.sql "(posts.tag IN (:p1))"), ⟨"p", #[.list [.text "rust"]]⟩) := by
    decide +kernel
  simp only [hcompile, hclause, Except.map, Predicate.enclosed] at hall
  cases hall

end ConfigFile

end Criteria
