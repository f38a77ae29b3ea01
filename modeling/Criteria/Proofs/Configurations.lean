import Criteria.App.Config
import Criteria.Proofs.Descriptions
import Criteria.Proofs.Faults
import Mathlib.Data.List.Forall2

/-!
# Configurations that were taken

The filters of a configuration file are checked once, in file order, and the first wrong one
counts. What was taken then cannot be at fault later: a compiler of such filters objects to bodies
only. Main statement: `ConfigFile.filters_validated`.
-/

namespace Criteria

/-! ### Objects without repeated keys -/

namespace Json

theorem nodup_keys_of_collapse {x : Json} {fields : List (String × Json)}
    (h : x.collapse = .object fields) : (Assoc.keys fields).Nodup := by
  cases x with
  | object fs =>
    rw [collapse] at h
    cases h
    exact Assoc.nodup_keys_ofPairs _
  | _ => cases h

theorem exists_of_mem_collapseFields {fs : List (String × Json)} {p : String × Json}
    (h : p ∈ collapseFields fs) : ∃ x : Json, p.2 = x.collapse := by
  induction fs with
  | nil => cases h
  | cons q rest ih =>
    obtain ⟨key, x⟩ := q
    rw [collapseFields] at h
    rcases List.mem_cons.1 h with rfl | hmem
    · exact ⟨x, rfl⟩
    · exact ih hmem

/-- The values of an object without repeated keys have no repeated keys either. -/
theorem exists_of_mem_of_collapse {x : Json} {fields : List (String × Json)}
    (h : x.collapse = .object fields) {p : String × Json} (hp : p ∈ fields) :
    ∃ y : Json, p.2 = y.collapse := by
  cases x with
  | object fs =>
    rw [collapse] at h
    cases h
    exact exists_of_mem_collapseFields (Assoc.mem_of_mem_ofPairs hp)
  | _ => cases h

end Json

namespace ConfigFile

/-- No name of a filter is repeated, and no key in the description of one. -/
structure IsCollapsed (file : ConfigFile) : Prop where
  names : (Assoc.keys file.filters).Nodup
  descriptions : ∀ entry ∈ file.filters, ∀ fields, entry.2 = .object fields →
    (Assoc.keys fields).Nodup

theorem readKey?_eq_some {α : Type} {key : String} {absent a : α} {read? : Json → Option α}
    {fields : List (String × Json)} (h : readKey? key absent read? fields = some a) :
    a = absent ∨ ∃ value, read? value = some a := by
  unfold readKey? at h
  split at h
  · cases h
    exact Or.inl rfl
  · exact Or.inr ⟨_, h⟩
  · cases h

theorem isCollapsed_of_parse {text : String} {file : ConfigFile} (h : parse text = .ok file) :
    file.IsCollapsed := by
  obtain ⟨fields, hfile⟩ : ∃ fields, ofFields? fields = some file := by
    unfold parse at h
    split at h
    · next fields hraw =>
      split at h
      · next found hfound =>
        cases h
        exact ⟨fields, hfound⟩
      · cases h
    · cases h
  -- the filters are a part of the collapsed document, or were not given
  have hfilters : file.filters = [] ∨ ∃ x : Json, x.collapse = .object file.filters := by
    simp only [ofFields?, Option.bind_eq_bind, Option.bind_eq_some_iff, Option.pure_def] at hfile
    obtain ⟨stem, -, default, -, filters, hread, heq⟩ := hfile
    cases heq
    rcases readKey?_eq_some hread with hnone | ⟨value, hvalue⟩
    · exact Or.inl hnone
    · refine Or.inr ⟨value, ?_⟩
      unfold readFilters? at hvalue
      split at hvalue
      · next hobject =>
        cases hvalue
        exact hobject
      · cases hvalue
  rcases hfilters with hnil | ⟨x, hx⟩
  · constructor
    · rw [hnil]
      exact List.nodup_nil
    · intro entry hentry
      rw [hnil] at hentry
      cases hentry
  · refine ⟨Json.nodup_keys_of_collapse hx, ?_⟩
    intro entry hentry fields hfields
    obtain ⟨y, hy⟩ := Json.exists_of_mem_of_collapse hx hentry
    exact Json.nodup_keys_of_collapse (hy.symm.trans hfields)

/-! ### Adding filters -/

section
variable {name : String} {value : Json} {rest : List (String × Json)} (filters : FilterSet)

theorem addFilters_cons_of_ok {d : Descriptor} (h : (descriptor name value).result = .ok d) :
    (addFilters filters ((name, value) :: rest)).result =
      (addFilters (filters.insert name d) rest).result := by
  rw [addFilters, Traced.result_bind, h]
  rfl

theorem addFilters_cons_of_error {e : FilterError} (h : (descriptor name value).result = .error e) :
    (addFilters filters ((name, value) :: rest)).result = .error e := by
  rw [addFilters, Traced.result_bind, h]
  rfl

end

/-- The description of a filter is taken. -/
def Takes (entry : String × Json) : Prop :=
  ∃ d, (descriptor entry.1 entry.2).result = .ok d

/-- Where the first filters are taken, the others are added to the set of them. -/
theorem addFilters_append {before : List (String × Json)} (h : ∀ entry ∈ before, Takes entry)
    (filters : FilterSet) : ∃ filters', ∀ rest,
      (addFilters filters (before ++ rest)).result = (addFilters filters' rest).result := by
  induction before generalizing filters with
  | nil => exact ⟨filters, fun _ => rfl⟩
  | cons entry before ih =>
    rw [List.forall_mem_cons] at h
    obtain ⟨d, hd⟩ := h.1
    obtain ⟨filters', hrest⟩ := ih h.2 (filters.insert entry.1 d)
    refine ⟨filters', fun rest => ?_⟩
    rw [List.cons_append, addFilters_cons_of_ok filters hd, hrest]

/-- A set comes out where all descriptions are taken. -/
theorem exists_addFilters_iff {entries : List (String × Json)} {filters : FilterSet} :
    (∃ filters', (addFilters filters entries).result = .ok filters') ↔
      ∀ entry ∈ entries, Takes entry := by
  constructor
  · rintro ⟨filters', h⟩
    induction entries generalizing filters with
    | nil => exact nofun
    | cons entry rest ih =>
      cases hd : (descriptor entry.1 entry.2).result with
      | error e =>
        rw [addFilters_cons_of_error filters hd] at h
        cases h
      | ok d =>
        rw [addFilters_cons_of_ok filters hd] at h
        exact List.forall_mem_cons.2 ⟨⟨d, hd⟩, ih h⟩
  · intro h
    -- a list that is taken is a front with nothing behind it
    obtain ⟨filters', hrest⟩ := addFilters_append h filters
    refine ⟨filters', ?_⟩
    rw [← entries.append_nil, hrest]
    rfl

/-- The first description that is not taken is what counts, whatever stands behind it. -/
theorem addFilters_eq_error {entries : List (String × Json)} {filters : FilterSet}
    {e : FilterError} :
    (addFilters filters entries).result = .error e ↔ ∃ before name value after,
      entries = before ++ (name, value) :: after ∧ (∀ entry ∈ before, Takes entry) ∧
        (descriptor name value).result = .error e := by
  constructor
  · intro h
    induction entries generalizing filters with
    | nil => cases h
    | cons entry rest ih =>
      obtain ⟨name, value⟩ := entry
      cases hd : (descriptor name value).result with
      | error e' =>
        rw [addFilters_cons_of_error filters hd] at h
        cases h
        exact ⟨[], name, value, rest, rfl, nofun, hd⟩
      | ok d =>
        rw [addFilters_cons_of_ok filters hd] at h
        obtain ⟨before, name', value', after, rfl, hbefore, he⟩ := ih h
        exact ⟨(name, value) :: before, name', value', after, rfl,
          List.forall_mem_cons.2 ⟨⟨d, hd⟩, hbefore⟩, he⟩
  · rintro ⟨before, name, value, after, rfl, hbefore, he⟩
    obtain ⟨filters', hrest⟩ := addFilters_append hbefore filters
    rw [hrest, addFilters_cons_of_error filters' he]

/-- A filter of a set is that of a description. -/
def Stands (entry : String × Json) (filter : String × Descriptor) : Prop :=
  filter.1 = entry.1 ∧ (descriptor entry.1 entry.2).result = .ok filter.2

theorem keys_of_stands {entries : List (String × Json)} {added : Assoc Descriptor}
    (h : List.Forall₂ Stands entries added) : Assoc.keys added = Assoc.keys entries := by
  induction h with
  | nil => rfl
  | cons hstands _ ih => rw [Assoc.keys_cons, Assoc.keys_cons, hstands.1, ih]

/-- Filters with new names stand behind the others, in the order of their descriptions. -/
theorem addFilters_entries {entries : List (String × Json)} {filters filters' : FilterSet}
    (hnodup : (filters.names ++ Assoc.keys entries).Nodup)
    (h : (addFilters filters entries).result = .ok filters') :
    ∃ added, filters'.entries = filters.entries ++ added ∧ List.Forall₂ Stands entries added := by
  induction entries generalizing filters with
  | nil =>
    cases h
    exact ⟨[], (List.append_nil _).symm, .nil⟩
  | cons entry rest ih =>
    obtain ⟨name, value⟩ := entry
    cases hd : (descriptor name value).result with
    | error e =>
      rw [addFilters_cons_of_error filters hd] at h
      cases h
    | ok d =>
      rw [addFilters_cons_of_ok filters hd] at h
      -- a new name goes to the end of the set, and stays new for the descriptions behind it
      have hname : name ∉ filters.names := by
        intro hmem
        exact (List.nodup_append.1 hnodup).2.2 name hmem name List.mem_cons_self rfl
      have hentries : (filters.insert name d).entries = filters.entries ++ [(name, d)] :=
        Assoc.insert_of_notMem hname d
      have hnames : (filters.insert name d).names = filters.names ++ [name] := by
        rw [FilterSet.names, hentries, Assoc.keys, List.map_append]
        rfl
      obtain ⟨added, hadded, hstands⟩ := ih (by
        rw [hnames, List.append_assoc]
        exact hnodup) h
      refine ⟨(name, d) :: added, ?_, .cons ⟨rfl, hd⟩ hstands⟩
      rw [hadded, hentries, List.append_assoc]
      rfl

/-- Only usable filters are added. -/
theorem addFilters_usable {entries : List (String × Json)} {filters filters' : FilterSet}
    (hfilters : ∀ name d, filters.find? name = some d → d.IsUsable)
    (h : (addFilters filters entries).result = .ok filters') :
    ∀ name d, filters'.find? name = some d → d.IsUsable := by
  induction entries generalizing filters with
  | nil =>
    cases h
    exact hfilters
  | cons entry rest ih =>
    obtain ⟨name, value⟩ := entry
    cases hd : (descriptor name value).result with
    | error e =>
      rw [addFilters_cons_of_error filters hd] at h
      cases h
    | ok d =>
      rw [addFilters_cons_of_ok filters hd] at h
      refine ih ?_ h
      intro name' d' hfind
      rw [FilterSet.find?_insert] at hfind
      split at hfind
      · cases hfind
        exact descriptor_usable hd
      · exact hfilters name' d' hfind

theorem filterSet_usable {file : ConfigFile} {filters : FilterSet}
    (h : file.filterSet.result = .ok filters) (name : String) (d : Descriptor)
    (hd : filters.find? name = some d) : d.IsUsable := by
  refine addFilters_usable ?_ h name d hd
  intro name d hd
  rw [FilterSet.find?_empty] at hd
  cases hd

end ConfigFile

/-- The filters of a configuration are those of its file. -/
theorem AppConfig.filterSet_of_ofFile {path : String} {file : ConfigFile} {config : AppConfig}
    (h : (ofFile path file).result = .ok config) : file.filterSet.result = .ok config.filters := by
  by_cases hstem : isStem (file.stem.getD BindTable.defaultStem) = true
  · simp only [ofFile, hstem, if_true] at h
    obtain ⟨filters, hfilters, heq⟩ := Traced.result_bind_eq_ok h
    cases heq
    exact Except.mapError_eq_ok hfilters
  · simp only [ofFile, hstem] at h
    cases h

theorem AppConfig.ofFile_of_filterSet {file : ConfigFile}
    (hstem : isStem (file.stem.getD BindTable.defaultStem) = true) {filters : FilterSet}
    (h : file.filterSet.result = .ok filters) (path : String) :
    (ofFile path file).result =
      .ok ⟨path, filters, file.stem.getD BindTable.defaultStem, file.default.getD .all⟩ := by
  simp only [ofFile, hstem, if_true]
  rw [Traced.result_bind, Traced.mapError, h]
  rfl

/-! ### Files that parse -/

namespace ConfigFile.IsCollapsed

section
variable {file : ConfigFile} (hfile : file.IsCollapsed) {before after : List (String × Json)}
include hfile

theorem takes_iff {entry : String × Json} (h : entry ∈ file.filters) :
    Takes entry ↔ DescribesFilter entry.2 :=
  descriptor_isOk_iff (hfile.descriptions entry h)

theorem forall_takes_iff {rest : List (String × Json)} (h : file.filters = before ++ rest) :
    (∀ entry ∈ before, Takes entry) ↔ ∀ entry ∈ before, DescribesFilter entry.2 :=
  forall₂_congr fun _ hentry => hfile.takes_iff (h ▸ List.mem_append_left _ hentry)

theorem exists_filterSet_iff : (∃ filters, file.filterSet.result = .ok filters) ↔
    ∀ entry ∈ file.filters, DescribesFilter entry.2 := by
  rw [filterSet, exists_addFilters_iff]
  exact hfile.forall_takes_iff (List.append_nil _).symm

theorem filterSet_eq_error_iff {e : FilterError} : file.filterSet.result = .error e ↔
    ∃ before name value after, file.filters = before ++ (name, value) :: after ∧
      (∀ entry ∈ before, DescribesFilter entry.2) ∧ ¬ DescribesFilter value ∧
      (descriptor name value).result = .error e := by
  rw [filterSet, addFilters_eq_error]
  constructor
  · rintro ⟨before, name, value, after, hfilters, hbefore, he⟩
    refine ⟨before, name, value, after, hfilters,
      (hfile.forall_takes_iff hfilters).1 hbefore, ?_, he⟩
    -- a description of a filter would have been taken
    intro hdescribes
    have hmem : (name, value) ∈ file.filters := by simp [hfilters]
    obtain ⟨d, hd⟩ := (hfile.takes_iff hmem).2 hdescribes
    cases hd.symm.trans he
  · rintro ⟨before, name, value, after, hfilters, hbefore, -, he⟩
    exact ⟨before, name, value, after, hfilters, (hfile.forall_takes_iff hfilters).2 hbefore, he⟩

/-- Behind the first description that is none, the file may be anything. -/
theorem exists_first_fault {name : String} {value : Json}
    (hfilters : file.filters = before ++ (name, value) :: after)
    (hbefore : ∀ entry ∈ before, DescribesFilter entry.2) (hvalue : ¬ DescribesFilter value) :
    ∃ fault, ∀ after',
      ({ file with filters := before ++ (name, value) :: after' }).filterSet.result =
        .error (.config (.filter name fault)) := by
  have hmem : (name, value) ∈ file.filters := by simp [hfilters]
  cases hd : (descriptor name value).result with
  | ok d => exact absurd ((hfile.takes_iff hmem).1 ⟨d, hd⟩) hvalue
  | error e =>
    obtain ⟨fault, rfl⟩ := descriptor_error hd
    refine ⟨fault, fun after' => ?_⟩
    exact addFilters_eq_error.2
      ⟨before, name, value, after', rfl, (hfile.forall_takes_iff hfilters).2 hbefore, hd⟩

/-- The set is the file, entry by entry. -/
theorem forall₂_stands {filters : FilterSet} (h : file.filterSet.result = .ok filters) :
    List.Forall₂ Stands file.filters filters.entries := by
  obtain ⟨added, hadded, hstands⟩ := @addFilters_entries file.filters .empty filters hfile.names h
  have hentries : filters.entries = added := hadded
  rw [hentries]
  exact hstands

end

end ConfigFile.IsCollapsed

/-- The filters of a file make a set if each of its descriptions is one; otherwise the first that is
none is the error, whatever stands behind it. The set has the names of the file in their order, each
with what its description says, and nothing in it can fail but for the body that it is applied
to. -/
theorem ConfigFile.filters_validated :
    (∀ text file, parse text = .ok file →
      ((∃ filters, file.filterSet.result = .ok filters) ↔
        ∀ entry ∈ file.filters, DescribesFilter entry.2) ∧
      (∀ e, file.filterSet.result = .error e ↔ ∃ before name value after,
        file.filters = before ++ (name, value) :: after ∧
          (∀ entry ∈ before, DescribesFilter entry.2) ∧ ¬ DescribesFilter value ∧
          (descriptor name value).result = .error e) ∧
      (∀ before name value after, file.filters = before ++ (name, value) :: after →
        (∀ entry ∈ before, DescribesFilter entry.2) → ¬ DescribesFilter value →
        ∃ fault, ∀ after',
          ({ file with filters := before ++ (name, value) :: after' }).filterSet.result =
            .error (.config (.filter name fault))) ∧
      ∀ filters, file.filterSet.result = .ok filters →
        filters.names = Assoc.keys file.filters ∧
        List.Forall₂ Stands file.filters filters.entries ∧
        ∀ name d, filters.find? name = some d → d.IsUsable) ∧
    ∀ path file config, (AppConfig.ofFile path file).result = .ok config → ∀ b default e,
      (config.compiler.compile b default).result = .error e ∨
        (config.compiler.generate b default).1.result = .error e → e.IsOfBody := by
  constructor
  · intro text file hparse
    have hfile : file.IsCollapsed := isCollapsed_of_parse hparse
    refine ⟨hfile.exists_filterSet_iff, fun _ => hfile.filterSet_eq_error_iff, ?_, ?_⟩
    · intro before name value after hfilters hbefore hvalue
      exact hfile.exists_first_fault hfilters hbefore hvalue
    · intro filters h
      have hstands : List.Forall₂ Stands file.filters filters.entries := hfile.forall₂_stands h
      exact ⟨keys_of_stands hstands, hstands, filterSet_usable h⟩
  · -- a configuration has usable filters only, and those are at fault for no body
    intro path file config h b default e he
    have husable := filterSet_usable (AppConfig.filterSet_of_ofFile h)
    have hcustom : config.compiler.filters.NoCustom := fun name d hd => (husable name d hd).kind
    exact Compiler.error_isOfBody hcustom he

/-! ### A configuration that is taken and one that is not -/

namespace ConfigFile

/-- Filters on posts by their author, in some order. -/
def authored : ConfigFile where
  stem := none
  default := some .any
  filters := [
    ("author", .object [("field", .string "posts.author_id"), ("type", .string "reference")]),
    ("order", .object [("type", .object [("passthrough", .null)])])]
  extra := []

/-- The text of that file; the field of the author is given twice. -/
def authoredText : String :=
  "\x7b\"default_combinator\": \"any\", \"filters\": \x7b\"author\": \x7b\"field\": 1, " ++
    "\"type\": \"reference\", \"field\": \"posts.author_id\"\x7d, " ++
    "\"order\": \x7b\"type\": \x7b\"passthrough\": null\x7d\x7d\x7d\x7d"

/-- Filters two of which cannot be configured by a file, the first of them being a custom one. -/
def scored : ConfigFile where
  stem := none
  default := none
  filters := [
    ("order", .object [("type", .string "passthrough")]),
    ("score", .object [("type", .string "custom")]),
    ("tag", .object [("type", .string "mapped_list")])]
  extra := []

/-- The text of that file. -/
def scoredText : String :=
  "\x7b\"filters\": \x7b\"order\": \x7b\"type\": \"passthrough\"\x7d, " ++
    "\"score\": \x7b\"type\": \"custom\"\x7d, \"tag\": \x7b\"type\": \"mapped_list\"\x7d\x7d\x7d"

deriving instance DecidableEq for ConfigFile

theorem parse_authoredText : parse authoredText = .ok authored := by
  decide +kernel

theorem parse_scoredText : parse scoredText = .ok scored := by
  decide +kernel

theorem describesFilter_passthrough (value : Json) (h : NamesKind value .passthrough) :
    DescribesFilter (.object [("type", value)]) := by
  refine ⟨_, rfl, ⟨value, .passthrough, rfl, h, nofun, fun hne => absurd rfl hne⟩, ?_, ?_, ?_⟩
  · intro _ hfield
    cases hfield
  · intro _ hconvert
    cases hconvert
  · intro _ hclass
    cases hclass

theorem describesFilter_authored : ∀ entry ∈ authored.filters, DescribesFilter entry.2 := by
  have hfield : Text.isBlankText "posts.author_id" = false := by decide +kernel
  refine List.forall_mem_cons.2 ⟨?_, List.forall_mem_singleton.2 ?_⟩
  · have hkind : Kind.reference ≠ .custom := by decide
    refine ⟨_, rfl, ⟨.string "reference", .reference, rfl, .name .reference, hkind, ?_⟩, ?_, ?_, ?_⟩
    · intro _
      exact ⟨"posts.author_id", rfl, hfield⟩
    · rintro _ ⟨⟩
      exact ⟨"posts.author_id", rfl⟩
    · intro _ hconvert
      cases hconvert
    · intro _ hclass
      cases hclass
  · exact describesFilter_passthrough _ (.key .passthrough)

/-- The custom filter is the error, not the filter without a field behind it. -/
theorem filters_validated_authored :
    (∃ filters, authored.filterSet.result = .ok filters ∧ filters.names = ["author", "order"]) ∧
      scored.filterSet.result = .error (.config (.filter "score" .customInFile)) ∧
      ∃ config, (AppConfig.ofFile "posts.json" authored).result = .ok config ∧
        ∃ e, (config.compiler.compile (.json .null) .all).result = .error e ∧ e.IsOfBody := by
  obtain ⟨hfile, hquery⟩ := filters_validated
  obtain ⟨hok, -, -, hset⟩ := hfile authoredText authored parse_authoredText
  obtain ⟨-, herror, -⟩ := hfile scoredText scored parse_scoredText
  obtain ⟨filters, hfilters⟩ := hok.2 describesFilter_authored
  refine ⟨⟨filters, hfilters, (hset filters hfilters).1⟩, ?_, ?_⟩
  · have hscore : (descriptor "score" (.object [("type", .string "custom")])).result =
        .error (.config (.filter "score" .customInFile)) := by
      cbv
    have hcustom : ¬ DescribesFilter (.object [("type", .string "custom")]) := by
      intro h
      obtain ⟨d, hd⟩ := (@descriptor_isOk_iff "score" _ (by rintro _ ⟨⟩; decide)).2 h
      cases hd.symm.trans hscore
    refine (herror _).2 ⟨[("order", .object [("type", .string "passthrough")])], "score", _, _, rfl,
      ?_, hcustom, hscore⟩
    exact List.forall_mem_singleton.2 (describesFilter_passthrough _ (.name .passthrough))
  · have hconfig := AppConfig.ofFile_of_filterSet (by decide) hfilters "posts.json"
    have hcompile (config : AppConfig) : (config.compiler.compile (.json .null) .all).result =
        .error (.invalidBody .notMapping) :=
      Compiler.compile_of_outcome (Compile.body_of_no_fields rfl _ _ _)
    refine ⟨_, hconfig, _, hcompile _, ?_⟩
    exact hquery _ _ _ hconfig _ _ _ (Or.inl (hcompile _))

end ConfigFile

end Criteria
