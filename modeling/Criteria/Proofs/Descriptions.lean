import Criteria.Config.File

/-!
# Descriptions of filters

What the object of a filter in a configuration file must hold, apart from the order in which its
keys stand and are checked. Main statements: `descriptor_isOk_iff` for the descriptions that are
taken, and `descriptor_usable` for the descriptors that come out of them.
-/

namespace Criteria

/-- How a kind is written: its name, or an object with the name as its only key. -/
inductive NamesKind : Json → Kind → Prop
  | name (kind : Kind) : NamesKind (.string kind.name) kind
  | key (kind : Kind) : NamesKind (.object [(kind.name, .null)]) kind

/-- The keys of an object describe a filter. It has a kind that a file may configure, and a field
unless it never restricts; a conversion that it names exists, and all texts are texts. -/
structure IsDescription (fields : Assoc Json) : Prop where
  kind : ∃ value kind, Assoc.find? "type" fields = some value ∧ NamesKind value kind ∧
    kind ≠ .custom ∧
    (kind ≠ .passthrough → ∃ field, Assoc.find? "field" fields = some (.string field) ∧
      Text.isBlankText field = false)
  field : ∀ value, Assoc.find? "field" fields = some value → ∃ field, value = .string field
  convert : ∀ value, Assoc.find? "convert" fields = some value →
    value = .null ∨ ∃ name, value = .string name ∧ (Convert.ofName? name).isSome
  className : ∀ value, Assoc.find? "class_name" fields = some value →
    value = .null ∨ ∃ name, value = .string name

/-- A value describes a filter. -/
def DescribesFilter (value : Json) : Prop :=
  ∃ fields, value = .object fields ∧ IsDescription fields

/-- A descriptor that needs no generator, and has a field unless it never restricts. -/
structure Descriptor.IsUsable (d : Descriptor) : Prop where
  kind : d.kind ≠ .custom
  generator : d.generator = none
  field : d.kind ≠ .passthrough → Text.isBlankText d.field = false

namespace DescriptorConfig

/-! ### Values of single keys -/

theorem kindOfName_eq_ok {name : String} {kind : Kind} :
    kindOfName name = .ok kind ↔ name = kind.name := by
  constructor
  · intro h
    rw [kindOfName] at h
    split at h
    · next found hfound =>
      cases h
      have hname := List.find?_some (p := fun kind : Kind => kind.name == name) hfound
      exact (beq_iff_eq.1 hname).symm
    · cases h
  · rintro rfl
    rw [kindOfName, Kind.ofName?_name]

theorem readKind_eq_ok {value : Json} {kind : Kind} :
    readKind value = .ok kind ↔ NamesKind value kind := by
  constructor
  · intro h
    unfold readKind at h
    split at h
    · rw [kindOfName_eq_ok.1 h]
      exact .name kind
    · next name content =>
      obtain ⟨found, hname, hcontent⟩ := Except.bind_eq_ok h
      cases content with
      | null =>
        cases hcontent
        rw [kindOfName_eq_ok.1 hname]
        exact .key kind
      | _ => cases hcontent
    · cases h
    · cases h
  · intro h
    cases h with
    | name => exact kindOfName_eq_ok.2 rfl
    | key =>
      have hname : kindOfName kind.name = .ok kind := kindOfName_eq_ok.2 rfl
      rw [readKind, hname]
      rfl

theorem readText_eq_ok {value : Json} {s : String} :
    readText value = .ok s ↔ value = .string s := by
  constructor
  · intro h
    cases value with
    | string t =>
      cases h
      rfl
    | _ => cases h
  · rintro rfl
    rfl

theorem readText?_eq_ok {value : Json} {o : Option String} :
    readText? value = .ok o ↔ (value = .null ∧ o = none) ∨ ∃ s, value = .string s ∧ o = some s := by
  constructor
  · intro h
    cases value with
    | null =>
      cases h
      exact Or.inl ⟨rfl, rfl⟩
    | string s =>
      cases h
      exact Or.inr ⟨s, rfl, rfl⟩
    | _ => cases h
  · rintro (⟨rfl, rfl⟩ | ⟨s, rfl, rfl⟩)
    · rfl
    · rfl

/-! ### All keys -/

/-- What is known of a part of a description after the value under its key has been read, if there
is one. -/
def Updated {β : Type} (read : Json → Except DescriptorFault β) (found : Option Json)
    (before after : β) : Prop :=
  match found with
  | none => after = before
  | some value => read value = .ok after

/-- The first key of an object sets a part, or the keys behind it do. -/
theorem Updated.cons {β : Type} {read : Json → Except DescriptorFault β} {key k : String}
    {value : Json} {rest : Assoc Json} {x y z : β} (hk : k ∉ Assoc.keys rest)
    (hfirst : Updated read (Assoc.find? key [(k, value)]) x y)
    (hrest : Updated read (Assoc.find? key rest) y z) :
    Updated read (Assoc.find? key ((k, value) :: rest)) x z := by
  rw [Assoc.find?_cons] at hfirst ⊢
  by_cases hkey : k = key
  · subst hkey
    rw [(Assoc.find?_eq_none_iff k rest).2 hk] at hrest
    rw [if_pos rfl] at hfirst ⊢
    cases hrest
    exact hfirst
  · rw [if_neg hkey] at hfirst ⊢
    cases hfirst
    exact hrest

/-- Each key that means something sets a part of its own. -/
theorem readEntry_eq_ok {d d' : DescriptorConfig} {key : String} {value : Json}
    (h : readEntry d key value = .ok d') :
    (key = "type" ∧ ∃ kind, NamesKind value kind ∧ d' = { d with kind := some kind }) ∨
    (key = "field" ∧ ∃ s, value = .string s ∧ d' = { d with field := s }) ∨
    (key = "convert" ∧ ∃ o, readText? value = .ok o ∧ d' = { d with convert := o }) ∨
    (key = "class_name" ∧ ∃ o, readText? value = .ok o ∧ d' = { d with className := o }) ∨
    (key ∉ ["type", "field", "convert", "class_name"] ∧
      d' = { d with unknown := d.unknown ++ [key] }) := by
  unfold readEntry at h
  split at h
  · obtain ⟨kind, hkind, heq⟩ := Except.bind_eq_ok h
    cases heq
    exact Or.inl ⟨rfl, kind, readKind_eq_ok.1 hkind, rfl⟩
  · obtain ⟨s, hs, heq⟩ := Except.bind_eq_ok h
    cases heq
    exact Or.inr (Or.inl ⟨rfl, s, readText_eq_ok.1 hs, rfl⟩)
  · obtain ⟨o, ho, heq⟩ := Except.bind_eq_ok h
    cases heq
    exact Or.inr (Or.inr (Or.inl ⟨rfl, o, ho, rfl⟩))
  · obtain ⟨o, ho, heq⟩ := Except.bind_eq_ok h
    cases heq
    exact Or.inr (Or.inr (Or.inr (Or.inl ⟨rfl, o, ho, rfl⟩)))
  · next htype hfield hconvert hclass =>
    cases h
    refine Or.inr (Or.inr (Or.inr (Or.inr ⟨?_, rfl⟩)))
    simp only [List.mem_cons, List.not_mem_nil, or_false, not_or]
    exact ⟨htype, hfield, hconvert, hclass⟩

/-- The parts of a description after some keys have been read. -/
structure Reads (fields : Assoc Json) (d d' : DescriptorConfig) : Prop where
  kind : Updated (fun value => (readKind value).map some) (Assoc.find? "type" fields) d.kind d'.kind
  field : Updated readText (Assoc.find? "field" fields) d.field d'.field
  convert : Updated readText? (Assoc.find? "convert" fields) d.convert d'.convert
  className : Updated readText? (Assoc.find? "class_name" fields) d.className d'.className

theorem readEntry_reads {d d' : DescriptorConfig} {key : String} {value : Json}
    (h : readEntry d key value = .ok d') : Reads [(key, value)] d d' := by
  rcases readEntry_eq_ok h with
    ⟨rfl, kind, hkind, rfl⟩ | ⟨rfl, s, hs, rfl⟩ | ⟨rfl, o, ho, rfl⟩ | ⟨rfl, o, ho, rfl⟩ |
      ⟨hkey, rfl⟩
  · refine ⟨?_, rfl, rfl, rfl⟩
    show (readKind value).map some = .ok (some kind)
    rw [readKind_eq_ok.2 hkind]
    rfl
  · exact ⟨rfl, readText_eq_ok.2 hs, rfl, rfl⟩
  · exact ⟨rfl, rfl, ho, rfl⟩
  · exact ⟨rfl, rfl, rfl, ho⟩
  · simp only [List.mem_cons, List.not_mem_nil, or_false, not_or] at hkey
    obtain ⟨htype, hfield, hconvert, hclass⟩ := hkey
    constructor
    · rw [Assoc.find?_cons, if_neg htype]
      rfl
    · rw [Assoc.find?_cons, if_neg hfield]
      rfl
    · rw [Assoc.find?_cons, if_neg hconvert]
      rfl
    · rw [Assoc.find?_cons, if_neg hclass]
      rfl

theorem readEntries_reads {fields : Assoc Json} (hnodup : (Assoc.keys fields).Nodup)
    {d d' : DescriptorConfig} (h : readEntries d fields = .ok d') : Reads fields d d' := by
  induction fields generalizing d with
  | nil =>
    cases h
    exact ⟨rfl, rfl, rfl, rfl⟩
  | cons entry rest ih =>
    obtain ⟨key, value⟩ := entry
    rw [Assoc.keys_cons, List.nodup_cons] at hnodup
    rw [readEntries] at h
    split at h
    · next between hbetween =>
      have hfirst := readEntry_reads hbetween
      have hrest := ih hnodup.2 h
      exact ⟨.cons hnodup.1 hfirst.kind hrest.kind, .cons hnodup.1 hfirst.field hrest.field,
        .cons hnodup.1 hfirst.convert hrest.convert,
        .cons hnodup.1 hfirst.className hrest.className⟩
    · cases h

/-- Whatever was read before, a key is taken if its value is of the right type. -/
theorem exists_readEntry {key : String} {value : Json}
    (hkind : key = "type" → ∃ kind, NamesKind value kind)
    (hfield : key = "field" → ∃ s, value = .string s)
    (htext : key = "convert" ∨ key = "class_name" → value = .null ∨ ∃ s, value = .string s)
    (d : DescriptorConfig) : ∃ d', readEntry d key value = .ok d' := by
  have htext? (h : value = .null ∨ ∃ s, value = .string s) : ∃ o, readText? value = .ok o := by
    rcases h with rfl | ⟨s, rfl⟩
    · exact ⟨none, rfl⟩
    · exact ⟨some s, rfl⟩
  unfold readEntry
  split
  · obtain ⟨kind, hnames⟩ := hkind rfl
    rw [readKind_eq_ok.2 hnames]
    exact ⟨_, rfl⟩
  · obtain ⟨s, rfl⟩ := hfield rfl
    exact ⟨_, rfl⟩
  · obtain ⟨o, ho⟩ := htext? (htext (Or.inl rfl))
    rw [ho]
    exact ⟨_, rfl⟩
  · obtain ⟨o, ho⟩ := htext? (htext (Or.inr rfl))
    rw [ho]
    exact ⟨_, rfl⟩
  · exact ⟨_, rfl⟩

theorem exists_readEntries {fields : List (String × Json)}
    (h : ∀ key value, (key, value) ∈ fields → ∀ d, ∃ d', readEntry d key value = .ok d')
    (d : DescriptorConfig) : ∃ d', readEntries d fields = .ok d' := by
  induction fields generalizing d with
  | nil => exact ⟨d, rfl⟩
  | cons entry rest ih =>
    obtain ⟨key, value⟩ := entry
    obtain ⟨between, hbetween⟩ := h key value List.mem_cons_self d
    rw [readEntries, hbetween]
    exact ih (fun key value hmem => h key value (List.mem_cons_of_mem _ hmem)) between

/-! ### Checks on a description -/

theorem checkedKind_eq_ok {x : DescriptorConfig} {kind : Kind} :
    x.checkedKind = .ok kind ↔ x.kind = some kind ∧ kind ≠ .custom ∧
      (kind ≠ .passthrough → Text.isBlankText x.field = false) := by
  constructor
  · intro h
    unfold checkedKind at h
    split at h
    · cases h
    · cases h
    · next hkind =>
      cases h
      exact ⟨hkind, nofun, fun hne => absurd rfl hne⟩
    · next found hcustom hpassthrough hkind =>
      split at h
      · cases h
      · next hblank =>
        cases h
        exact ⟨hkind, hcustom, fun _ => Bool.not_eq_true _ ▸ hblank⟩
  · rintro ⟨hkind, hcustom, hfield⟩
    rw [checkedKind, hkind]
    cases kind with
    | custom => exact absurd rfl hcustom
    | passthrough => rfl
    | _ => simp only [hfield nofun, Bool.false_eq_true, if_false]

theorem exists_readConvert {o : Option String} :
    (∃ convert, readConvert o = .ok convert) ↔
      ∀ name, o = some name → (Convert.ofName? name).isSome := by
  cases o with
  | none => exact ⟨fun _ => nofun, fun _ => ⟨.identity, rfl⟩⟩
  | some name =>
    rw [readConvert]
    cases hname : Convert.ofName? name with
    | none =>
      constructor
      · rintro ⟨convert, ⟨⟩⟩
      · intro h
        have hsome := h name rfl
        rw [hname] at hsome
        cases hsome
    | some convert =>
      refine ⟨?_, fun _ => ⟨convert, rfl⟩⟩
      rintro _ _ ⟨⟩
      rw [hname]
      rfl

/-- What was read and passed the checks is a description. -/
theorem isDescription_of_checked {fields : Assoc Json} {x : DescriptorConfig}
    (h : Reads fields blank x) {kind : Kind} (hkind : x.checkedKind = .ok kind) {convert : Convert}
    (hconvert : readConvert x.convert = .ok convert) : IsDescription fields := by
  obtain ⟨htype, hfield, htext, hclass⟩ := h
  obtain ⟨hx, hcustom, hblank⟩ := checkedKind_eq_ok.1 hkind
  -- what a part was read as says what its value is, and its default that there is none
  constructor
  · cases hvalue : Assoc.find? "type" fields with
    | none =>
      rw [hvalue] at htype
      cases hx.symm.trans htype
    | some value =>
      have hread : readKind value = .ok kind := by
        rw [hvalue, hx, Updated] at htype
        obtain ⟨found, hfound, heq⟩ := Except.map_eq_ok htype
        cases heq
        exact hfound
      refine ⟨value, kind, rfl, readKind_eq_ok.1 hread, hcustom, ?_⟩
      intro hne
      cases hvalue : Assoc.find? "field" fields with
      | none =>
        rw [hvalue] at hfield
        cases hfield ▸ hblank hne
      | some value =>
        rw [hvalue] at hfield
        rw [readText_eq_ok.1 hfield]
        exact ⟨x.field, rfl, hblank hne⟩
  · intro value hvalue
    rw [hvalue] at hfield
    exact ⟨x.field, readText_eq_ok.1 hfield⟩
  · intro value hvalue
    rw [hvalue] at htext
    rcases readText?_eq_ok.1 htext with ⟨hnull, -⟩ | ⟨name, hname, hsome⟩
    · exact Or.inl hnull
    · exact Or.inr ⟨name, hname, exists_readConvert.1 ⟨convert, hconvert⟩ name hsome⟩
  · intro value hvalue
    rw [hvalue] at hclass
    rcases readText?_eq_ok.1 hclass with ⟨hnull, -⟩ | ⟨name, hname, -⟩
    · exact Or.inl hnull
    · exact Or.inr ⟨name, hname⟩

/-- All keys of a description are read. -/
theorem IsDescription.exists_reads {fields : Assoc Json} (hnodup : (Assoc.keys fields).Nodup)
    (h : IsDescription fields) : ∃ x, readEntries blank fields = .ok x := by
  obtain ⟨typeValue, kind, htype, hnames, -, -⟩ := h.kind
  refine exists_readEntries ?_ blank
  intro key value hmem
  -- no key is there twice, so the entry under a key is what is looked up
  have hfind := Assoc.find?_of_mem hnodup hmem
  apply exists_readEntry
  · rintro rfl
    rw [htype] at hfind
    cases hfind
    exact ⟨kind, hnames⟩
  · rintro rfl
    exact h.field value hfind
  · rintro (rfl | rfl)
    · exact (h.convert value hfind).imp_right fun ⟨name, hname, _⟩ => ⟨name, hname⟩
    · exact h.className value hfind

/-- What was read of a description passes the checks. -/
theorem IsDescription.exists_checked {fields : Assoc Json} {x : DescriptorConfig}
    (h : IsDescription fields) (hx : Reads fields blank x) :
    (∃ kind, x.checkedKind = .ok kind) ∧ ∃ convert, readConvert x.convert = .ok convert := by
  obtain ⟨htype, hfield, htext, -⟩ := hx
  constructor
  · obtain ⟨value, kind, hvalue, hnames, hcustom, hgiven⟩ := h.kind
    rw [hvalue, Updated, readKind_eq_ok.2 hnames] at htype
    -- the kind that was read is the one that the description names
    have hkind : x.kind = some kind := (Except.ok.inj htype).symm
    refine ⟨kind, checkedKind_eq_ok.2 ⟨hkind, hcustom, ?_⟩⟩
    intro hne
    obtain ⟨field, hvalue, hblank⟩ := hgiven hne
    rw [hvalue] at hfield
    cases readText_eq_ok.1 hfield
    exact hblank
  · apply exists_readConvert.2
    intro name hname
    cases hvalue : Assoc.find? "convert" fields with
    | none =>
      rw [hvalue] at htext
      cases hname.symm.trans htext
    | some value =>
      rw [hvalue] at htext
      rcases h.convert value hvalue with rfl | ⟨known, rfl, hknown⟩
      · cases hname ▸ htext
      · cases hname ▸ htext
        exact hknown

theorem toDescriptor_result (name : String) (x : DescriptorConfig) :
    (toDescriptor name x).result = x.checkedKind.bind fun kind =>
      (readConvert x.convert).map fun convert =>
        { Descriptor.ofKind kind x.field with convert, className := x.className } := by
  rw [toDescriptor, Traced.result_bind]
  cases hkind : x.checkedKind with
  | error fault => rfl
  | ok kind =>
    cases hconvert : readConvert x.convert with
    | error fault => rfl
    | ok convert => rfl

end DescriptorConfig

namespace ConfigFile

open DescriptorConfig

theorem descriptor_object_result (name : String) (fields : List (String × Json)) :
    (descriptor name (.object fields)).result =
      ((readEntries blank fields).bind fun x => (toDescriptor name x).result).mapError
        fun fault => .config (.filter name fault) := by
  rw [descriptor, Traced.mapError, Traced.result_bind]
  rfl

theorem descriptor_result_of_not_object {value : Json} (h : ∀ fields, value ≠ .object fields)
    (name : String) :
    (descriptor name value).result =
      .error (.config (.filter name (.wrongType value .description))) := by
  cases value with
  | object fields => exact absurd rfl (h fields)
  | _ => rfl

/-- A wrong description is an error that names its filter. -/
theorem descriptor_error {name : String} {value : Json} {e : FilterError}
    (h : (descriptor name value).result = .error e) :
    ∃ fault, e = .config (.filter name fault) := by
  rw [descriptor, Traced.mapError] at h
  obtain ⟨fault, -, heq⟩ := Except.mapError_eq_error h
  exact ⟨fault, heq⟩

/-- A descriptor comes from an object that was read and passed the checks. -/
theorem descriptor_object_eq_ok {name : String} {fields : List (String × Json)} {d : Descriptor} :
    (descriptor name (.object fields)).result = .ok d ↔
      ∃ x kind convert, readEntries blank fields = .ok x ∧ x.checkedKind = .ok kind ∧
        readConvert x.convert = .ok convert ∧
        d = { Descriptor.ofKind kind x.field with convert, className := x.className } := by
  rw [descriptor_object_result]
  constructor
  · intro h
    obtain ⟨x, hread, hx⟩ := Except.bind_eq_ok (Except.mapError_eq_ok h)
    rw [toDescriptor_result] at hx
    obtain ⟨kind, hkind, hrest⟩ := Except.bind_eq_ok hx
    obtain ⟨convert, hconvert, hd⟩ := Except.map_eq_ok hrest
    exact ⟨x, kind, convert, hread, hkind, hconvert, hd⟩
  · rintro ⟨x, kind, convert, hread, hkind, hconvert, rfl⟩
    simp only [hread, Except.bind, toDescriptor_result, hkind, hconvert]
    rfl

/-- A description makes a filter that needs no generator and has a field. -/
theorem descriptor_usable {name : String} {value : Json} {d : Descriptor}
    (h : (descriptor name value).result = .ok d) : d.IsUsable := by
  by_cases hobject : ∃ fields, value = .object fields
  · obtain ⟨fields, rfl⟩ := hobject
    obtain ⟨x, kind, convert, -, hkind, -, rfl⟩ := descriptor_object_eq_ok.1 h
    obtain ⟨-, hcustom, hfield⟩ := checkedKind_eq_ok.1 hkind
    refine ⟨hcustom, rfl, ?_⟩
    intro (hne : kind ≠ .passthrough)
    show Text.isBlankText (if kind = .passthrough then "" else x.field) = false
    rw [if_neg hne]
    exact hfield hne
  · rw [descriptor_result_of_not_object (fun fields heq => hobject ⟨fields, heq⟩)] at h
    cases h

/-- A description is taken if it is one: it does not matter in which order its keys stand, nor what
else the object holds. -/
theorem descriptor_isOk_iff {name : String} {value : Json}
    (hnodup : ∀ fields, value = .object fields → (Assoc.keys fields).Nodup) :
    (∃ d, (descriptor name value).result = .ok d) ↔ DescribesFilter value := by
  constructor
  · rintro ⟨d, hd⟩
    by_cases hobject : ∃ fields, value = .object fields
    · obtain ⟨fields, rfl⟩ := hobject
      obtain ⟨x, kind, convert, hread, hkind, hconvert, -⟩ := descriptor_object_eq_ok.1 hd
      have hreads := readEntries_reads (hnodup fields rfl) hread
      exact ⟨fields, rfl, isDescription_of_checked hreads hkind hconvert⟩
    · rw [descriptor_result_of_not_object (fun fields heq => hobject ⟨fields, heq⟩)] at hd
      cases hd
  · rintro ⟨fields, rfl, h⟩
    obtain ⟨x, hread⟩ := IsDescription.exists_reads (hnodup fields rfl) h
    have hreads := readEntries_reads (hnodup fields rfl) hread
    obtain ⟨⟨kind, hkind⟩, convert, hconvert⟩ := IsDescription.exists_checked h hreads
    exact ⟨_, descriptor_object_eq_ok.2 ⟨x, kind, convert, hread, hkind, hconvert, rfl⟩⟩

end ConfigFile

end Criteria
