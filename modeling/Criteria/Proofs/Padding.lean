import Criteria.Proofs.Spellings
import Mathlib.Data.List.TakeWhile

/-!
# White space around references

Blanks around an element of a list of references are dropped before it is read, with one exception:
a text is taken for a global identifier only if the scheme stands at its very start, so blanks in
front make a global identifier no reference at all. Main statement: `Reference.padding_ignored`.
-/

namespace Criteria

namespace Text

/-! ### Trimming -/

theorem trimStart_append {u : List Char} (hu : ∀ c ∈ u, isBlank c = true) (cs : List Char) :
    trimStart (u ++ cs) = trimStart cs :=
  List.dropWhile_append_of_pos hu

theorem trimEnd_append {w : List Char} (hw : ∀ c ∈ w, isBlank c = true) (cs : List Char) :
    trimEnd (cs ++ w) = trimEnd cs := by
  have hreverse : ∀ c ∈ w.reverse, isBlank c = true := fun c hc => hw c (List.mem_reverse.1 hc)
  rw [trimEnd, List.reverse_append, List.dropWhile_append_of_pos hreverse]
  rfl

/-- Blanks around a text are dropped with its own. -/
theorem trim_append {u w : List Char} (hu : ∀ c ∈ u, isBlank c = true)
    (hw : ∀ c ∈ w, isBlank c = true) (cs : List Char) : trim (u ++ cs ++ w) = trim cs := by
  rw [List.append_assoc, trim, trimStart_append hu]
  -- where all of the text is blank, it goes together with the blanks behind it
  by_cases hall : ∀ c ∈ cs, isBlank c = true
  · have hcs : trimStart cs = [] := by
      rw [← cs.append_nil, trimStart_append hall]
      rfl
    have hwhole : trimStart (cs ++ w) = [] := by
      rw [trimStart_append hall, ← w.append_nil, trimStart_append hw]
      rfl
    rw [trim, hcs, hwhole]
  · have hne : (cs.dropWhile isBlank).isEmpty = false := by
      rw [List.isEmpty_eq_false_iff, ne_eq, List.dropWhile_eq_nil_iff]
      exact hall
    have hstart : trimStart (cs ++ w) = trimStart cs ++ w := by
      rw [trimStart, List.dropWhile_append, hne]
      rfl
    rw [hstart, trimEnd_append hw, trim]

end Text

namespace Reference

/-! ### Texts between blanks -/

theorem isBlank_of_mem_scheme : ∀ c ∈ scheme, Text.isBlank c = false := by
  have hscheme : scheme = ['g', 'i', 'd', ':', '/', '/'] := by decide
  rw [hscheme]
  simp only [List.forall_mem_cons]
  exact ⟨by decide, by decide, by decide, by decide, by decide, by decide, nofun⟩

section
variable {u s w : String} (hu : Text.isBlankText u = true) (hw : Text.isBlankText w = true)
include hu

/-- Behind a blank the scheme is not at the start of a text. -/
theorem not_scheme_of_blank (hne : u ≠ "") : ¬ scheme <+: (u ++ s ++ w).toList := by
  intro hprefix
  cases hlist : u.toList with
  | nil => exact hne (String.toList_eq_nil_iff.1 hlist)
  | cons c cs =>
    have hblank : Text.isBlank c = true :=
      List.all_eq_true.1 hu c (hlist ▸ List.mem_cons_self)
    rw [String.toList_append, String.toList_append, hlist] at hprefix
    obtain rfl : 'g' = c := (List.cons_prefix_cons.1 hprefix).1
    cases hblank

include hw

theorem trim_padded : Text.trim (u ++ s ++ w).toList = Text.trim s.toList := by
  rw [String.toList_append, String.toList_append]
  exact Text.trim_append (List.all_eq_true.1 hu) (List.all_eq_true.1 hw) s.toList

/-- No blank stands in the scheme, so it does not reach into the blanks behind a text. -/
theorem scheme_prefix_iff (h : u = "" ∨ ¬ scheme <+: s.toList) :
    scheme <+: (u ++ s ++ w).toList ↔ scheme <+: s.toList := by
  by_cases hne : u = ""
  · subst hne
    rw [String.empty_append, String.toList_append]
    constructor
    · intro hwhole
      -- a scheme that goes on behind the text would have a blank in it
      obtain hs | ⟨more, hmore⟩ :=
        List.prefix_or_prefix_of_prefix hwhole (List.prefix_append s.toList w.toList)
      · exact hs
      · rw [← hmore, List.prefix_append_right_inj] at hwhole
        cases more with
        | nil => exact ⟨[], by rw [← hmore, List.append_nil, List.append_nil]⟩
        | cons c more =>
          have hmem : c ∈ scheme := hmore ▸ List.mem_append_right _ List.mem_cons_self
          have hblank := List.all_eq_true.1 hw c (hwhole.subset List.mem_cons_self)
          rw [isBlank_of_mem_scheme c hmem] at hblank
          cases hblank
    · intro hs
      exact List.IsPrefix.trans hs (List.prefix_append _ _)
  · exact iff_of_false (not_scheme_of_blank hu hne) (h.resolve_left hne)

theorem ofJson?_padded (h : u = "" ∨ ¬ scheme <+: s.toList) :
    ofJson? (.string (u ++ s ++ w)) = ofJson? (.string s) := by
  have hscheme := scheme_prefix_iff hu hw h
  rw [← List.isPrefixOf_iff_prefix, ← List.isPrefixOf_iff_prefix] at hscheme
  simp only [ofJson?, ofGlobalId?, ofFingerprint?, hscheme, trim_padded hu hw]

theorem bareId?_padded : bareId? (.string (u ++ s ++ w)) = bareId? (.string s) := by
  rw [bareId?, bareId?, trim_padded hu hw]

theorem resolveId_padded (h : u = "" ∨ ¬ scheme <+: s.toList) (scope : Option String) :
    resolveId scope (.string (u ++ s ++ w)) = resolveId scope (.string s) := by
  rw [resolveId, resolveId, bareId?_padded hu hw, ofJson?_padded hu hw h]

theorem resolveFingerprint_padded (h : u = "" ∨ ¬ scheme <+: s.toList) :
    resolveFingerprint (.string (u ++ s ++ w)) = resolveFingerprint (.string s) := by
  rw [resolveFingerprint, resolveFingerprint, ofJson?_padded hu hw h]

end

/-! ### Global identifiers behind blanks -/

theorem trim_scheme (cs : List Char) :
    Text.trim (scheme ++ cs) = "gid:".toList ++ '/' :: '/' :: Text.trimEnd cs := by
  have hend := Text.trimEnd_append_cons (by decide : Text.isBlank '/' = false) "gid:/".toList cs
  rw [Text.trim, trimStart_scheme]
  exact hend

section
variable {u s w : String} (hu : Text.isBlankText u = true) (hw : Text.isBlankText w = true)
  (hs : scheme <+: s.toList)
include hu hw hs

/-- A global identifier behind blanks is read as a fingerprint, whose class would be `gid:`. -/
theorem ofJson?_behind_blanks (hne : u ≠ "") : ofJson? (.string (u ++ s ++ w)) = none := by
  have hscheme : ¬ scheme.isPrefixOf (u ++ s ++ w).toList := by
    rw [List.isPrefixOf_iff_prefix]
    exact not_scheme_of_blank hu hne
  -- trimming comes after the test for the scheme, so the text is cut as a fingerprint is
  obtain ⟨cs, hcs⟩ := hs
  have hslash : '/' ∉ "gid:".toList := by decide
  have hclass : isClass "gid:".toList = false := by decide
  rw [ofJson?, if_neg hscheme, ofFingerprint?, trim_padded hu hw, ← hcs, trim_scheme,
    ofFingerprintChars?, cut_append hslash, Option.bind_some]
  simp only [ofParts?, hclass, Bool.false_and, Bool.false_eq_true, if_false]

theorem bareId?_behind_blanks : bareId? (.string (u ++ s ++ w)) = none := by
  obtain ⟨cs, hcs⟩ := hs
  rw [bareId?, trim_padded hu hw, ← hcs, trim_scheme]
  exact wordOfChars?_cons_eq_none (c := 'g') (by decide) (by decide) (by decide) _

theorem resolveId_behind_blanks (hne : u ≠ "") (scope : Option String) :
    resolveId scope (.string (u ++ s ++ w)) = none := by
  rw [resolveId, bareId?_behind_blanks hu hw hs, ofJson?_behind_blanks hu hw hs hne]
  rfl

theorem resolveFingerprint_behind_blanks (hne : u ≠ "") :
    resolveFingerprint (.string (u ++ s ++ w)) = none := by
  rw [resolveFingerprint, ofJson?_behind_blanks hu hw hs hne]
  rfl

end

/-- What looks through blanks, unless they stand in front of a global identifier, changes with blanks
exactly where these hide one that means something. -/
theorem eq_padded_iff {α : Type} {u s w : String} {resolve : Json → Option α}
    (hpadded : u = "" ∨ ¬ scheme <+: s.toList →
      resolve (.string (u ++ s ++ w)) = resolve (.string s))
    (hbehind : u ≠ "" → scheme <+: s.toList → resolve (.string (u ++ s ++ w)) = none) :
    resolve (.string (u ++ s ++ w)) = resolve (.string s) ↔
      u = "" ∨ ¬ scheme <+: s.toList ∨ resolve (.string s) = none := by
  by_cases h : u = "" ∨ ¬ scheme <+: s.toList
  · exact iff_of_true (hpadded h) (h.imp_right Or.inl)
  · rw [not_or, not_not] at h
    obtain ⟨hne, hs⟩ := h
    rw [hbehind hne hs]
    constructor
    · intro hnone
      exact Or.inr (Or.inr hnone.symm)
    · rintro (hempty | hother | hnone)
      · exact absurd hempty hne
      · exact absurd hs hother
      · exact hnone.symm

/-! ### Lists with padded elements -/

/-- An element of a list, or the same text between blanks. None may stand in front of a global
identifier. -/
inductive Padded : Json → Json → Prop
  | same (v : Json) : Padded v v
  | between {u s w : String} (hu : Text.isBlankText u = true) (hw : Text.isBlankText w = true)
      (h : u = "" ∨ ¬ scheme <+: s.toList) : Padded (.string s) (.string (u ++ s ++ w))

/-- Padded elements resolve to the same. -/
theorem Padded.readAlike : ReadAlike Padded where
  id scope v w h := by
    cases h with
    | same => rfl
    | between hu hw h => exact (resolveId_padded hu hw h scope).symm
  fingerprint v w h := by
    cases h with
    | same => rfl
    | between hu hw h => exact (resolveFingerprint_padded hu hw h).symm
  isNull v w h := by
    cases h <;> rfl
  list? v w h := by
    cases h with
    | same => exact rel_refl (fun xs => List.forall₂_same.2 fun x _ => .same x) v.list?
    | between => exact .none

end Reference

/-- Blanks around a text change nothing in what it resolves to exactly where they do not stand in
front of a global identifier that resolves; one behind blanks resolves to nothing. Elsewhere blanks
change nothing in what a body compiles to. -/
theorem Reference.padding_ignored {u w : String} (hu : Text.isBlankText u = true)
    (hw : Text.isBlankText w = true) (s : String) :
    (∀ scope, resolveId scope (.string (u ++ s ++ w)) = resolveId scope (.string s) ↔
      u = "" ∨ ¬ scheme <+: s.toList ∨ resolveId scope (.string s) = none) ∧
    (resolveFingerprint (.string (u ++ s ++ w)) = resolveFingerprint (.string s) ↔
      u = "" ∨ ¬ scheme <+: s.toList ∨ resolveFingerprint (.string s) = none) ∧
    (u ≠ "" → scheme <+: s.toList →
      (∀ scope, resolveId scope (.string (u ++ s ++ w)) = none) ∧
        resolveFingerprint (.string (u ++ s ++ w)) = none) ∧
    ∀ (compiler : Compiler) (default : Combinator) (b b' : Body)
      (fields fields' : List (String × Json)), b.fields? = some fields → b'.fields? = some fields' →
      Matched (LeafRel Padded compiler.filters) fields fields' →
      (compiler.compile b default).result = (compiler.compile b' default).result := by
  refine ⟨?_, ?_, ?_, ?_⟩
  · intro scope
    exact eq_padded_iff (fun h => resolveId_padded hu hw h scope)
      (fun hne hs => resolveId_behind_blanks hu hw hs hne scope)
  · exact eq_padded_iff (resolveFingerprint_padded hu hw)
      (fun hne hs => resolveFingerprint_behind_blanks hu hw hs hne)
  · intro hne hs
    exact ⟨resolveId_behind_blanks hu hw hs hne, resolveFingerprint_behind_blanks hu hw hs hne⟩
  · intro compiler default b b' fields fields' hb hb' h
    exact Compiler.compile_related Padded.readAlike hb hb' h default

/-- Unwanted users, the first of them with blanks around the digits of the id and the second with a
line feed behind the identifier. -/
theorem Reference.padding_ignored_users :
    let fields := [("author", Json.object [
      ("except", .array [.string "4", .string "gid://blog/User/7"])])]
    let fields' := [("author", Json.object [
      ("except", .array [.string ("\t" ++ "4" ++ " "),
        .string ("" ++ "gid://blog/User/7" ++ "\n")])])]
    (resolveId (some "User") (.string ("" ++ "gid://blog/User/7" ++ "\n")) = some 7 ∧
      resolveFingerprint (.string (" " ++ "User/7" ++ " ")) = some "User/7" ∧
      resolveFingerprint (.string (" " ++ "gid://blog/User/7" ++ "")) = none) ∧
    Matched (LeafRel Padded .posts) fields fields' ∧
      ((Compiler.ofFilters .posts).compile (.object fields) .all).result =
        ((Compiler.ofFilters .posts).compile (.object fields') .all).result := by
  intro fields fields'
  have hblank {u : String} (h : u.toList.all Text.isBlank = true) : Text.isBlankText u = true := h
  have hdigits : ¬ scheme <+: "4".toList := by decide
  have hfingerprint : ¬ scheme <+: "User/7".toList := by decide
  have hidentifier : scheme <+: "gid://blog/User/7".toList := ⟨"blog/User/7".toList, by decide⟩
  have hauthor : LeafRel Padded .posts "author"
      (.object [("except", .array [.string "4", .string "gid://blog/User/7"])])
      (.object [("except", .array [.string ("\t" ++ "4" ++ " "),
        .string ("" ++ "gid://blog/User/7" ++ "\n")])]) := by
    refine .value (d := (Descriptor.ofKind .reference "posts.author_id").withClassName "User") rfl
      (Or.inl rfl) (.sides (.cons ⟨rfl, .list ?_⟩ .nil))
    exact .cons (.between (hblank (by decide)) (hblank (by decide)) (Or.inr hdigits))
      (.cons (.between (hblank (by decide)) (hblank (by decide)) (Or.inl rfl)) .nil)
  have hmatched : Matched (LeafRel Padded .posts) fields fields' := .leaf rfl hauthor .nil
  have hseven : resolveId (some "User") (.string "gid://blog/User/7") = some 7 := by decide +kernel
  have huser : resolveFingerprint (.string "User/7") = some "User/7" := rfl
  obtain ⟨hid, -, -, hcompiled⟩ :=
    @padding_ignored "" "\n" rfl (hblank (by decide)) "gid://blog/User/7"
  obtain ⟨-, hclass, -, -⟩ :=
    @padding_ignored " " " " (hblank (by decide)) (hblank (by decide)) "User/7"
  obtain ⟨-, -, hnone, -⟩ := @padding_ignored " " "" (hblank (by decide)) rfl "gid://blog/User/7"
  refine ⟨⟨?_, ?_, ?_⟩, hmatched, hcompiled (.ofFilters .posts) .all _ _ _ _ rfl rfl hmatched⟩
  · rw [← hseven]
    exact (hid _).2 (Or.inl rfl)
  · rw [← huser]
    exact hclass.2 (Or.inr (Or.inl hfingerprint))
  · exact (hnone (by decide) hidentifier).2

/-- A blank in front of a global identifier drops an unwanted user, and nothing is restricted. -/
theorem Reference.padding_drops_user :
    resolveId (some "User") (.string "gid://app/User/1") = some 1 ∧
    resolveId (some "User") (.string " gid://app/User/1") = none ∧
    ((Compiler.ofFilters .posts).compile (.object [("author", .object [
        ("except", .array [.string "gid://app/User/1"])])]) .all).result =
      .ok (.sql "((posts.author_id NOT IN (:p1)))", ⟨"p", #[.list [.integer 1]]⟩) ∧
    ((Compiler.ofFilters .posts).compile (.object [("author", .object [
        ("except", .array [.string " gid://app/User/1"])])]) .all).result =
      .ok (.empty, .empty "p") := by
  refine ⟨by decide +kernel, by decide +kernel, by decide +kernel, by decide +kernel⟩

end Criteria
