import Criteria.Proofs.Notation
import Criteria.Proofs.Written

/-!
# Keys in bracket notation

A key in bracket notation is a name with segments in brackets behind it. The name holds no opening
bracket and a segment no closing one; a segment may be empty, and may hold opening brackets. Main
statements: `isBracketed_iff`, a key can be taken apart in at most one way, and from it
`RequestParams.brackets_recognised`, a key is split in just this way as long as its path is not too
long, and is a name by itself otherwise.
-/

namespace Criteria.RequestParams

/-- A name with segments in brackets behind it. -/
structure IsBracketed (key name : String) (segments : List String) : Prop where
  key_eq : key = keyText (name :: segments)
  bracket_notMem_name : '[' ∉ name.toList
  bracket_notMem_segments : ∀ s ∈ segments, ']' ∉ s.toList

/-- What a scan has seen of the bracket that is open. -/
def opened : Option (List Char) → List Char
  | none => []
  | some seen => '[' :: seen.reverse

/-- A scan that comes to an end has seen segments in brackets, the open one included. -/
theorem eq_of_bracketed {state : Option (List Char)} {cs : List Char} {segments : List String}
    (h : bracketed state cs = some segments) (hopened : ']' ∉ opened state) :
    opened state ++ cs = (segments.flatMap fun s => '[' :: s.toList ++ [']']) ∧
      ∀ s ∈ segments, ']' ∉ s.toList := by
  -- `opened` is what the state has read of a bracket that is still open
  fun_induction bracketed state cs generalizing segments with
  | case1 =>
    cases h
    exact ⟨rfl, nofun⟩
  | case2 cs ih => exact ih h (by simp [opened])
  | case3 => cases h
  | case4 => cases h
  | case5 seen cs ih =>
    obtain ⟨rest, hrest, rfl⟩ := Option.map_eq_some_iff.1 h
    obtain ⟨hcs, hclosed⟩ := ih hrest nofun
    refine ⟨?_, List.forall_mem_cons.2 ⟨?_, hclosed⟩⟩
    · rw [List.flatMap_cons, ← hcs]
      simp [opened]
    · simpa [opened] using hopened
  | case6 seen c cs hc ih =>
    obtain ⟨hcs, hclosed⟩ := ih h (by simpa [opened, Ne.symm hc] using hopened)
    refine ⟨?_, hclosed⟩
    rw [← hcs]
    simp [opened]

/-- A key is taken apart in front of its first opening bracket, and then bracket by bracket. -/
theorem isBracketed_iff {key name : String} {segments : List String} :
    IsBracketed key name segments ↔
      name = String.ofList (key.toList.takeWhile (· != '[')) ∧
        bracketed none (key.toList.dropWhile (· != '[')) = some segments := by
  constructor
  · rintro ⟨rfl, hname, hsegments⟩
    obtain ⟨htake, hdrop⟩ := cut_keyText hname segments
    rw [htake, hdrop, bracketed_segments segments hsegments, String.ofList_toList]
    exact ⟨rfl, rfl⟩
  · rintro ⟨rfl, h⟩
    obtain ⟨hcs, hsegments⟩ := eq_of_bracketed h nofun
    rw [opened, List.nil_append] at hcs
    refine ⟨?_, ?_, hsegments⟩
    · rw [keyText, String.toList_ofList, ← hcs, List.takeWhile_append_dropWhile,
        String.ofList_toList]
    · rw [String.toList_ofList]
      intro hmem
      simpa using List.all_eq_true.1 List.all_takeWhile _ hmem

/-- No key can be taken apart in two ways. -/
theorem IsBracketed.unique {key name name' : String} {segments segments' : List String}
    (h : IsBracketed key name segments) (h' : IsBracketed key name' segments') :
    name' = name ∧ segments' = segments := by
  obtain ⟨hname, hsegments⟩ := isBracketed_iff.1 h
  obtain ⟨hname', hsegments'⟩ := isBracketed_iff.1 h'
  exact ⟨hname'.trans hname.symm, Option.some.inj (hsegments'.symm.trans hsegments)⟩

theorem splitKey_of_isBracketed {key name : String} {segments : List String}
    (h : IsBracketed key name segments) (hshort : (name :: segments).length ≤ maxSegments) :
    splitKey key = name :: segments := by
  rw [h.key_eq, splitKey_keyText h.bracket_notMem_name h.bracket_notMem_segments hshort]

theorem splitKey_of_not_isBracketed {key : String}
    (h : ∀ name segments, IsBracketed key name segments →
      maxSegments < (name :: segments).length) : splitKey key = [key] := by
  simp only [splitKey]
  split
  · next segments hsegments =>
    rw [if_neg (Nat.not_le.2 (h _ _ (isBracketed_iff.2 ⟨rfl, hsegments⟩)))]
  · rfl

theorem keyText_singleton (key : String) : keyText [key] = key := by
  rw [keyText, List.flatMap_nil, List.append_nil, String.ofList_toList]

/-- Keys are split as the notation has it. A key that is a name with segments in brackets behind it
is so in one way only, and where its path is not too long it is split into just these; every other
key stays whole. So brackets around the segments give back the key, and no path is too long. -/
theorem brackets_recognised (key : String) :
    (∀ name segments, IsBracketed key name segments →
      (∀ name' segments', IsBracketed key name' segments' →
        name' = name ∧ segments' = segments) ∧
      ((name :: segments).length ≤ maxSegments → splitKey key = name :: segments)) ∧
    ((¬ ∃ name segments, IsBracketed key name segments ∧
        (name :: segments).length ≤ maxSegments) → splitKey key = [key]) ∧
    keyText (splitKey key) = key ∧ (splitKey key).length ≤ maxSegments := by
  have hwhole (h : ¬ ∃ name segments, IsBracketed key name segments ∧
      (name :: segments).length ≤ maxSegments) : splitKey key = [key] := by
    refine splitKey_of_not_isBracketed fun name segments hkey => ?_
    exact Nat.not_le.1 fun hshort => h ⟨name, segments, hkey, hshort⟩
  refine ⟨fun name segments hkey => ⟨fun _ _ hkey' => hkey.unique hkey', ?_⟩, hwhole, ?_,
    length_splitKey_le key⟩
  · exact splitKey_of_isBracketed hkey
  · -- put together again, the path is the key in either case
    by_cases h : ∃ name segments, IsBracketed key name segments ∧
        (name :: segments).length ≤ maxSegments
    · obtain ⟨name, segments, hkey, hshort⟩ := h
      rw [splitKey_of_isBracketed hkey hshort, hkey.key_eq]
    · rw [hwhole h, keyText_singleton]

/-- An opening bracket and nothing in brackets, at the limit and one beyond it, and a key that goes
on behind a bracket. -/
theorem brackets_recognised_limit :
    splitKey "rules[a[b][]" = ["rules", "a[b", ""] ∧
    splitKey (keyText ("a" :: List.replicate 35 "[")) = "a" :: List.replicate 35 "[" ∧
    splitKey (keyText ("a" :: List.replicate 36 "[")) = [keyText ("a" :: List.replicate 36 "[")] ∧
    splitKey "rules[a]b" = ["rules[a]b"] := by
  have hlong (n : Nat) : IsBracketed (keyText ("a" :: List.replicate n "[")) "a"
      (List.replicate n "[") := by
    refine ⟨rfl, by decide, fun s hs => ?_⟩
    rw [List.eq_of_mem_replicate hs]
    decide
  refine ⟨?_, ?_, ?_, ?_⟩
  · refine ((brackets_recognised "rules[a[b][]").1 "rules" ["a[b", ""] ⟨?_, ?_, ?_⟩).2 ?_
    · cbv
    · decide
    · decide
    · decide
  · exact ((brackets_recognised _).1 _ _ (hlong 35)).2 (by decide)
  · refine (brackets_recognised _).2.1 ?_
    rintro ⟨name, segments, hkey, hshort⟩
    obtain ⟨rfl, rfl⟩ := ((brackets_recognised _).1 _ _ (hlong 36)).1 _ _ hkey
    exact absurd hshort (by decide)
  · refine (brackets_recognised _).2.1 ?_
    rintro ⟨name, segments, hkey, -⟩
    have hnone : bracketed none ("rules[a]b".toList.dropWhile (· != '[')) = none := by cbv
    rw [(isBracketed_iff.1 hkey).2] at hnone
    cases hnone

end Criteria.RequestParams
