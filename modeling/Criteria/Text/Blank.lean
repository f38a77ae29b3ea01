/-!
# White space

The characters of Unicode's `White_Space` property, and removing them from the ends of a text. Main
statements: `trimEnd_append_cons` and `trim_of_ends`, what trimming keeps.
-/

namespace Criteria.Text

/-- Unicode `White_Space`: the ASCII blanks, next line, the no-break spaces and the wide ones. -/
def isBlank (c : Char) : Bool :=
  let n := c.toNat
  (0x09 ≤ n && n ≤ 0x0D) || n == 0x20 || n == 0x85 || n == 0xA0 || n == 0x1680 ||
    (0x2000 ≤ n && n ≤ 0x200A) || n == 0x2028 || n == 0x2029 || n == 0x202F || n == 0x205F ||
    n == 0x3000

/-- Drop blanks in front. -/
def trimStart (cs : List Char) : List Char :=
  cs.dropWhile isBlank

/-- Drop blanks behind. -/
def trimEnd (cs : List Char) : List Char :=
  (cs.reverse.dropWhile isBlank).reverse

/-- Drop blanks on both sides. -/
def trim (cs : List Char) : List Char :=
  trimEnd (trimStart cs)

/-- Whether nothing but white space stands in `s`. -/
def isBlankText (s : String) : Bool :=
  s.toList.all isBlank

/-- None of the visible ASCII characters is blank. -/
theorem isBlank_of_visible {c : Char} (hlow : 0x21 ≤ c.toNat) (hhigh : c.toNat ≤ 0x7E) :
    isBlank c = false := by
  simp only [isBlank, Bool.or_eq_false_iff, Bool.and_eq_false_iff, decide_eq_false_iff_not,
    beq_eq_false_iff_ne]
  omega

/-! ### What trimming keeps -/

theorem trimStart_cons {c : Char} (h : isBlank c = false) (cs : List Char) :
    trimStart (c :: cs) = c :: cs := by
  rw [trimStart, List.dropWhile_cons, if_neg (by simp [h])]

/-- Nothing in front of a character that is not blank is dropped from the end. -/
theorem trimEnd_append_cons {c : Char} (h : isBlank c = false) (front cs : List Char) :
    trimEnd (front ++ c :: cs) = front ++ c :: trimEnd cs := by
  have hdrop : ((front ++ c :: cs).reverse.dropWhile isBlank) =
      cs.reverse.dropWhile isBlank ++ c :: front.reverse := by
    rw [List.reverse_append, List.reverse_cons, List.append_assoc, List.singleton_append,
      List.dropWhile_append]
    split
    · next hempty => rw [List.isEmpty_iff.1 hempty, List.dropWhile_cons, if_neg (by simp [h])]; rfl
    · rfl
  rw [trimEnd, hdrop, trimEnd]
  simp

theorem mem_of_mem_trimEnd {c : Char} {cs : List Char} (h : c ∈ trimEnd cs) : c ∈ cs := by
  rw [trimEnd, List.mem_reverse] at h
  exact List.mem_reverse.1 ((List.dropWhile_sublist _).subset h)

/-- A text with no blank at either end stays as it is. -/
theorem trim_of_ends {cs : List Char} (hfirst : ∀ c ∈ cs.head?, isBlank c = false)
    (hlast : ∀ c ∈ cs.getLast?, isBlank c = false) : trim cs = cs := by
  cases cs with
  | nil => rfl
  | cons c cs =>
    obtain ⟨front, last, hcs⟩ := List.eq_nil_or_concat (c :: cs) |>.resolve_left (by simp)
    rw [trim, trimStart_cons (hfirst c rfl), hcs, List.concat_eq_append,
      trimEnd_append_cons (hlast last (by simp [hcs]))]
    rfl

/-- A text without blanks stays as it is. -/
theorem trim_of_forall {cs : List Char} (h : ∀ c ∈ cs, isBlank c = false) : trim cs = cs :=
  trim_of_ends (fun c hc => h c (List.mem_of_head? hc)) fun c hc => h c (List.mem_of_getLast? hc)

end Criteria.Text
