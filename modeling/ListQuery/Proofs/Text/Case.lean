import Mathlib.Data.List.Basic
import ListQuery.Proofs.Text.Run
import ListQuery.Text.Blank
import ListQuery.Text.Case

/-!
# Upper case

The upper case of a word is that of ASCII. The upper case of other texts can be longer than the
text, but only where it holds an expansion, which no keyword of a sort order does. Blanks have no
case, so the upper case of a text has those of the text.
-/

namespace ListQuery.Text

/-- A text whose code points have one code point each for their upper case is mapped to them. -/
theorem upper_eq_map {text : Text} {image : CodePoint → CodePoint}
    (each : ∀ c ∈ text, upperChar c = [image c]) : upper text = text.map image := by
  rw [upper, List.flatMap_congr each, ← List.map_eq_flatMap]

/-- The upper case of word characters is that of ASCII. -/
theorem upper_of_word {text : Text} (word : Within isWordChar text) :
    upper text = text.map CodePoint.toAsciiUpper := by
  refine upper_eq_map fun c member => ?_
  have ascii : c.toNat < 128 := by
    have first := isWordChar_iff.1 (word c member)
    omega
  rw [upperChar, if_pos ascii]

/-- What turns into a letter in upper case is a letter. -/
theorem isAsciiLetter_of_toAsciiUpper {c : CodePoint}
    (letter : isAsciiLetter c.toAsciiUpper = true) : isAsciiLetter c = true := by
  cases c with
  | surrogate offset => exact letter
  | scalar c =>
    by_cases lower : 'a'.val ≤ c.val ∧ c.val ≤ 'z'.val
    · have least : 97 ≤ c.toNat := UInt32.le_iff_toNat_le.1 lower.1
      have greatest : c.toNat ≤ 122 := UInt32.le_iff_toNat_le.1 lower.2
      simp [isAsciiLetter, CodePoint.toNat, least, greatest]
    · have unchanged : c.toUpper = c := dif_neg lower
      rw [CodePoint.toAsciiUpper, unchanged] at letter
      exact letter

/-! ## Case data -/

/-- The images of a run by number. -/
theorem CaseRun.image?_eq_some_iff {run : CaseRun} {n image : Nat} :
    run.image? n = some image ↔ (run.first ≤ n ∧ n ≤ run.last ∧ (n - run.first) % run.step = 0) ∧
      (n + run.offset).toNat = image := by
  unfold CaseRun.image?
  split <;> simp_all [and_assoc]

/-- What case data map a code point to: an expansion, the image of a run, or the code point
itself. -/
inductive Mapped (expansions : List (Nat × List Nat)) (runs : List CaseRun) (c : CodePoint) :
    Text → Prop where
  | expanded {expansion : List Nat} (listed : (c.toNat, expansion) ∈ expansions) :
      Mapped expansions runs c (expansion.map .ofNat)
  | shifted {run : CaseRun} {n : Nat} (listed : run ∈ runs) (image : run.image? c.toNat = some n) :
      Mapped expansions runs c [.ofNat n]
  | kept : Mapped expansions runs c [c]

/-- A code point is mapped in one of these ways. -/
theorem mapped_mapCase (expansions : List (Nat × List Nat)) (runs : List CaseRun) (c : CodePoint) :
    Mapped expansions runs c (mapCase expansions runs c) := by
  unfold mapCase
  split
  · rename_i expansion found
    obtain ⟨before, after, same, -⟩ := List.lookup_eq_some_iff.1 found
    exact .expanded (by simp [same])
  · cases found : runs.findSome? (·.image? c.toNat) with
    | none => exact .kept
    | some n =>
      obtain ⟨run, listed, image⟩ := List.exists_of_findSome?_eq_some found
      exact .shifted listed image

/-! ## Lengths -/

/-- One code point is mapped to one, unless it has an expansion. -/
theorem length_upperChar {c : CodePoint}
    (plain : ∀ expansion ∈ upperExpansions, expansion.2.map CodePoint.ofNat ≠ upperChar c) :
    (upperChar c).length = 1 := by
  unfold upperChar at plain ⊢
  split
  · rfl
  · rename_i large
    rw [if_neg large] at plain
    have mapped := mapped_mapCase upperExpansions upperRuns c
    generalize mapCase upperExpansions upperRuns c = image at mapped plain ⊢
    cases mapped with
    | expanded listed => exact absurd rfl (plain _ listed)
    | shifted listed image => rfl
    | kept => rfl

/-- If the upper case of a text holds no expansion, each code point of the text has one there. -/
theorem exists_upperChar_eq {text : Text} {c : CodePoint}
    (plain : ∀ expansion ∈ upperExpansions, ¬ expansion.2.map CodePoint.ofNat <:+: upper text)
    (member : c ∈ text) : ∃ image ∈ upper text, upperChar c = [image] := by
  have part : upperChar c <:+: upper text := List.infix_flatMap_of_mem member upperChar
  have single : (upperChar c).length = 1 :=
    length_upperChar fun expansion listed same => plain expansion listed (same ▸ part)
  obtain ⟨image, isImage⟩ := List.length_eq_one_iff.1 single
  exact ⟨image, part.subset (by simp [isImage]), isImage⟩

/-- A text is as long as its upper case if that holds no expansion. -/
theorem length_upper {text : Text}
    (plain : ∀ expansion ∈ upperExpansions, ¬ expansion.2.map CodePoint.ofNat <:+: upper text) :
    (upper text).length = text.length := by
  have single : ∀ c ∈ text, (upperChar c).length = 1 := by
    intro c member
    obtain ⟨image, -, isImage⟩ := exists_upperChar_eq plain member
    rw [isImage, List.length_singleton]
  rw [upper, List.length_flatMap, List.map_congr_left single]
  simp

/-! ## Blanks -/

/-- The numbers of the blanks. -/
def blankNumbers : List Nat :=
  [9, 10, 11, 12, 13, 28, 29, 30, 31, 32, 0x85, 0xA0, 0x1680, 0x2000, 0x2001, 0x2002, 0x2003,
    0x2004, 0x2005, 0x2006, 0x2007, 0x2008, 0x2009, 0x200A, 0x2028, 0x2029, 0x202F, 0x205F, 0x3000]

/-- The blanks by number. -/
theorem toNat_mem_blankNumbers {c : CodePoint} (blank : isBlank c = true) :
    c.toNat ∈ blankNumbers := by
  simp only [isBlank, Bool.or_eq_true, Bool.and_eq_true, decide_eq_true_eq, beq_iff_eq] at blank
  simp only [blankNumbers, List.mem_cons, List.not_mem_nil, or_false]
  omega

/-- A blank is its own upper case. -/
theorem upperChar_of_isBlank {c : CodePoint} (blank : isBlank c = true) : upperChar c = [c] := by
  have each : ∀ n ∈ blankNumbers, upperChar (.ofNat n) = [.ofNat n] := by decide +kernel
  simpa only [CodePoint.ofNat_toNat] using each _ (toNat_mem_blankNumbers blank)

/-- A text has no blank if its upper case has none. -/
theorem not_isBlank_of_upper {text : Text} (outside : ∀ c ∈ upper text, isBlank c = false) :
    ∀ c ∈ text, isBlank c = false := by
  intro c member
  by_contra blank
  rw [Bool.not_eq_false] at blank
  have kept : c ∈ upper text :=
    List.mem_flatMap.2 ⟨c, member, by simp [upperChar_of_isBlank blank]⟩
  simp [outside c kept] at blank

end ListQuery.Text
