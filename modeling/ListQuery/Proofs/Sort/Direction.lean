import ListQuery.Proofs.Sort.Grammar
import ListQuery.Proofs.Sort.Part
import ListQuery.Proofs.Text.Capital

/-!
# How directions are spelled

The directions of a sort order are the two keywords in any letter case of ASCII, with one exception:
case is ignored by the mappings of Unicode, under which the long s is a small S, so that it may
stand for the S of a keyword. `directions_spelled` says that no other text is a direction.
-/

namespace ListQuery.Sort

open Text

/-- A text is the keyword of a direction in some letter case of ASCII. -/
def Direction.IsSpelling (direction : Direction) (word : Text) : Prop :=
  word.map CodePoint.toAsciiUpper = direction.keyword

instance (direction : Direction) (word : Text) : Decidable (direction.IsSpelling word) :=
  inferInstanceAs (Decidable (_ = _))

/-- The long s, which is no letter of ASCII. -/
def longS : CodePoint := '\u017f'

/-- The code point with the s of ASCII in place of the long s. -/
def shortS (c : CodePoint) : CodePoint :=
  if c = longS then 's' else c

/-- A text without a long s stays as it is. -/
theorem map_shortS {word : Text} (plain : longS ∉ word) : word.map shortS = word := by
  have same : ∀ c ∈ word, shortS c = id c :=
    fun c member => if_neg (ne_of_mem_of_not_mem member plain)
  rw [List.map_congr_left same, List.map_id]

/-- A code point has a letter of a keyword for its upper case exactly if it is that letter in one of
its two cases, with the long s for a small one. -/
theorem upperChar_eq_letter_iff {direction : Direction} {c letter : CodePoint}
    (inKeyword : letter ∈ direction.keyword) :
    upperChar c = [letter] ↔ (shortS c).toAsciiUpper = letter := by
  -- None of the letters is the capital of the dotless i.
  have letters : ∀ letter ∈ direction.keyword, letter.toNat ∈ capitals ∧ letter.toNat ≠ 73 := by
    cases direction <;> decide
  obtain ⟨capital, other⟩ := letters letter inKeyword
  have long : c.toNat = 0x17F ↔ c = longS := CodePoint.toNat_inj (b := longS)
  have large : letter.toNat = 83 ↔ letter = .scalar 'S' := CodePoint.toNat_inj (b := .scalar 'S')
  have stray : (c.toNat, letter.toNat) ∈ strayLetters ↔ c = longS ∧ letter = .scalar 'S' := by
    simp [strayLetters, other, long, large]
  rw [upperChar_eq_capital_iff capital, stray]
  unfold shortS
  split
  · rename_i isLong
    subst isLong
    have unmapped : longS.toAsciiUpper ≠ letter := by
      rintro rfl
      exact absurd capital (by decide)
    have short : CodePoint.toAsciiUpper (.scalar 's') = .scalar 'S' := rfl
    simp [unmapped, short, eq_comm]
  · rename_i plain
    simp [plain]

/-- A text has the keyword of a direction for its upper case exactly if, with short s for long, it
spells the keyword in some letter case of ASCII. -/
theorem upper_eq_keyword_iff {direction : Direction} {word : Text} :
    upper word = direction.keyword ↔ direction.IsSpelling (word.map shortS) := by
  rw [Direction.IsSpelling, List.map_map]
  constructor
  · intro same
    have plain := direction.plain_keyword
    rw [← same] at plain ⊢
    refine (upper_eq_map fun c member => ?_).symm
    obtain ⟨letter, inKeyword, single⟩ := exists_upperChar_eq plain member
    rw [single, ← (upperChar_eq_letter_iff (same ▸ inKeyword)).1 single]
    rfl
  · intro spelled
    rw [← spelled]
    refine upper_eq_map fun c member => ?_
    exact (upperChar_eq_letter_iff (spelled ▸ List.mem_map_of_mem member)).2 rfl

/-- The directions of a sort order that is read are spelled as the keywords of its keys: in some
letter case of ASCII if they are without a long s, and otherwise with the long s for a small one. So
are all texts that name a direction, and no others. -/
theorem directions_spelled {allowed : AllowList} {raw : Text} {keys : List Key}
    (read : parse allowed raw = .ok keys) :
    List.Forall₂ (fun source key => ∃ word, Consists source key.column (some word) ∧
        key.direction.IsSpelling (word.map shortS) ∧
        (longS ∉ word → key.direction.IsSpelling word)) (sources raw) keys ∧
      ∀ word direction, Direction.ofKeyword? word = some direction ↔
        direction.IsSpelling (word.map shortS) := by
  have named : ∀ word direction, Direction.ofKeyword? word = some direction ↔
      direction.IsSpelling (word.map shortS) := by
    intro word direction
    rw [Direction.ofKeyword?_eq_some_iff, upper_eq_keyword_iff]
  obtain ⟨-, reads, -⟩ := parse_eq_ok_iff.1 read
  refine ⟨reads.imp ?_, named⟩
  rintro source key ⟨word, split, isDirection⟩
  have spelled := (named word key.direction).1 isDirection
  refine ⟨word, consists_iff.2 ?_, spelled, fun plain => ?_⟩
  · simp only [Part.ofText, split, if_neg (Direction.ne_nil isDirection)]
  · rwa [map_shortS plain] at spelled

/-- Directions in mixed case, one of them with a long s. -/
theorem directions_spelled_mixed :
    parse ["id", "no"] "id dEsc,no a\u017fC" = .ok [⟨"id", .descending⟩, ⟨"no", .ascending⟩] ∧
      Direction.IsSpelling .descending "dEsc" := by
  have read : parse ["id", "no"] "id dEsc,no a\u017fC" =
      .ok [⟨"id", .descending⟩, ⟨"no", .ascending⟩] := by
    decide +kernel
  have isSources : sources "id dEsc,no a\u017fC" = ["id dEsc", "no a\u017fC"] := by
    decide +kernel
  have spelled := (directions_spelled read).1
  rw [isSources] at spelled
  obtain ⟨⟨word, consists, -, plain⟩, -⟩ := List.forall₂_cons.1 spelled
  have taken : Part.ofText "id dEsc" = ⟨"id dEsc", "id", some "dEsc"⟩ := by decide
  cases taken.symm.trans (consists_iff.1 consists)
  exact ⟨read, plain (by decide)⟩

/-- A direction with a long s is read, although it spells neither keyword in ASCII. -/
theorem long_s_is_read :
    parse ["id"] "id a\u017fc" = .ok [⟨"id", .ascending⟩] ∧
      Consists "id a\u017fc" "id" (some "a\u017fc") ∧
      ∀ direction : Direction, ¬ direction.IsSpelling "a\u017fc" := by
  refine ⟨by decide +kernel, consists_iff.2 (by decide), ?_⟩
  intro direction
  cases direction <;> decide

end ListQuery.Sort
