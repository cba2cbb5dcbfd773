import ListQuery.Proofs.Text.LowerCase

/-!
# Capital letters of ASCII

Which code points have a capital letter of ASCII for their upper case. Beside the letter itself and
its small form there are two beyond ASCII: the dotless i and the long s.
-/

namespace ListQuery.Text

/-- The small letters beyond ASCII whose upper case is in ASCII, each with its capital: the dotless
i and the long s. -/
def strayLetters : List (Nat × Nat) :=
  [(0x131, 73), (0x17F, 83)]

/-- Whether all images of a run are beyond ASCII, or the run is one of a stray letter. -/
def CaseRun.isBeyondAscii (run : CaseRun) : Bool :=
  0 ≤ run.first + run.offset && run.lastImage < 0x110000 &&
    (128 ≤ run.firstImage || run.first == run.last &&
      strayLetters.contains (run.first, run.firstImage))

/-- The runs of upper case lead into ASCII from stray letters only. -/
theorem isBeyondAscii_of_upperRuns : upperRuns.all CaseRun.isBeyondAscii = true := by
  decide +kernel

/-- Every expansion has several code points. -/
theorem length_ne_of_upperExpansions :
    upperExpansions.all (fun expansion => expansion.2.length ≠ 1) = true := by
  decide +kernel

variable {c letter : CodePoint}

/-- The capital letters by number. -/
theorem mem_capitals_iff {n : Nat} : n ∈ capitals ↔ 65 ≤ n ∧ n ≤ 90 := by
  simp only [capitals, List.mem_range'_1]
  omega

/-- A code point beyond ASCII that is mapped to a capital letter is a stray letter. -/
theorem mem_strayLetters (mapped : Mapped upperExpansions upperRuns c [letter])
    (large : 128 ≤ c.toNat) (capital : letter.toNat ∈ capitals) :
    (c.toNat, letter.toNat) ∈ strayLetters := by
  rw [mem_capitals_iff] at capital
  generalize isImage : [letter] = image at mapped
  cases mapped with
  | expanded listed =>
    have several := List.all_eq_true.1 length_ne_of_upperExpansions _ listed
    have one := congrArg List.length isImage
    simp at several one
    exact absurd one.symm several
  | @shifted run n listed image =>
    have beyond := List.all_eq_true.1 isBeyondAscii_of_upperRuns run listed
    simp only [CaseRun.isBeyondAscii, Bool.and_eq_true, Bool.or_eq_true, decide_eq_true_eq,
      beq_iff_eq, List.contains_iff_mem] at beyond
    obtain ⟨⟨positive, bounded⟩, apart⟩ := beyond
    obtain ⟨least, most, -⟩ := CaseRun.bounds_of_image? positive image
    obtain ⟨⟨front, back, -⟩, -⟩ := CaseRun.image?_eq_some_iff.1 image
    have number : n = letter.toNat := by
      rw [(List.cons.inj isImage).1, CodePoint.toNat_ofNat (by omega)]
    rcases apart with far | ⟨single, stray⟩
    · omega
    · have sameSource : c.toNat = run.first := by omega
      have sameImage : run.firstImage = run.lastImage := by
        unfold CaseRun.firstImage CaseRun.lastImage
        rw [single]
      have sameLetter : letter.toNat = run.firstImage := by omega
      rwa [sameSource, sameLetter]
  | kept =>
    rw [(List.cons.inj isImage).1] at capital
    omega

/-- A code point has a capital letter for its upper case exactly if it is that letter in one of its
two cases, or a stray letter that belongs to it. -/
theorem upperChar_eq_capital_iff (capital : letter.toNat ∈ capitals) :
    upperChar c = [letter] ↔
      c.toAsciiUpper = letter ∨ (c.toNat, letter.toNat) ∈ strayLetters := by
  constructor
  · intro upper
    by_cases ascii : c.toNat < 128
    · rw [upperChar, if_pos ascii] at upper
      exact .inl (List.cons.inj upper).1
    · rw [upperChar, if_neg ascii] at upper
      have mapped := mapped_mapCase upperExpansions upperRuns c
      rw [upper] at mapped
      exact .inr (mem_strayLetters mapped (by omega) capital)
  · rintro (upper | stray)
    · have isLetter : isAsciiLetter c.toAsciiUpper = true := by
        rw [upper]
        rw [mem_capitals_iff] at capital
        simp [isAsciiLetter, capital]
      have ascii : c.toNat < 128 := by
        have range := isAsciiLetter_of_toAsciiUpper isLetter
        simp only [isAsciiLetter, Bool.or_eq_true, Bool.and_eq_true, decide_eq_true_eq] at range
        omega
      rw [upperChar, if_pos ascii, upper]
    · have each : ∀ pair ∈ strayLetters, upperChar (.ofNat pair.1) = [.ofNat pair.2] := by
        decide +kernel
      simpa only [CodePoint.ofNat_toNat] using each _ stray

end ListQuery.Text
