import ListQuery.Proofs.Except
import ListQuery.Proofs.Text.Case
import ListQuery.Proofs.Text.Digit
import ListQuery.Proofs.Text.Trim

/-!
# Digits of any script

Readers of numbers take a decimal digit of any script for the ASCII digit of its value, and the
blanks beyond ASCII for spaces. `plainDigits` does the first and leaves all else as it is. Between
its blanks, a text is read as ASCII exactly if its plain form is ASCII (`numeral?_eq_some_iff`).
-/

namespace ListQuery.Text

/-- The ASCII digit of the value of a decimal digit of any script. Other code points stay. -/
def plainDigit (c : CodePoint) : CodePoint :=
  ((digitValue? c).map asciiDigit).getD c

/-- A text with an ASCII digit of the same value for each of its decimal digits. -/
def plainDigits (text : Text) : Text :=
  text.map plainDigit

/-- The blanks that may stand around an integer text: those of ASCII without the separator
controls, and all others. -/
def isNumeralBlank (c : CodePoint) : Bool :=
  isAsciiBlank c || (128 ≤ c.toNat && isBlank c)

/-! ## One code point -/

/-- A decimal digit stands its value behind the zero of its run. -/
theorem exists_zero_of_digitValue? {c : CodePoint} {value : Nat}
    (digit : digitValue? c = some value) :
    value ≤ 9 ∧ ∃ start ∈ digitZeros, c.toNat = start + value := by
  obtain ⟨start, found, rfl⟩ := Option.map_eq_some_iff.1 digit
  have range := List.find?_some found
  simp only [Bool.and_eq_true, decide_eq_true_eq] at range
  exact ⟨by omega, start, List.mem_of_find?_eq_some found, by omega⟩

/-- The ASCII digit of a value has the number of that value. -/
theorem toNat_asciiDigit {value : Nat} (small : value ≤ 9) :
    (asciiDigit value).toNat = 48 + value :=
  CodePoint.toNat_ofNat (by omega)

/-- The ASCII digit of a value is an ASCII digit. -/
theorem isAsciiDigit_asciiDigit {value : Nat} (small : value ≤ 9) :
    isAsciiDigit (asciiDigit value) = true := by
  rw [isAsciiDigit_iff, toNat_asciiDigit small]
  omega

/-- An ASCII code point is plain. -/
theorem plainDigit_of_ascii {c : CodePoint} (ascii : c.toNat < 128) : plainDigit c = c := by
  unfold plainDigit
  cases digit : digitValue? c with
  | none => rfl
  | some value =>
    obtain ⟨small, start, isStart, same⟩ := exists_zero_of_digitValue? digit
    have runs : ∀ start ∈ digitZeros, start = 48 ∨ 128 ≤ start := by decide
    rcases runs start isStart with rfl | beyond
    · apply CodePoint.toNat_inj.1
      exact (toNat_asciiDigit small).trans same.symm
    · omega

/-- A decimal digit is no blank. -/
theorem not_isBlank_of_digitValue? {c : CodePoint} {value : Nat}
    (digit : digitValue? c = some value) : isBlank c = false := by
  obtain ⟨small, start, isStart, same⟩ := exists_zero_of_digitValue? digit
  have apart : ∀ start ∈ digitZeros, ∀ n ∈ blankNumbers, n < start ∨ start + 9 < n := by
    decide +kernel
  by_contra blank
  have outside := apart start isStart _ (toNat_mem_blankNumbers (Bool.not_eq_false _ ▸ blank))
  omega

/-- A code point is read as an ASCII one that is no blank exactly if that is its plain form. -/
theorem numeralChar?_eq_some_iff {c d : CodePoint} (ascii : d.toNat < 128)
    (noBlank : isBlank d = false) : numeralChar? c = some d ↔ plainDigit c = d := by
  unfold numeralChar?
  split
  · rename_i plain
    rw [plainDigit_of_ascii plain, Option.some.injEq]
  rename_i beyond
  split
  · rename_i blank
    have noDigit : digitValue? c = none := by
      cases digit : digitValue? c with
      | none => rfl
      | some value => simp [not_isBlank_of_digitValue? digit] at blank
    constructor
    · intro space
      cases space
      exact absurd noBlank (by decide)
    · intro same
      simp only [plainDigit, noDigit, Option.map_none, Option.getD_none] at same
      exact absurd (same ▸ ascii) beyond
  · unfold plainDigit
    cases digit : digitValue? c with
    | none =>
      simp only [Option.map_none, Option.getD_none, reduceCtorEq, false_iff]
      rintro rfl
      exact beyond ascii
    | some value => simp

/-- A code point is read as an ASCII blank exactly if it is a blank around integer texts. -/
theorem isAsciiBlank_of_numeralChar? {c d : CodePoint} (read : numeralChar? c = some d) :
    isAsciiBlank d = isNumeralBlank c := by
  unfold numeralChar? at read
  unfold isNumeralBlank
  split at read
  · rename_i plain
    cases read
    have low : ¬ 128 ≤ c.toNat := by omega
    simp [low]
  rename_i beyond
  have noAscii : isAsciiBlank c = false := by
    rw [← Bool.not_eq_true, isAsciiBlank_iff]
    omega
  split at read
  · rename_i blank
    cases read
    have high : 128 ≤ c.toNat := by omega
    simp only [blank, high, decide_true, Bool.and_self, Bool.or_true]
    rfl
  · rename_i noBlank
    obtain ⟨value, digit, rfl⟩ := Option.map_eq_some_iff.1 read
    have word := isAsciiBlank_of_isWordChar
      (isWordChar_of_isAsciiDigit (isAsciiDigit_asciiDigit (exists_zero_of_digitValue? digit).1))
    simp [word, noAscii, noBlank]

/-- A blank around integer texts is a blank. -/
theorem isBlank_of_isNumeralBlank {c : CodePoint} (blank : isNumeralBlank c = true) :
    isBlank c = true := by
  simp only [isNumeralBlank, Bool.or_eq_true, Bool.and_eq_true] at blank
  exact blank.elim isBlank_of_isAsciiBlank And.right

/-- A plain form outside ASCII digits is the code point itself. -/
theorem eq_of_plainDigit {c d : CodePoint} (plain : plainDigit c = d)
    (noDigit : isAsciiDigit d = false) : c = d := by
  unfold plainDigit at plain
  cases digit : digitValue? c with
  | none => simpa [digit] using plain
  | some value =>
    rw [digit] at plain
    have isDigit := isAsciiDigit_asciiDigit (exists_zero_of_digitValue? digit).1
    simp [← plain, isDigit] at noDigit

/-! ## Whole texts -/

/-- A text is read code point by code point. -/
theorem numeral?_eq_some_iff_forall₂ {text ascii : Text} :
    numeral? text = some ascii ↔
      List.Forall₂ (fun c d => numeralChar? c = some d) text ascii :=
  mapM_eq_some_iff

/-- A text is read as an ASCII text without blanks exactly if that is its plain form. -/
theorem numeral?_eq_some_iff {text ascii : Text}
    (inside : ∀ d ∈ ascii, d.toNat < 128 ∧ isBlank d = false) :
    numeral? text = some ascii ↔ plainDigits text = ascii := by
  rw [numeral?_eq_some_iff_forall₂]
  induction ascii generalizing text with
  | nil => simp [plainDigits]
  | cons d ascii ih =>
    have first := inside d (by simp)
    have others : ∀ rest, List.Forall₂ (fun c d => numeralChar? c = some d) rest ascii ↔
        plainDigits rest = ascii :=
      fun _ => ih fun e member => inside e (by simp [member])
    rw [List.forall₂_cons_right_iff]
    constructor
    · rintro ⟨c, rest, read, readRest, rfl⟩
      rw [plainDigits, List.map_cons, (numeralChar?_eq_some_iff first.1 first.2).1 read]
      exact congrArg _ ((others rest).1 readRest)
    · intro plain
      obtain ⟨c, rest, rfl, isFirst, areOthers⟩ := List.map_eq_cons_iff.1 plain
      exact ⟨c, rest, (numeralChar?_eq_some_iff first.1 first.2).2 isFirst,
        (others rest).2 areOthers, rfl⟩

/-- A text is read as a text that readers take as it is exactly if that is its plain form. -/
theorem numeral?_eq_some_iff_of_isKept {text ascii : Text} (kept : Within isKept ascii) :
    numeral? text = some ascii ↔ plainDigits text = ascii := by
  apply numeral?_eq_some_iff
  intro d member
  obtain ⟨inAscii, noBlank, -⟩ := isKept_iff.1 (kept d member)
  exact ⟨inAscii, noBlank⟩

/-- Dropping blanks from the front of a text drops them from its ASCII form. -/
theorem forall₂_dropWhile_blank {text ascii : Text}
    (read : List.Forall₂ (fun c d => numeralChar? c = some d) text ascii) :
    List.Forall₂ (fun c d => numeralChar? c = some d) (text.dropWhile isNumeralBlank)
      (ascii.dropWhile isAsciiBlank) := by
  induction read with
  | nil => exact .nil
  | @cons c d text ascii first others ih =>
    rw [List.dropWhile_cons, List.dropWhile_cons, isAsciiBlank_of_numeralChar? first]
    split
    · exact ih
    · exact .cons first others

/-- Dropping the blanks around a text drops those around its ASCII form. -/
theorem numeral?_of_spaced {text ascii : Text} (read : numeral? text = some ascii) :
    numeral? (dropTrailing isNumeralBlank (text.dropWhile isNumeralBlank)) =
      some (dropTrailing isAsciiBlank (ascii.dropWhile isAsciiBlank)) := by
  rw [numeral?_eq_some_iff_forall₂] at read ⊢
  apply List.forall₂_reverse_iff.1
  rw [dropTrailing, dropTrailing, List.reverse_reverse, List.reverse_reverse]
  exact forall₂_dropWhile_blank (List.rel_reverse (forall₂_dropWhile_blank read))

/-- Blanks around a text are read as ASCII blanks. -/
theorem exists_numeral?_blanks {blanks : Text} (inside : Within isNumeralBlank blanks) :
    ∃ ascii, numeral? blanks = some ascii ∧ Within isAsciiBlank ascii := by
  simp only [numeral?_eq_some_iff_forall₂]
  induction blanks with
  | nil => exact ⟨[], .nil, within_nil⟩
  | cons c rest ih =>
    obtain ⟨blank, others⟩ := within_cons.1 inside
    obtain ⟨ascii, read, areBlank⟩ := ih others
    obtain ⟨d, first⟩ : ∃ d, numeralChar? c = some d := by
      unfold numeralChar?
      simp only [isBlank_of_isNumeralBlank blank, if_true]
      split <;> exact ⟨_, rfl⟩
    have isFirst : isAsciiBlank d = true := by rw [isAsciiBlank_of_numeralChar? first, blank]
    exact ⟨d :: ascii, .cons first read, within_cons.2 ⟨isFirst, areBlank⟩⟩

/-- A text is read part by part. -/
theorem numeral?_append {front back frontAscii backAscii : Text}
    (isFront : numeral? front = some frontAscii) (isBack : numeral? back = some backAscii) :
    numeral? (front ++ back) = some (frontAscii ++ backAscii) := by
  rw [numeral?_eq_some_iff_forall₂] at isFront isBack ⊢
  exact List.rel_append isFront isBack

end ListQuery.Text
