import ListQuery.Number.Integer
import ListQuery.Proofs.Text.Digit
import ListQuery.Proofs.Text.Trim

/-!
# Reading integers back

A run of digits is an integer text of its value, and the shortest text of an integer has the sign
and the digits that it reads back with.
-/

namespace ListQuery.Integer

open Text

/-- A run of digits is read digit by digit. -/
theorem digits?_of_digitRun {digits : Text} (run : DigitRun digits) :
    digits? digits = some digits := by
  obtain ⟨nonempty, inside⟩ := run
  induction digits with
  | nil => exact absurd rfl nonempty
  | cons c rest ih =>
    obtain ⟨first, inside⟩ := within_cons.1 inside
    cases rest with
    | nil => simp [digits?, first]
    | cons d rest =>
      have digit := (within_cons.1 inside).1
      have noUnderscore : d ≠ .scalar '_' := ne_of_class digit (by decide)
      simp [digits?, first, noUnderscore, ih (by simp) inside]

/-- A text that starts with a digit has no sign. -/
theorem splitSign_of_digit {c : CodePoint} {rest : Text} (digit : isAsciiDigit c = true) :
    splitSign (c :: rest) = (false, c :: rest) := by
  unfold splitSign
  split
  · rename_i same
    cases same
    exact absurd digit (by decide)
  · rename_i same
    cases same
    exact absurd digit (by decide)
  · rfl

/-- A run of digits has no sign. -/
theorem splitSign_of_digitRun {digits : Text} (run : DigitRun digits) :
    splitSign digits = (false, digits) := by
  cases digits with
  | nil => exact absurd rfl run.nonempty
  | cons c rest => exact splitSign_of_digit (within_cons.1 run.digits).1

/-- A text with a code point that is neither a digit nor an underscore is no run of integer
digits. -/
theorem digits?_of_outside {text : Text} {c : CodePoint} (member : c ∈ text)
    (noDigit : isAsciiDigit c = false) (noUnderscore : c ≠ .scalar '_') :
    digits? text = none := by
  induction text using digits?.induct with
  | case1 => simp at member
  | case2 d digit =>
    cases List.mem_singleton.1 member
    simp [noDigit] at digit
  | case3 d noDigit => simp [digits?, noDigit]
  | case4 d e rest digit ihRest ih =>
    have behind : c ∈ e :: rest := by
      refine (List.mem_cons.1 member).resolve_left ?_
      rintro rfl
      simp [noDigit] at digit
    by_cases skipped : e = .scalar '_'
    · have later : c ∈ rest :=
        (List.mem_cons.1 behind).resolve_left fun same => noUnderscore (same.trans skipped)
      simp [digits?, skipped, ihRest later]
    · simp [digits?, skipped, ih behind]
  | case5 d e rest noDigit => simp [digits?, noDigit]

/-- A text that is taken as it is has no blanks at its ends. -/
theorem bare_of_isKept {text : Text} (kept : Within isKept text) : Bare isBlank text :=
  .of_forall fun c member => (isKept_iff.1 (kept c member)).2.1

/-- A text that is taken as it is is read without its sign. -/
theorem ofText?_of_isKept {text : Text} (kept : Within isKept text) :
    ofText? text = (digits? (splitSign text).2).bind fun digits =>
      if digits.length ≤ maxDigits then some (signed (splitSign text).1 (digitsValue digits))
      else none := by
  have bare : Bare isAsciiBlank text := by
    refine .of_forall fun c member => ?_
    rw [← Bool.not_eq_true]
    intro blank
    have noBlank := (isKept_iff.1 (kept c member)).2.1
    simp [isBlank_of_isAsciiBlank blank] at noBlank
  rw [ofText?, numeral?_of_isKept kept]
  simp only [Option.bind_eq_bind, Option.bind_some, bare.dropTrailing_dropWhile]

/-- A run of digits within the limit of integer texts is an integer text. -/
theorem ofText?_of_digitRun {digits : Text} (run : DigitRun digits)
    (bounded : digits.length ≤ maxDigits) :
    ofText? digits = some (digitsValue digits : Int) := by
  simp [ofText?_of_isKept (within_isKept run.digits), splitSign_of_digitRun run,
    digits?_of_digitRun run, bounded, signed]

/-- The shortest text of an integer is a sign, if it is negative, and the digits of its
magnitude. -/
theorem splitSign_ofInt (value : Int) :
    splitSign (ofInt value) = (decide (value < 0), ofNat value.natAbs) := by
  rw [ofInt]
  split
  · rename_i negative
    simp [splitSign, negative]
  · rename_i positive
    simp [splitSign_of_digitRun (digitRun_ofNat _), positive]

/-- An integer is its magnitude with its sign. -/
theorem signed_natAbs (value : Int) : signed (value < 0) value.natAbs = value := by
  by_cases negative : value < 0
  · rw [signed, if_pos (decide_eq_true negative)]
    omega
  · rw [signed, if_neg (by simpa using negative)]
    omega

/-- The shortest text of an integer reads back as the integer. -/
theorem ofText?_ofInt {value : Int} (bounded : (ofNat value.natAbs).length ≤ maxDigits) :
    ofText? (ofInt value) = some value := by
  have run := digitRun_ofNat value.natAbs
  have kept : Within isKept (ofInt value) := by
    have digits := within_isKept run.digits
    have sign : isKept (.scalar '-') = true := by decide
    unfold ofInt
    split
    · exact within_cons.2 ⟨sign, digits⟩
    · exact digits
  simp [ofText?_of_isKept kept, splitSign_ofInt, digits?_of_digitRun run, bounded, signed_natAbs]

end ListQuery.Integer
